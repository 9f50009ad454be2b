import CpuAlert.Proofs.Store.Agreement

/-!
# The history as a log

Both stores keep the history in the same way: entries in the order of their
numbers, each of which can be read at any time. A call either takes entries away
or adds one at the end, under the number after the last one ever given. So a store
that only its own calls have changed keeps positive numbers in increasing order,
and a number that is gone never comes back.

## Main definitions

* `Entry`, `Backend.entries` — what a store keeps of its history
* `Backend.IsReachable` — a store that only its own calls have changed
* `Backend.IsLog` — entries in order, under numbers that were given
* `Backend.history` — a page of the history, as a service reads it

## Main results

* `Backend.perform_entries` — what a call does to the entries
* `Backend.IsReachable.isLog` — every reachable store is a log
* `Backend.exists_history` — a page is made of entries
-/

namespace CpuAlert

open Store (Call)
open Time (Instant)

/-! ## Entries -/

/-- A recorded notification as its store keeps it: its number, and what it is read
as at some time. -/
structure Entry where
  id : Int
  read : Instant → Except StoreError Event

namespace Entry

/-- An event in memory. -/
def ofEvent (e : Event) : Entry := ⟨e.id, fun _ => .ok e⟩

/-- A row of a file. -/
def ofRow (r : Database.EventRow) : Entry := ⟨r.id, fun now => r.event now⟩

/-- At any time the entry is read as an event with its number. -/
def IsReadable (a : Entry) : Prop := ∀ now, ∃ e, a.read now = .ok e ∧ e.id = a.id

theorem isReadable_ofEvent (e : Event) : (ofEvent e).IsReadable :=
  fun _ => ⟨e, rfl, rfl⟩

/-- The row of an event whose load is a number can be read. -/
theorem isReadable_ofDraft {draft : Event.Draft} (h : draft.cpuPercent.isNaN = false) (id : Int) :
    (ofRow (.ofDraft id draft)).IsReadable := by
  intro now
  simp only [ofRow, Database.EventRow.event, Database.EventRow.ofDraft,
    Database.readReal_ofFloat h, Cell.readInt]
  exact ⟨_, rfl, rfl⟩

/-- Entries that can all be read are read as events with their numbers. -/
theorem exists_mapM_read {entries : List Entry} (h : ∀ a ∈ entries, a.IsReadable) (now : Instant) :
    ∃ events, entries.mapM (·.read now) = .ok events ∧ events.map (·.id) = entries.map (·.id) ∧
      ∀ e ∈ events, ∃ a ∈ entries, a.read now = .ok e := by
  obtain ⟨events, hevents, hread⟩ := exists_mapM_eq_ok fun a ha =>
    (h a ha now).imp fun e (he : a.read now = .ok e ∧ e.id = a.id) => ⟨he.1, he⟩
  refine ⟨events, hevents, map_eq_of_forall₂ hread fun _ _ h => h.2, fun e he => ?_⟩
  have hmem : (.ok e : Except StoreError Event) ∈ events.map .ok := List.mem_map_of_mem he
  rw [← mapM_eq_ok_iff.mp hevents] at hmem
  exact List.mem_map.mp hmem

end Entry

namespace Backend

/-- What the store keeps of its history, the oldest first. -/
def entries : Backend → List Entry
  | .memory m => m.events.map .ofEvent
  | .database d => d.events.map .ofRow

/-- The numbers of the events that the store keeps. -/
def ids (b : Backend) : List Int := b.entries.map (·.id)

/-- The last number that the store has given. -/
def lastId : Backend → Int
  | .memory m => m.lastId
  | .database d => d.lastId

/-- The store answers calls. -/
def IsOpen : Backend → Prop
  | .memory _ => True
  | .database d => d.isOpen

/-- A store that only its own calls have changed since it was new. -/
inductive IsReachable : Backend → Prop
  | memory (config : Config) : IsReachable (.memory (.ofConfig config))
  | database (path : String) : IsReachable (.database { path })
  | call {b : Backend} (h : IsReachable b) (now : Instant) (c : Call) :
    IsReachable (b.perform now c).2
  | reopen {b : Backend} (h : IsReachable b) : IsReachable b.reopen

/-- The entries stand in the order of their numbers, which are positive and have
been given, and all of them can be read. -/
structure IsLog (b : Backend) : Prop where
  increasing : b.entries.Pairwise fun a a' => a.id < a'.id
  positive : ∀ a ∈ b.entries, 0 < a.id
  given : ∀ a ∈ b.entries, a.id ≤ b.lastId
  lastId_nonneg : 0 ≤ b.lastId
  readable : ∀ a ∈ b.entries, a.IsReadable

/-! ## What a call does -/

/-- Entries were taken away, or nothing has happened. -/
def Thins (b b' : Backend) : Prop := b'.entries.Sublist b.entries ∧ b'.lastId = b.lastId

/-- An entry was added under the next number. -/
def Grows (b b' : Backend) : Prop :=
  ∃ a : Entry, a.id = b.lastId + 1 ∧ a.IsReadable ∧ b'.entries = b.entries ++ [a] ∧
    b'.lastId = b.lastId + 1

variable {b b' : Backend}

theorem thins_of_eq (hentries : b'.entries = b.entries) (hlast : b'.lastId = b.lastId) :
    b.Thins b' :=
  ⟨hentries ▸ List.Sublist.refl _, hlast⟩

theorem IsLog.of_thins (hb : b.IsLog) (h : b.Thins b') : b'.IsLog := by
  obtain ⟨hsub, hlast⟩ := h
  refine ⟨hb.increasing.sublist hsub, ?_, ?_, hlast ▸ hb.lastId_nonneg, ?_⟩
  · intro a ha
    exact hb.positive a (hsub.mem ha)
  · intro a ha
    rw [hlast]
    exact hb.given a (hsub.mem ha)
  · intro a ha
    exact hb.readable a (hsub.mem ha)

theorem IsLog.of_grows (hb : b.IsLog) (h : b.Grows b') : b'.IsLog := by
  obtain ⟨a, hid, hread, hentries, hlast⟩ := h
  have hnonneg := hb.lastId_nonneg
  have hall {p : Entry → Prop} (hold : ∀ a ∈ b.entries, p a) (hnew : p a) :
      ∀ a ∈ b'.entries, p a := by
    rw [hentries, List.forall_mem_append]
    exact ⟨hold, List.forall_mem_singleton.mpr hnew⟩
  refine ⟨?_, hall hb.positive (by omega), hall ?_ (by omega), by omega, hall hb.readable hread⟩
  · rw [hentries, List.pairwise_append]
    refine ⟨hb.increasing, List.pairwise_singleton .., ?_⟩
    intro old hold new hnew
    rw [List.mem_singleton.mp hnew]
    have hgiven := hb.given old hold
    omega
  · intro old hold
    have hgiven := hb.given old hold
    omega

/-- A file refuses an event and stays as it is, or adds its row under the next
number. -/
theorem append_cases {d : Database} (hd : (Backend.database d).IsLog) (draft : Event.Draft) :
    (∃ e, d.append draft = (.error e, d)) ∨
      draft.cpuPercent.isNaN = false ∧ d.append draft = (.ok (d.lastId + 1),
        { d with
          events := d.events ++ [.ofDraft (d.lastId + 1) draft]
          lastId := d.lastId + 1 }) := by
  have hlast : (d.events.map (·.id)).foldl max d.lastId = d.lastId := by
    apply Memory.foldl_max_eq
    intro i hi
    obtain ⟨r, hr, rfl⟩ := List.mem_map.mp hi
    exact hd.given (.ofRow r) (List.mem_map_of_mem hr)
  simp only [Database.append, Database.insert, Database.nextId?, hlast]
  split
  · exact .inl ⟨_, rfl⟩
  · exact .inl ⟨_, rfl⟩
  · rename_i id hid hnumber
    rw [Database.emptyColumn?_eq_none_iff, List.forall_mem_singleton] at hnumber
    split at hid
    · rw [← Option.some.inj hid]
      exact .inr ⟨hnumber, rfl⟩
    · cases hid

/-- A call takes entries away or adds one at the end. -/
theorem perform_entries (hb : b.IsLog) (now : Instant) (c : Call) :
    b.Thins (b.perform now c).2 ∨ b.Grows (b.perform now c).2 := by
  cases b with
  | memory m =>
    cases c with
    | append draft =>
      refine .inr ⟨.ofEvent (draft.numbered (m.lastId + 1)), rfl, Entry.isReadable_ofEvent _, ?_,
        rfl⟩
      simp only [perform, Memory.perform, Memory.append, entries, List.map_append, List.map_cons,
        List.map_nil]
    | deleteBefore cutoff => exact .inl ⟨List.filter_sublist.map _, rfl⟩
    | _ => exact .inl (thins_of_eq rfl rfl)
  | database d =>
    simp only [perform, Database.perform]
    split
    · cases c with
      | append draft =>
        simp only [Database.performOpen]
        rcases append_cases hb draft with ⟨e, hrefused⟩ | ⟨hload, hadded⟩
        · rw [hrefused]
          exact .inl (thins_of_eq rfl rfl)
        · rw [hadded]
          refine .inr ⟨.ofRow (.ofDraft (d.lastId + 1) draft), rfl,
            Entry.isReadable_ofDraft hload _, ?_, rfl⟩
          simp only [entries, List.map_append, List.map_cons, List.map_nil]
      | deleteBefore cutoff => exact .inl ⟨List.filter_sublist.map _, rfl⟩
      | writeConfig config =>
        left
        simp only [Database.performOpen, Database.writeConfig]
        split
        · exact thins_of_eq rfl rfl
        · split <;> exact thins_of_eq rfl rfl
      | _ => exact .inl (thins_of_eq rfl rfl)
    · -- a closed file is left as it is
      split <;> exact .inl (thins_of_eq rfl rfl)

theorem IsLog.perform (hb : b.IsLog) (now : Instant) (c : Call) : (b.perform now c).2.IsLog := by
  rcases perform_entries hb now c with h | h
  · exact hb.of_thins h
  · exact hb.of_grows h

theorem entries_reopen (b : Backend) : b.reopen.entries = b.entries := by
  cases b <;> rfl

theorem lastId_reopen (b : Backend) : b.reopen.lastId = b.lastId := by
  cases b <;> rfl

/-- Every store that only its own calls have changed is a log. -/
theorem IsReachable.isLog (h : b.IsReachable) : b.IsLog := by
  have hempty {b : Backend} (hentries : b.entries = []) (hlast : b.lastId = 0) : b.IsLog := by
    refine ⟨?_, ?_, ?_, by omega, ?_⟩ <;> simp [hentries]
  induction h with
  | memory config => exact hempty rfl rfl
  | database path => exact hempty rfl rfl
  | call _ now c ih => exact ih.perform now c
  | @reopen b _ ih => exact ih.of_thins (thins_of_eq (entries_reopen b) (lastId_reopen b))

/-! ## Pages -/

/-- A page of the history of a store, as a service reads it at some time, and the
store afterwards. -/
def history (b : Backend) (now : Instant) (limit : Int) (before : Option Int) :
    Except ServiceError (List Event) × Backend :=
  let (answer, w) := (Service.history limit before).run
    { store := b, wall := now, nonces := fun _ => .error "no nonce is drawn" }
  (answer, w.store)

/-- The newest entries that a page admits. -/
def page (b : Backend) (p : Page) : List Entry :=
  (b.entries.reverse.filter fun a => p.admits a.id).take p.limit

/-- A page is read from its entries, and nothing changes. -/
theorem perform_list (hopen : b.IsOpen) (now : Instant) (p : Page) :
    b.perform now (.list p) = ((b.page p).mapM (·.read now), b) := by
  cases b with
  | memory m =>
    have hread (es : List Event) : (es.map Entry.ofEvent).mapM (·.read now) = .ok es := by
      rw [mapM_eq_ok_iff, List.map_map]
      rfl
    rw [page, entries, take_filter_reverse_map, hread]
    rfl
  | database d =>
    have hopen' : d.isOpen = true := hopen
    have hread (rows : List Database.EventRow) :
        (rows.map Entry.ofRow).mapM (·.read now) = rows.mapM (·.event now) := List.mapM_map
    rw [page, entries, take_filter_reverse_map, hread]
    simp only [perform, Database.perform, hopen', if_true]
    rfl

/-- A service reads a page from its entries, and nothing changes. -/
theorem exists_history (hb : b.IsLog) (hopen : b.IsOpen) (now : Instant) (limit : Int)
    (before : Option Int) :
    ∃ events, b.history now limit before = (.ok events, b) ∧
      events.map (·.id) = (b.page (.of limit before)).map (·.id) ∧
      ∀ e ∈ events, ∃ a ∈ b.page (.of limit before), a.read now = .ok e := by
  have hreadable : ∀ a ∈ b.page (.of limit before), a.IsReadable := by
    intro a ha
    have hmem := List.mem_reverse.mp (List.mem_filter.mp (List.mem_of_mem_take ha)).1
    exact hb.readable a hmem
  obtain ⟨events, hevents, hids, hmem⟩ := Entry.exists_mapM_read hreadable now
  refine ⟨events, ?_, hids, hmem⟩
  have hrun : b.history now limit before =
      (Service.persisted (b.perform now (.list (.of limit before))).1,
        (b.perform now (.list (.of limit before))).2) := rfl
  rw [hrun, perform_list hopen, hevents]
  rfl

end Backend

end CpuAlert
