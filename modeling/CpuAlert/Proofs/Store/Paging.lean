import CpuAlert.Proofs.Store.Log
import Mathlib.Data.List.Nodup

/-!
# Reading the history page by page

A reader begins with the newest events and then asks for what stands before the
last event of the page it was given, until a page is empty. In the meantime others
append events and delete old ones. What is ahead of the reader can only become
less: a new event gets a number above all others, and a page is full or takes
everything that is ahead. So nothing is seen twice, nothing is missed that was not
deleted before the reader came to it, and the reader comes to an end.

## Main definitions

* `Store.Write`, `Backend.later` — what others do meanwhile
* `Backend.reads` — what a reader is given
* `Backend.ahead` — the entries that a reader has not come to

## Main results

* `Backend.exists_isPage` — one page
* `Backend.ahead_later` — what is ahead becomes less
* `Backend.history_paged` — all pages
-/

namespace CpuAlert

open Store (Call)
open Time (Instant)

/-! ## Readers and writers -/

namespace Store

/-- What others do to the history. -/
inductive Write
  | append (draft : Event.Draft)
  | deleteBefore (cutoff : Instant)

/-- The call that does it. -/
def Write.call : Write → Call
  | append draft => .append draft
  | deleteBefore cutoff => .deleteBefore cutoff

/-- The number that an event was given, if it was one that was written. -/
def Write.number? : (x : Write) → x.call.Answer → Option Int
  | append _, .ok id => some id
  | append _, .error _ => none
  | deleteBefore _, _ => none

/-- When a page is read, and what others do, at which times, before the next. -/
structure Visit where
  now : Instant
  writes : List (Instant × Write)

/-- A page that is read: the store at that time, where the reader was, and what
came of it. -/
structure Reading where
  store : Backend
  cursor : Option Int
  answer : Except ServiceError (List Event)

end Store

open Store (Write Visit Reading)

namespace Backend

/-- A store after what others do. -/
def later (b : Backend) : List (Instant × Write) → Backend
  | [] => b
  | (now, x) :: writes => (b.perform now x.call).2.later writes

/-- The numbers that events are given by what others do. -/
def numbers (b : Backend) : List (Instant × Write) → List Int
  | [] => []
  | (now, x) :: writes =>
    let (answer, b) := b.perform now x.call
    (x.number? answer).toList ++ b.numbers writes

/-- What a reader is given, visit by visit. The next cursor is the number of the
last event on a page, and an empty page is the end. -/
def reads (limit : Int) (cursor : Option Int) : List Visit → Backend → List Reading
  | [], _ => []
  | v :: visits, b =>
    let (answer, after) := b.history v.now limit cursor
    ⟨b, cursor, answer⟩ ::
      match answer with
      | .error _ => []
      | .ok events =>
        match events.getLast? with
        | none => []
        | some e => reads limit (some e.id) visits (after.later v.writes)

/-- The entries that a reader with this cursor has not come to. -/
def ahead (b : Backend) (cursor : Option Int) : List Entry :=
  b.entries.filter fun a => cursor.all (a.id < ·)

/-! ## What others do -/

/-- One store is what another has become: it is an open log, and of what it keeps
the numbers are old or above all that had been given. -/
structure Follows (b b' : Backend) : Prop where
  isLog : b'.IsLog
  isOpen : b'.IsOpen
  lastId_le : b.lastId ≤ b'.lastId
  older : (b'.entries.filter (·.id ≤ b.lastId)).Sublist b.entries

variable {b b' b'' : Backend}

theorem Follows.refl (hb : b.IsLog) (hopen : b.IsOpen) : b.Follows b :=
  ⟨hb, hopen, Int.le_refl _, List.filter_sublist⟩

theorem Follows.trans (h : b.Follows b') (h' : b'.Follows b'') : b.Follows b'' := by
  refine ⟨h'.isLog, h'.isOpen, Int.le_trans h.lastId_le h'.lastId_le, ?_⟩
  have hfilter : b''.entries.filter (·.id ≤ b.lastId) =
      (b''.entries.filter (·.id ≤ b'.lastId)).filter (·.id ≤ b.lastId) := by
    rw [List.filter_filter]
    apply List.filter_congr
    intro a _
    have hle := h.lastId_le
    simp only [Bool.and_eq_decide, decide_eq_true_eq, decide_eq_decide]
    omega
  rw [hfilter]
  exact (h'.older.filter _).trans h.older

theorem Thins.follows (hb : b.IsLog) (hopen : b'.IsOpen) (h : b.Thins b') : b.Follows b' :=
  ⟨hb.of_thins h, hopen, Int.le_of_eq h.2.symm, List.filter_sublist.trans h.1⟩

theorem Grows.follows (hb : b.IsLog) (hopen : b'.IsOpen) (h : b.Grows b') : b.Follows b' := by
  refine ⟨hb.of_grows h, hopen, ?_, ?_⟩
  · obtain ⟨a, -, -, -, hlast⟩ := h
    omega
  · obtain ⟨a, hid, -, hentries, -⟩ := h
    -- the entry that was added is the only one whose number is new
    have hnew : ¬ a.id ≤ b.lastId := by omega
    rw [hentries, List.filter_append, List.filter_cons_of_neg (by simpa using hnew),
      List.filter_nil, List.append_nil]
    exact List.filter_sublist

theorem isOpen_perform (hopen : b.IsOpen) (now : Instant) (x : Write) :
    (b.perform now x.call).2.IsOpen := by
  cases b with
  | memory m => trivial
  | database d =>
    have hopen' : d.isOpen = true := hopen
    simp only [perform, Database.perform, hopen', if_true]
    cases x with
    | append draft =>
      simp only [Write.call, Database.performOpen, Database.append, Database.insert]
      split <;> exact hopen'
    | deleteBefore cutoff => exact hopen'

theorem follows_perform (hb : b.IsLog) (hopen : b.IsOpen) (now : Instant) (x : Write) :
    b.Follows (b.perform now x.call).2 := by
  rcases perform_entries hb now x.call with h | h
  · exact h.follows hb (isOpen_perform hopen now x)
  · exact h.follows hb (isOpen_perform hopen now x)

theorem follows_later (hb : b.IsLog) (hopen : b.IsOpen) (writes : List (Instant × Write)) :
    b.Follows (b.later writes) := by
  induction writes generalizing b with
  | nil => exact .refl hb hopen
  | cons write writes ih =>
    obtain ⟨now, x⟩ := write
    have hfirst := follows_perform hb hopen now x
    exact hfirst.trans (ih hfirst.isLog hfirst.isOpen)

/-- A number that is given is above all that had been given. -/
theorem lt_of_number?_eq_some (hb : b.IsLog) (now : Instant) {x : Write} {id : Int}
    (h : x.number? (b.perform now x.call).1 = some id) : b.lastId < id := by
  cases x with
  | deleteBefore cutoff => cases h
  | append draft =>
    cases b with
    | memory m =>
      obtain rfl := Option.some.inj h
      exact Int.lt_succ m.lastId
    | database d =>
      simp only [Write.call, perform, Database.perform, Database.performOpen] at h
      split at h
      · rcases append_cases hb draft with ⟨e, hrefused⟩ | ⟨-, hadded⟩
        · rw [hrefused] at h
          cases h
        · rw [hadded] at h
          obtain rfl := Option.some.inj h
          exact Int.lt_succ d.lastId
      · cases h

/-- Whatever others append gets a number above all that had been given. -/
theorem lt_of_mem_numbers (hb : b.IsLog) (hopen : b.IsOpen) {writes : List (Instant × Write)}
    {id : Int} (h : id ∈ b.numbers writes) : b.lastId < id := by
  induction writes generalizing b with
  | nil => cases h
  | cons write writes ih =>
    obtain ⟨now, x⟩ := write
    have hfirst := follows_perform hb hopen now x
    rcases List.mem_append.mp h with h | h
    · exact lt_of_number?_eq_some hb now (Option.mem_toList.mp h)
    · exact Int.lt_of_le_of_lt hfirst.lastId_le (ih hfirst.isLog hfirst.isOpen h)

/-! ## One page -/

variable {cursor : Option Int} {now : Instant} {events : List Event} {limit : Int}

/-- What a page tells: the newest events ahead of the reader, without a gap. -/
structure IsPage (b : Backend) (now : Instant) (cursor : Option Int) (events : List Event) :
    Prop where
  short : events.length ≤ Page.maxLimit
  decreasing : (events.map (·.id)).Pairwise (· > ·)
  shown : ∀ e ∈ events, ∃ a ∈ b.ahead cursor, a.read now = .ok e ∧ a.id = e.id
  gapless : ∀ a ∈ b.ahead cursor, a.id ∈ events.map (·.id) ∨ events ≠ [] ∧ ∀ e ∈ events, a.id < e.id

/-- A page with a positive cursor is cut from what is ahead. -/
theorem page_eq (hcursor : ∀ c ∈ cursor, 0 < c) :
    b.page (.of limit cursor) = (b.ahead cursor).reverse.take (Page.of limit cursor).limit := by
  have hadmits : ∀ a ∈ b.entries.reverse,
      (Page.of limit cursor).admits a.id = cursor.all (a.id < ·) := by
    intro a _
    cases cursor with
    | none => rfl
    | some c =>
      have hpositive : 0 < c := hcursor c rfl
      simp only [Page.of, Page.admits, Option.filter_some, hpositive, decide_true, if_true,
        Option.all_some]
  rw [page, ahead, List.filter_congr hadmits, List.filter_reverse]

/-- A page shows the newest events ahead of the reader. -/
theorem exists_isPage (hb : b.IsLog) (hopen : b.IsOpen) (hcursor : ∀ c ∈ cursor, 0 < c)
    (now : Instant) (limit : Int) :
    ∃ events, b.history now limit cursor = (.ok events, b) ∧ b.IsPage now cursor events := by
  obtain ⟨events, hhistory, hids, hshown⟩ := exists_history hb hopen now limit cursor
  obtain ⟨hpositive, hmax⟩ := Page.limit_of limit cursor
  rw [page_eq hcursor] at hids hshown
  have hsorted : (b.ahead cursor).reverse.Pairwise fun a a' => a.id > a'.id := by
    rw [List.pairwise_reverse]
    exact hb.increasing.sublist List.filter_sublist
  generalize hlimit : (Page.of limit cursor).limit = count at *
  have hcut := List.take_append_drop count (b.ahead cursor).reverse
  have hlength := congrArg List.length hids
  rw [List.length_map, List.length_map, List.length_take] at hlength
  refine ⟨events, hhistory, ?_, ?_, ?_, ?_⟩
  · omega
  · rw [hids, List.pairwise_map]
    exact hsorted.sublist (List.take_sublist ..)
  · intro e he
    obtain ⟨a, ha, hread⟩ := hshown e he
    have hahead : a ∈ b.ahead cursor := List.mem_reverse.mp (List.mem_of_mem_take ha)
    obtain ⟨e', he', hid⟩ := hb.readable a (List.mem_filter.mp hahead).1 now
    rw [he'] at hread
    obtain rfl := Except.ok.inj hread
    exact ⟨a, hahead, he', hid.symm⟩
  · intro a ha
    rw [← List.mem_reverse, ← hcut, List.mem_append] at ha
    rcases ha with ha | ha
    · left
      rw [hids]
      exact List.mem_map_of_mem ha
    · -- what does not fit on the page is older than all that does
      right
      have hrest := List.length_pos_of_mem ha
      rw [List.length_drop] at hrest
      rw [← hcut, List.pairwise_append] at hsorted
      refine ⟨List.ne_nil_of_length_pos (by omega), ?_⟩
      intro e he
      have hid : e.id ∈ events.map (·.id) := List.mem_map_of_mem he
      rw [hids] at hid
      obtain ⟨a', ha', hid'⟩ := List.mem_map.mp hid
      have hlt := hsorted.2.2 a' ha' a ha
      omega

/-- No event on a page has a smaller number than the last. -/
theorem IsPage.last_le {last : Event} (h : b.IsPage now cursor events)
    (hlast : events.getLast? = some last) : ∀ e ∈ events, last.id ≤ e.id := by
  obtain ⟨init, rfl⟩ := List.getLast?_eq_some_iff.mp hlast
  have hdecreasing := h.decreasing
  rw [List.map_append, List.pairwise_append] at hdecreasing
  intro e he
  rcases List.mem_append.mp he with he | he
  · have hlt := hdecreasing.2.2 e.id (List.mem_map_of_mem he) last.id (List.mem_singleton_self _)
    omega
  · exact Int.le_of_eq (congrArg Event.id (List.mem_singleton.mp he)).symm

/-! ## All pages -/

/-- What is ahead of a reader becomes less: behind an entry that it has come to,
others only take entries away. -/
theorem ahead_later (h : b.Follows b') {a : Entry} (hb : b.IsLog) (ha : a ∈ b.ahead cursor) :
    (b'.ahead (some a.id)).Sublist ((b.ahead cursor).filter (·.id < a.id)) := by
  obtain ⟨hmem, hadmitted⟩ := List.mem_filter.mp ha
  have hgiven := hb.given a hmem
  have hleft : b'.ahead (some a.id) =
      (b'.entries.filter (·.id ≤ b.lastId)).filter (·.id < a.id) := by
    rw [ahead, List.filter_filter]
    apply List.filter_congr
    intro a' _
    simp only [Option.all_some, Bool.and_eq_decide, decide_eq_true_eq, decide_eq_decide]
    omega
  have hright : (b.ahead cursor).filter (·.id < a.id) = b.entries.filter (·.id < a.id) := by
    rw [ahead, List.filter_filter]
    apply List.filter_congr
    intro a' _
    cases cursor with
    | none => simp
    | some c =>
      simp only [Option.all_some, decide_eq_true_eq] at hadmitted
      simp only [Option.all_some, Bool.and_eq_decide, decide_eq_true_eq, decide_eq_decide]
      omega
  rw [hleft, hright]
  exact h.older.filter _

/-- What a reader is told from some place on, however often it reads. -/
structure IsTold (limit : Int) (cursor : Option Int) (visits : List Visit) (b : Backend)
    (pages : List (List Event)) : Prop where
  answers : (b.reads limit cursor visits).map (·.answer) = pages.map .ok
  short : ∀ page ∈ pages, page.length ≤ Page.maxLimit
  decreasing : (pages.flatten.map (·.id)).Pairwise (· > ·)
  shown : ∀ e ∈ pages.flatten, ∃ a ∈ b.ahead cursor, a.id = e.id ∧
    ∃ v ∈ visits, a.read v.now = .ok e
  complete : [] ∈ pages → ∀ a ∈ b.ahead cursor, a.id ∈ pages.flatten.map (·.id) ∨
    ∃ r ∈ b.reads limit cursor visits, r.cursor.all (a.id < ·) ∧ a.id ∉ r.store.ids
  length_le : pages.length ≤ (b.ahead cursor).length + 1
  ends : (b.ahead cursor).length < visits.length → [] ∈ pages

theorem isTold_nil (limit : Int) (cursor : Option Int) (b : Backend) :
    IsTold limit cursor [] b [] := by
  refine ⟨rfl, ?_, ?_, ?_, ?_, ?_, ?_⟩ <;> simp

variable {visits : List Visit} {v : Visit} {pages : List (List Event)}

/-- An empty page is the end. -/
theorem IsPage.isTold_end (h : b.IsPage v.now cursor [])
    (hhistory : b.history v.now limit cursor = (.ok [], b)) :
    IsTold limit cursor (v :: visits) b [[]] := by
  have hahead : b.ahead cursor = [] := by
    rw [List.eq_nil_iff_forall_not_mem]
    intro a ha
    rcases h.gapless a ha with hmem | ⟨hne, -⟩
    · cases hmem
    · exact hne rfl
  refine ⟨?_, ?_, ?_, ?_, ?_, ?_, ?_⟩
  · rw [reads, hhistory]
    rfl
  all_goals simp [hahead]

theorem reads_cons (visits : List Visit) {last : Event}
    (hhistory : b.history v.now limit cursor = (.ok events, b))
    (hlast : events.getLast? = some last) :
    b.reads limit cursor (v :: visits) = ⟨b, cursor, .ok events⟩ ::
      (b.later v.writes).reads limit (some last.id) visits := by
  rw [reads, hhistory]
  simp only [hlast]

/-- What is not on a page is ahead at the next visit, or was deleted before. -/
theorem IsTold.complete_below {last : Event}
    (h : IsTold limit (some last.id) visits b' pages) (hend : [] ∈ pages) {a : Entry}
    (hlt : a.id < last.id) :
    a.id ∈ pages.flatten.map (·.id) ∨
      ∃ r ∈ b'.reads limit (some last.id) visits, r.cursor.all (a.id < ·) ∧ a.id ∉ r.store.ids := by
  by_cases hstill : a.id ∈ b'.ids
  · obtain ⟨a', ha', hsame⟩ := List.mem_map.mp hstill
    have hahead : a' ∈ b'.ahead (some last.id) := by
      rw [ahead, List.mem_filter]
      exact ⟨ha', by simp [hsame, hlt]⟩
    have hcomplete := h.complete hend a' hahead
    rwa [hsame] at hcomplete
  · right
    cases visits with
    | nil =>
      -- without a visit there is no page that is empty
      have hlength := congrArg List.length h.answers
      rw [List.length_map, List.length_map, reads, List.length_nil] at hlength
      exact absurd (List.length_pos_of_mem hend) (by omega)
    | cons v visits =>
      let answer := (b'.history v.now limit (some last.id)).1
      refine ⟨⟨b', some last.id, answer⟩, List.mem_cons_self, ?_, hstill⟩
      exact decide_eq_true hlt

/-- A page that is not empty comes before those that are read from its last event
on. -/
theorem IsPage.isTold_cons {last : Event} (hb : b.IsLog) (h : b.IsPage v.now cursor events)
    (hhistory : b.history v.now limit cursor = (.ok events, b))
    (hlast : events.getLast? = some last) (hfollows : b.Follows (b.later v.writes))
    (hrest : IsTold limit (some last.id) visits (b.later v.writes) pages) :
    IsTold limit cursor (v :: visits) b (events :: pages) := by
  have hmem : last ∈ events := List.mem_of_getLast? hlast
  -- behind the last event less is ahead, by that event at least
  obtain ⟨a, ha, -, hid⟩ := h.shown last hmem
  have hless := ahead_later hfollows hb ha
  rw [hid] at hless
  have hbelow : ∀ a ∈ (b.later v.writes).ahead (some last.id),
      a ∈ b.ahead cursor ∧ a.id < last.id := by
    intro a ha
    obtain ⟨hold, hlt⟩ := List.mem_filter.mp (hless.mem ha)
    exact ⟨hold, of_decide_eq_true hlt⟩
  have hfewer : ((b.later v.writes).ahead (some last.id)).length < (b.ahead cursor).length := by
    apply Nat.lt_of_le_of_lt hless.length_le
    rw [List.length_filter_lt_length_iff_exists]
    exact ⟨a, ha, by simp [hid]⟩
  have hreads := reads_cons visits hhistory hlast
  refine ⟨?_, ?_, ?_, ?_, ?_, ?_, ?_⟩
  · rw [hreads, List.map_cons, List.map_cons, hrest.answers]
  · exact List.forall_mem_cons.mpr ⟨h.short, hrest.short⟩
  · rw [List.flatten_cons, List.map_append, List.pairwise_append]
    refine ⟨h.decreasing, hrest.decreasing, ?_⟩
    intro i hi j hj
    obtain ⟨e, he, rfl⟩ := List.mem_map.mp hi
    obtain ⟨e', he', rfl⟩ := List.mem_map.mp hj
    obtain ⟨a', ha', hid', -⟩ := hrest.shown e' he'
    have hlt := (hbelow a' ha').2
    have hge := h.last_le hlast e he
    omega
  · rw [List.flatten_cons, List.forall_mem_append]
    constructor
    · intro e he
      obtain ⟨a', ha', hread, hid'⟩ := h.shown e he
      exact ⟨a', ha', hid', v, List.mem_cons_self, hread⟩
    · intro e he
      obtain ⟨a', ha', hid', v', hv', hread⟩ := hrest.shown e he
      exact ⟨a', (hbelow a' ha').1, hid', v', List.mem_cons_of_mem v hv', hread⟩
  · -- the empty page at the end is one of those that follow
    intro hend a' ha'
    have hne : [] ≠ events := by
      rintro rfl
      cases hmem
    have hend' : [] ∈ pages := (List.mem_cons.mp hend).resolve_left hne
    rw [List.flatten_cons, List.map_append, List.mem_append, hreads]
    rcases h.gapless a' ha' with hseen | ⟨-, hlater⟩
    · exact .inl (.inl hseen)
    · rcases hrest.complete_below hend' (hlater last hmem) with hseen | ⟨r, hr, hgone⟩
      · exact .inl (.inr hseen)
      · exact .inr ⟨r, List.mem_cons_of_mem _ hr, hgone⟩
  · have hlength := hrest.length_le
    rw [List.length_cons]
    omega
  · intro hvisits
    rw [List.length_cons] at hvisits
    exact List.mem_cons_of_mem events (hrest.ends (by omega))

/-- A reader is told, page by page, what is ahead of it. -/
theorem exists_isTold (hb : b.IsLog) (hopen : b.IsOpen) (limit : Int) (cursor : Option Int)
    (hcursor : ∀ c ∈ cursor, 0 < c) (visits : List Visit) :
    ∃ pages, IsTold limit cursor visits b pages := by
  induction visits generalizing b cursor with
  | nil => exact ⟨[], isTold_nil limit cursor b⟩
  | cons v visits ih =>
    obtain ⟨events, hhistory, hpage⟩ := exists_isPage hb hopen hcursor v.now limit
    cases hlast : events.getLast? with
    | none =>
      obtain rfl := List.getLast?_eq_none_iff.mp hlast
      exact ⟨[[]], hpage.isTold_end hhistory⟩
    | some last =>
      have hfollows := follows_later hb hopen v.writes
      obtain ⟨a, ha, -, hid⟩ := hpage.shown last (List.mem_of_getLast? hlast)
      -- the next cursor is the number of an entry, and so it is one that counts
      have hpositive : ∀ c ∈ some last.id, 0 < c := by
        intro c hc
        rw [← Option.some.inj hc, ← hid]
        exact hb.positive a (List.mem_filter.mp ha).1
      obtain ⟨pages, hpages⟩ := ih hfollows.isLog hfollows.isOpen _ hpositive
      exact ⟨events :: pages, hpage.isTold_cons hb hhistory hlast hfollows hpages⟩

/-- A reader of an open store, while others append and delete what they like:
over all pages the numbers decrease; what is seen was there at the first visit,
and no number given since is among it; once a page is empty, whatever was there at
the first visit has been seen exactly once, unless it was deleted before the
reader came to it; no page is too long; and after at most one page more than there
were events at the first visit, a page is empty. -/
theorem history_paged (hreachable : b.IsReachable) (hopen : b.IsOpen) (limit : Int)
    (visits : List Visit) :
    ∃ pages : List (List Event), (b.reads limit none visits).map (·.answer) = pages.map .ok ∧
      (pages.flatten.map (·.id)).Pairwise (· > ·) ∧
      (∀ e ∈ pages.flatten, e.id ∈ b.ids ∧ e.id ∉ b.numbers (visits.flatMap (·.writes)) ∧
        ∃ a ∈ b.entries, ∃ v ∈ visits, a.read v.now = .ok e) ∧
      ([] ∈ pages → ∀ i ∈ b.ids, (pages.flatten.map (·.id)).count i = 1 ∨
        ∃ r ∈ b.reads limit none visits, (∀ c ∈ r.cursor, i < c) ∧ i ∉ r.store.ids) ∧
      (∀ page ∈ pages, page.length ≤ 500) ∧
      pages.length ≤ b.ids.length + 1 ∧ (b.ids.length < visits.length → [] ∈ pages) := by
  have hlog := hreachable.isLog
  have hall : b.ahead none = b.entries := List.filter_eq_self.mpr fun a _ => rfl
  have hlength : b.ids.length = b.entries.length := List.length_map _
  obtain ⟨pages, hpages⟩ := exists_isTold hlog hopen limit none (by simp) visits
  have hshown := hpages.shown
  have hcomplete := hpages.complete
  have hlength_le := hpages.length_le
  have hends := hpages.ends
  rw [hall] at hshown hcomplete hlength_le hends
  refine ⟨pages, hpages.answers, hpages.decreasing, ?_, ?_, hpages.short, ?_, ?_⟩
  · intro e he
    obtain ⟨a, ha, hid, v, hv, hread⟩ := hshown e he
    refine ⟨List.mem_map.mpr ⟨a, ha, hid⟩, ?_, a, ha, v, hv, hread⟩
    intro hnew
    have hgiven := hlog.given a ha
    have hlater := lt_of_mem_numbers hlog hopen hnew
    omega
  · intro hend i hi
    obtain ⟨a, ha, rfl⟩ := List.mem_map.mp hi
    rcases hcomplete hend a ha with hseen | ⟨r, hr, hahead, hgone⟩
    · left
      have hnodup : (pages.flatten.map (·.id)).Nodup :=
        hpages.decreasing.imp fun h => (Int.ne_of_lt h).symm
      exact List.count_eq_one_of_mem hnodup hseen
    · refine .inr ⟨r, hr, ?_, hgone⟩
      intro c hc
      rw [Option.mem_def] at hc
      rw [hc] at hahead
      exact of_decide_eq_true hahead
  · omega
  · intro hvisits
    exact hends (by omega)

/-- A file with an event of the beginning of time and one of a second later. -/
def twoEvents : Backend :=
  let first := ((Backend.database { path := "alerts.db" }).perform .epoch (.append lostWarning)).2
  (first.perform firstSecond (.append { lostWarning with createdAt := firstSecond })).2

/-- After the first page the older event is deleted, and another one is appended. -/
def halfDeleted : List Visit :=
  [⟨firstSecond, [(firstSecond, .deleteBefore firstSecond), (firstSecond, .append lostWarning)]⟩,
    ⟨firstSecond, []⟩, ⟨firstSecond, []⟩]

theorem history_paged_halfDeleted :
    twoEvents.IsReachable ∧ twoEvents.IsOpen ∧ twoEvents.ids = [1, 2] ∧
      ∃ pages : List (List Event),
        (twoEvents.reads 1 none halfDeleted).map (·.answer) = pages.map .ok ∧
          (∀ e ∈ pages.flatten, e.id ∈ [1, 2]) ∧
          ((pages.flatten.map (·.id)).count 1 = 1 ∨
            ∃ r ∈ twoEvents.reads 1 none halfDeleted, (∀ c ∈ r.cursor, 1 < c) ∧ 1 ∉ r.store.ids) ∧
          pages.length ≤ 3 ∧ [] ∈ pages := by
  have hreachable : twoEvents.IsReachable := .call (.call (.database "alerts.db") _ _) _ _
  have hopen : twoEvents.IsOpen :=
    isOpen_perform (isOpen_perform (b := .database { path := "alerts.db" }) rfl _ (.append _)) _
      (.append _)
  have hids : twoEvents.ids = [1, 2] := by decide +kernel
  obtain ⟨pages, hanswers, -, hshown, hcomplete, -, hlength, hends⟩ :=
    history_paged hreachable hopen 1 halfDeleted
  rw [hids] at hshown hcomplete hlength hends
  have hend : [] ∈ pages := hends (by decide)
  refine ⟨hreachable, hopen, hids, pages, hanswers, ?_, ?_, hlength, hend⟩
  · intro e he
    exact (hshown e he).1
  · exact hcomplete hend 1 (by decide)

end Backend

end CpuAlert
