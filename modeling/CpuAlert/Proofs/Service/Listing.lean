import CpuAlert.Proofs.Service.Accounts
import CpuAlert.Proofs.Service.Rules
import CpuAlert.Proofs.Store.Log
import CpuAlert.Proofs.Time.Distance
import Mathlib.Data.List.Sort

/-!
# What the history lists

The history lists events by their numbers, the newest first, and a number is given
when a delivery has ended and its event is recorded. Deliveries go on beside each
other, each with its own attempts and pauses, so the one of a later trigger may
end first; its event is then listed below that of the earlier one. The times of
the events decrease down the list exactly if deliveries have ended in the order of
their triggers.

## Main definitions

* `recorded` — the events that were recorded, with their numbers
* `Backend.entryOf`, `Backend.Expires` — how a store keeps them, and for how long
* `IsLedger` — what the store keeps of what was recorded

## Main results

* `Backend.perform_recorded`, `Backend.perform_unrecorded` — what one call does
* `hold_ledger`, `Service.serve_ledger` — the ledger is kept in every watch
* `IsLedger.exists_kept` — what is left of it
* `Evaluator.emissions_increasing` — triggers come out in the order of time
* `Watch.listed_as_recorded` — the history once all deliveries have ended
-/

namespace CpuAlert

open Store (Call)
open Time (Instant)

/-! ## What is recorded -/

/-- The event that a call has recorded, with its number. -/
def Store.Call.recorded? : (c : Call) → c.Answer → Option (Int × Event.Draft)
  | .append draft, .ok id => some (id, draft)
  | .append _, .error _ => none
  | .readConfig, _ | .writeConfig _, _ | .readCredentials, _ | .writeCredentials _, _ | .list _, _
  | .deleteBefore _, _ | .mutedUntil, _ | .writeSilence _, _ | .health, _ | .close, _ => none

/-- The event that was recorded when something happened. -/
def Happening.recorded? {κ : Type} : Happening κ → Option (Int × Event.Draft)
  | ⟨_, .ask c, answer⟩ => c.recorded? answer
  | _ => none

/-- The events that were recorded, in that order. -/
def recorded {κ : Type} (hs : List (Happening κ)) : List (Int × Event.Draft) :=
  hs.filterMap (·.recorded?)

section

variable {κ : Type} {hs : List (Happening κ)} {h : Happening κ}

theorem Store.Call.recorded?_error (c : Call) (e : StoreError) : c.recorded? (.error e) = none := by
  cases c <;> rfl

theorem Happening.recorded?_eq_none (hbeside : ∀ c, h.effect ≠ .ask c) : h.recorded? = none := by
  obtain ⟨i, e, reply⟩ := h
  cases e with
  | ask c => exact absurd rfl (hbeside c)
  | _ => rfl

theorem recorded_append_singleton :
    recorded (hs ++ [h]) = recorded hs ++ h.recorded?.toList := by
  rw [recorded, List.filterMap_append, recorded]
  cases hrecorded : h.recorded? <;> simp [hrecorded]

/-- What is recorded was to be recorded. -/
theorem Happening.draft?_of_recorded? {x : Int × Event.Draft} (hx : h.recorded? = some x) :
    h.effect.draft? = some x.2 := by
  obtain ⟨i, e, reply⟩ := h
  cases e with
  | ask c =>
    cases c with
    | append draft =>
      cases reply with
      | error e => cases hx
      | ok id =>
        obtain rfl := Option.some.inj hx
        rfl
    | _ => cases hx
  | _ => cases hx

/-- If nothing was refused, what was recorded is what was to be recorded. -/
theorem map_snd_recorded (hall : ∀ h ∈ hs, h.effect.draft?.isSome → h.recorded?.isSome) :
    (recorded hs).map Prod.snd = drafts hs := by
  rw [recorded, List.map_filterMap, drafts]
  refine List.filterMap_congr fun h hh => ?_
  cases hx : h.recorded? with
  | some x => exact (Happening.draft?_of_recorded? hx).symm
  | none =>
    cases hdraft : h.effect.draft? with
    | none => rfl
    | some draft =>
      have hsome := hall h hh (hdraft ▸ rfl)
      rw [hx] at hsome
      cases hsome

end

/-! ## Stores -/

namespace Backend

/-- An event as a store keeps it under its number. -/
def entryOf : Backend → Int × Event.Draft → Entry
  | .memory _, x => .ofEvent (x.2.numbered x.1)
  | .database _, x => .ofRow (.ofDraft x.1 x.2)

/-- The store has the event under its number. -/
def Has : Backend → Int × Event.Draft → Prop
  | .memory m, x => x.2.numbered x.1 ∈ m.events
  | .database d, x => .ofDraft x.1 x.2 ∈ d.events

/-- A cleanup with this instant deletes the event. A file compares whole
milliseconds. -/
def Expires : Backend → Instant → Event.Draft → Prop
  | .memory _, cutoff, d => d.createdAt < cutoff
  | .database _, cutoff, d => d.createdAt.toMillis < cutoff.toMillis

/-- The history of the one is that of the other. -/
def KeepsHistory : Backend → Backend → Prop
  | .memory m, .memory m' => m'.events = m.events ∧ m'.lastId = m.lastId
  | .database d, .database d' => d'.events = d.events ∧ d'.lastId = d.lastId
  | .memory _, .database _ | .database _, .memory _ => False

variable {b b' : Backend} {c : Call} {x : Int × Event.Draft}

@[simp] theorem id_entryOf (b : Backend) (x : Int × Event.Draft) : (b.entryOf x).id = x.1 := by
  cases b <;> rfl

theorem entryOf_perform (b : Backend) (now : Instant) (c : Call) :
    (b.perform now c).2.entryOf = b.entryOf := by
  cases b <;> rfl

theorem expires_perform (b : Backend) (now : Instant) (c : Call) :
    (b.perform now c).2.Expires = b.Expires := by
  cases b <;> rfl

/-- An open store that is not closed stays open. -/
theorem isOpen_of_ne_close (hopen : b.IsOpen) (now : Instant) (hc : c ≠ .close) :
    (b.perform now c).2.IsOpen := by
  cases b with
  | memory m => trivial
  | database d =>
    have hopen' : d.isOpen = true := hopen
    simp only [perform, Database.perform, hopen', if_true]
    cases c with
    | append draft =>
      simp only [Database.performOpen, Database.append, Database.insert]
      split <;> exact hopen'
    | writeConfig config =>
      simp only [Database.performOpen, Database.writeConfig]
      split
      · exact hopen'
      · split <;> exact hopen'
    | close => exact absurd rfl hc
    | _ => exact hopen'

theorem Has.mem_entries (h : b.Has x) : b.entryOf x ∈ b.entries := by
  cases b with
  | memory m => exact List.mem_map_of_mem h
  | database d => exact List.mem_map_of_mem h

/-- What a call records stands last, under the next number, and nothing else has
changed. -/
theorem perform_recorded (hb : b.IsLog) (now : Instant)
    (h : c.recorded? (b.perform now c).1 = some x) :
    x.1 = b.lastId + 1 ∧ (b.perform now c).2.lastId = x.1 ∧
      (b.perform now c).2.entries = b.entries ++ [b.entryOf x] ∧
      (b.perform now c).2.Has x ∧ ∀ y, b.Has y → (b.perform now c).2.Has y := by
  cases c with
  | append draft =>
    cases b with
    | memory m =>
      obtain rfl := Option.some.inj h
      refine ⟨rfl, rfl, ?_, List.mem_append_right _ (List.mem_singleton_self _), ?_⟩
      · simp only [perform, Memory.perform, Memory.append, entries, entryOf, List.map_append,
          List.map_cons, List.map_nil]
      · intro y hy
        exact List.mem_append_left _ hy
    | database d =>
      simp only [perform, Database.perform] at h ⊢
      split at h
      · rename_i hopen
        simp only [hopen, if_true, Database.performOpen] at h ⊢
        rcases append_cases hb draft with ⟨e, hrefused⟩ | ⟨-, hadded⟩
        · rw [hrefused] at h
          cases h
        · rw [hadded] at h ⊢
          obtain rfl := Option.some.inj h
          refine ⟨rfl, rfl, ?_, List.mem_append_right _ (List.mem_singleton_self _), ?_⟩
          · simp only [entries, entryOf, List.map_append, List.map_cons, List.map_nil]
          · intro y hy
            exact List.mem_append_left _ hy
      · cases h
  | _ => cases h

theorem KeepsHistory.thins (h : b.KeepsHistory b') : b.Thins b' := by
  cases b with
  | memory m =>
    cases b' with
    | memory m' => exact thins_of_eq (congrArg (List.map _) h.1) h.2
    | database d' => exact h.elim
  | database d =>
    cases b' with
    | memory m' => exact h.elim
    | database d' => exact thins_of_eq (congrArg (List.map _) h.1) h.2

theorem KeepsHistory.has (h : b.KeepsHistory b') (hx : b.Has x) : b'.Has x := by
  cases b with
  | memory m =>
    cases b' with
    | memory m' =>
      rw [Has, h.1]
      exact hx
    | database d' => exact h.elim
  | database d =>
    cases b' with
    | memory m' => exact h.elim
    | database d' =>
      rw [Has, h.1]
      exact hx

theorem cleanup_thins (now cutoff : Instant) :
    b.Thins (b.perform now (.deleteBefore cutoff)).2 := by
  cases b with
  | memory m => exact ⟨List.filter_sublist.map _, rfl⟩
  | database d =>
    simp only [perform, Database.perform]
    split
    · exact ⟨List.filter_sublist.map _, rfl⟩
    · exact thins_of_eq rfl rfl

/-- A cleanup deletes what expires, and nothing else. -/
theorem cleanup_has (now cutoff : Instant) (h : b.Has x) :
    (b.perform now (.deleteBefore cutoff)).2.Has x ∨ b.Expires cutoff x.2 := by
  cases b with
  | memory m =>
    by_cases hkept : cutoff ≤ x.2.createdAt
    · exact .inl (List.mem_filter.mpr ⟨h, decide_eq_true hkept⟩)
    · right
      rw [Expires]
      by_contra hlater
      exact hkept (Instant.not_lt.mp hlater)
  | database d =>
    by_cases hexpires : x.2.createdAt.toMillis < cutoff.toMillis
    · exact .inr hexpires
    · left
      simp only [perform, Database.perform]
      split
      · have hbefore : (Database.EventRow.ofDraft x.1 x.2).isBefore cutoff.toMillis = false :=
          decide_eq_false hexpires
        exact List.mem_filter.mpr ⟨h, by rw [hbefore]; rfl⟩
      · exact h

/-- A call that neither records anything nor cleans up leaves the history alone. -/
theorem perform_keepsHistory (hb : b.IsLog) (now : Instant)
    (h : c.recorded? (b.perform now c).1 = none) (hc : ∀ cutoff, c ≠ .deleteBefore cutoff) :
    b.KeepsHistory (b.perform now c).2 := by
  cases b with
  | memory m =>
    cases c with
    | append draft => cases h
    | deleteBefore cutoff => exact absurd rfl (hc cutoff)
    | _ => exact ⟨rfl, rfl⟩
  | database d =>
    simp only [perform, Database.perform] at h ⊢
    split at h
    · rename_i hopen
      simp only [hopen, if_true, Database.performOpen] at h ⊢
      cases c with
      | append draft =>
        rcases append_cases hb draft with ⟨e, hrefused⟩ | ⟨-, hadded⟩
        · simp only [hrefused]
          exact ⟨rfl, rfl⟩
        · simp only [hadded] at h
          cases h
      | deleteBefore cutoff => exact absurd rfl (hc cutoff)
      | writeConfig config =>
        simp only [Database.writeConfig]
        split
        · exact ⟨rfl, rfl⟩
        · split <;> exact ⟨rfl, rfl⟩
      | _ => exact ⟨rfl, rfl⟩
    · rename_i hclosed
      rw [if_neg hclosed]
      cases c <;> exact ⟨rfl, rfl⟩

/-- A call that records nothing adds no entry, and takes away only what a cleanup
deletes. -/
theorem perform_unrecorded (hb : b.IsLog) (now : Instant)
    (h : c.recorded? (b.perform now c).1 = none) :
    b.Thins (b.perform now c).2 ∧ ∀ x, b.Has x → (b.perform now c).2.Has x ∨
      ∃ cutoff, c = .deleteBefore cutoff ∧ b.Expires cutoff x.2 := by
  by_cases hcleans : ∃ cutoff, c = .deleteBefore cutoff
  · obtain ⟨cutoff, rfl⟩ := hcleans
    refine ⟨cleanup_thins now cutoff, ?_⟩
    intro x hx
    exact (cleanup_has now cutoff hx).imp_right fun hexpires => ⟨cutoff, rfl, hexpires⟩
  · -- what is refused, and what has to do with anything else
    have hkeeps := perform_keepsHistory hb now h (not_exists.mp hcleans)
    exact ⟨hkeeps.thins, fun x hx => .inl (hkeeps.has hx)⟩

/-- A page of the history is read from its entries, and nothing changes. -/
theorem exists_listed (hb : b.IsLog) (hopen : b.IsOpen) (now : Instant) (limit : Int)
    (before : Option Int) :
    ∃ events, b.history now limit before = (.ok events, b) ∧
      events.map .ok = (b.page (.of limit before)).map (·.read now) := by
  have hreadable : ∀ a ∈ b.page (.of limit before), a.IsReadable := by
    intro a ha
    have hmem := List.mem_reverse.mp (List.mem_filter.mp (List.mem_of_mem_take ha)).1
    exact hb.readable a hmem
  obtain ⟨events, hevents, -⟩ := Entry.exists_mapM_read hreadable now
  have hrun : b.history now limit before =
      (Service.persisted (b.perform now (.list (.of limit before))).1,
        (b.perform now (.list (.of limit before))).2) := rfl
  refine ⟨events, ?_, (mapM_eq_ok_iff.mp hevents).symm⟩
  rw [hrun, perform_list hopen, hevents]
  rfl

end Backend

/-! ## The ledger -/

section

variable {κ : Type} {hs : List (Happening κ)} {h : Happening κ} {b₀ b b' : Backend}
  {x : Int × Event.Draft}

/-- The event was recorded, and then a cleanup was asked for that deletes it. -/
def IsCleaned (b₀ : Backend) (hs : List (Happening κ)) (x : Int × Event.Draft) : Prop :=
  ∃ before h after cutoff, hs = before ++ h :: after ∧ x ∈ recorded before ∧
    h.effect = .ask (.deleteBefore cutoff) ∧ b₀.Expires cutoff x.2

theorem IsCleaned.append_singleton (hx : IsCleaned b₀ hs x) : IsCleaned b₀ (hs ++ [h]) x := by
  obtain ⟨before, h', after, cutoff, rfl, hrest⟩ := hx
  refine ⟨before, h', after ++ [h], cutoff, ?_, hrest⟩
  rw [List.append_assoc, List.cons_append]

/-- What has become of the history of a store: some of what was there, and then some
of what was recorded since, under numbers that were given in that order. -/
structure IsLedger (b₀ : Backend) (hs : List (Happening κ)) (b : Backend) : Prop where
  isLog : b.IsLog
  isOpen : b.IsOpen
  entryOf : b.entryOf = b₀.entryOf
  expires : b.Expires = b₀.Expires
  lastId_le : b₀.lastId ≤ b.lastId
  increasing : (recorded hs).Pairwise (·.1 < ·.1)
  given : ∀ x ∈ recorded hs, b₀.lastId < x.1 ∧ x.1 ≤ b.lastId
  entries : b.entries.Sublist (b₀.entries ++ (recorded hs).map b₀.entryOf)
  kept : ∀ x ∈ recorded hs, b.Has x ∨ IsCleaned b₀ hs x

theorem isLedger_nil (hb : b.IsLog) (hopen : b.IsOpen) :
    IsLedger b ([] : List (Happening κ)) b where
  isLog := hb
  isOpen := hopen
  entryOf := rfl
  expires := rfl
  lastId_le := Int.le_refl _
  increasing := .nil
  given := List.forall_mem_nil _
  entries := List.sublist_append_left ..
  kept := List.forall_mem_nil _

/-- Something that records nothing, and takes away only what a cleanup deletes. -/
theorem IsLedger.unrecorded (hl : IsLedger b₀ hs b) (hnone : h.recorded? = none)
    (hthins : b.Thins b') (hopen : b'.IsOpen) (hentryOf : b'.entryOf = b.entryOf)
    (hexpires : b'.Expires = b.Expires)
    (hlost : ∀ x, b.Has x → b'.Has x ∨
      ∃ cutoff, h.effect = .ask (.deleteBefore cutoff) ∧ b.Expires cutoff x.2) :
    IsLedger b₀ (hs ++ [h]) b' := by
  have hsame : recorded (hs ++ [h]) = recorded hs := by
    rw [recorded_append_singleton, hnone]
    exact List.append_nil _
  obtain ⟨hsublist, hlast⟩ := hthins
  refine ⟨hl.isLog.of_thins ⟨hsublist, hlast⟩, hopen, hentryOf.trans hl.entryOf,
    hexpires.trans hl.expires, hlast ▸ hl.lastId_le, hsame ▸ hl.increasing, ?_, ?_, ?_⟩
  · rw [hsame, hlast]
    exact hl.given
  · rw [hsame]
    exact hsublist.trans hl.entries
  · rw [hsame]
    intro x hx
    rcases hl.kept x hx with hhas | hcleaned
    · rcases hlost x hhas with hstays | ⟨cutoff, heffect, hold⟩
      · exact .inl hstays
      · exact .inr ⟨hs, h, [], cutoff, rfl, hx, heffect, hl.expires ▸ hold⟩
    · exact .inr hcleaned.append_singleton

/-- A call that is answered is entered in the ledger. -/
theorem IsLedger.perform (hl : IsLedger b₀ hs b) (i : κ) (now : Instant) {c : Call}
    (hc : c ≠ .close) :
    IsLedger b₀ (hs ++ [⟨i, .ask c, (b.perform now c).1⟩]) (b.perform now c).2 := by
  have hopen := Backend.isOpen_of_ne_close hl.isOpen now hc
  have hentryOf := b.entryOf_perform now c
  have hexpires := b.expires_perform now c
  -- either nothing is recorded, or the next number is given, above all before it
  cases hrecorded : c.recorded? (b.perform now c).1 with
  | none =>
    obtain ⟨hthins, hlost⟩ := Backend.perform_unrecorded hl.isLog now hrecorded
    refine hl.unrecorded hrecorded hthins hopen hentryOf hexpires fun x hx => ?_
    refine (hlost x hx).imp_right ?_
    rintro ⟨cutoff, rfl, hold⟩
    exact ⟨cutoff, rfl, hold⟩
  | some x =>
    obtain ⟨hid, hlast, hentries, hhas, hstays⟩ := Backend.perform_recorded hl.isLog now hrecorded
    have hgrown : recorded (hs ++ [⟨i, .ask c, (b.perform now c).1⟩]) = recorded hs ++ [x] := by
      have hone : Happening.recorded? ⟨i, .ask c, (b.perform now c).1⟩ = some x := hrecorded
      rw [recorded_append_singleton, hone]
      rfl
    have hle := hl.lastId_le
    refine ⟨hl.isLog.perform now c, hopen, hentryOf.trans hl.entryOf, hexpires.trans hl.expires,
      by omega, ?_, ?_, ?_, ?_⟩
    · rw [hgrown, List.pairwise_append]
      refine ⟨hl.increasing, List.pairwise_singleton .., ?_⟩
      intro y hy z hz
      have hgiven := (hl.given y hy).2
      rw [List.mem_singleton.mp hz]
      omega
    · rw [hgrown, List.forall_mem_append, List.forall_mem_singleton]
      refine ⟨fun y hy => ?_, by omega, by omega⟩
      have hgiven := hl.given y hy
      omega
    · rw [hgrown, hentries, List.map_append, ← List.append_assoc, hl.entryOf]
      exact hl.entries.append_right _
    · rw [hgrown, List.forall_mem_append, List.forall_mem_singleton]
      refine ⟨fun y hy => ?_, .inl hhas⟩
      exact (hl.kept y hy).imp (hstays y) IsCleaned.append_singleton

/-- What is left of the history: the numbers tell what is left of what was recorded. -/
theorem IsLedger.exists_kept (hl : IsLedger b₀ hs b) (hb₀ : b₀.IsLog) :
    ∃ (older : List Entry) (kept : List (Int × Event.Draft)), older.Sublist b₀.entries ∧
      kept.Sublist (recorded hs) ∧ b.entries = older ++ kept.map b₀.entryOf ∧
      ∀ x ∈ recorded hs, x ∈ kept ∨ IsCleaned b₀ hs x := by
  obtain ⟨older, newer, hentries, holder, hnewer⟩ := List.sublist_append_iff.mp hl.entries
  obtain ⟨kept, hkept, rfl⟩ := List.sublist_map_iff.mp hnewer
  refine ⟨older, kept, holder, hkept, hentries, ?_⟩
  intro x hx
  refine (hl.kept x hx).imp_left fun hhas => ?_
  have hmem := hhas.mem_entries
  rw [hentries, hl.entryOf, List.mem_append] at hmem
  rcases hmem with hmem | hmem
  · -- its number is above all those of old entries
    have hold := hb₀.given _ (holder.mem hmem)
    have hnew := (hl.given x hx).1
    rw [Backend.id_entryOf] at hold
    omega
  · obtain ⟨y, hy, hsame⟩ := List.mem_map.mp hmem
    have hid : y.1 = x.1 := by
      have hids := congrArg Entry.id hsame
      rwa [Backend.id_entryOf, Backend.id_entryOf] at hids
    have hnodup : ((recorded hs).map Prod.fst).Nodup :=
      List.pairwise_map.mpr (hl.increasing.imp Int.ne_of_lt)
    exact List.inj_on_of_nodup_map hnodup (hkept.mem hy) hx hid ▸ hy

end

/-- Whoever does not close the store keeps the ledger. -/
def ledger (κ : Type) (b₀ : Backend) : Rules κ where
  fine hs w := IsLedger b₀ hs w.store
  allowed := Effect.LeavesOpen
  expected _ _ := True

theorem hold_ledger (κ : Type) (b₀ : Backend) : (ledger κ b₀).Hold where
  beside := by
    intro hs w w' hl hbeside
    show IsLedger b₀ hs w'.store
    rw [hbeside.store]
    exact hl
  acts := by
    rintro hs w w' e reply i hl - hacts
    refine ⟨trivial, ?_⟩
    show IsLedger b₀ (hs ++ [_]) w'.store
    rw [hacts.store]
    exact hl.unrecorded (Happening.recorded?_eq_none hacts.beside) (Backend.thins_of_eq rfl rfl)
      hl.isOpen rfl rfl fun x hx => .inl hx
  asks := by
    intro hs w c i hl hc
    refine ⟨trivial, ?_⟩
    show IsLedger b₀ (hs ++ [⟨i, .ask c, (w.ask c).1⟩]) (w.ask c).2.store
    simp only [World.ask]
    split
    · -- a call that is refused has not reached the store
      exact hl.unrecorded (c.recorded?_error _) (Backend.thins_of_eq rfl rfl) hl.isOpen rfl rfl
        fun x hx => .inl hx
    · exact hl.perform i w.wall hc

namespace Service

/-- Nobody closes the store. -/
theorem serve_ledger {ι : Type} (s : Service) (operations : ι → Operation) (b₀ : Backend) :
    (ledger (Actor ι) b₀).Serve s operations :=
  Rules.serve_of_bystanders (fun _ => Effect.IsBystander.leavesOpen) fun _ hop =>
    (Operation.mutation_uses Effect.allowsMutation_leavesOpen s hop).expecting

end Service

/-! ## Watches -/

namespace Watch

variable {ι : Type} [DecidableEq ι] {s : Service} {operations : ι → Operation} {l : Live}
  {taken : List Snapshot} {f : InForce} {t : Watch ι}

/-- If nobody else asks for an evaluation, readings have the times of the snapshots
that the loop takes. -/
theorem IsSound.times_samples (h : t.IsSound s operations l taken)
    (hobserve : ∀ i snapshot, operations i ≠ .observe snapshot) (f : InForce) :
    (t.samples f).map (·.time) = taken.map (·.time) := by
  have hall : t.evaluationsBy f .loop = t.evaluations f := by
    refine List.filter_eq_self.mpr fun e he => decide_eq_true ?_
    exact (h.actor he).resolve_right fun ⟨i, _, hi⟩ => hobserve i _ hi
  rw [← h.evaluationsBy_loop f, hall, samples, List.map_map, List.map_map]
  rfl

/-- If nobody else asks for an evaluation or for a test, all that is recorded are
alerts. -/
theorem IsSound.alerts_eq_drafts (h : t.IsSound s operations l taken)
    (hloop : drafts (t.deeds .loop) = []) (hfresh : l.evaluator = .fresh) (hf : l.inForce = f)
    (hcallers : ∀ i, operations i ≠ .sendTest ∧ ∀ snapshot, operations i ≠ .observe snapshot) :
    t.alerts = drafts t.past := by
  refine List.filter_eq_self.mpr fun draft hdraft => decide_eq_true ?_
  obtain ⟨x, hx, hrecords⟩ := List.mem_filterMap.mp hdraft
  have hmem := mem_drafts_deeds hx hrecords
  cases hcaller : x.caller with
  | loop =>
    rw [hcaller, hloop] at hmem
    cases hmem
  | delivery n =>
    rw [hcaller] at hmem
    have hbegins := (h.map_cause_delivery f n).1
    exact (Evaluator.of_mem_emissions (h.cause_mem_of_begins hfresh hf hbegins hmem)).1
  | caller i =>
    rw [hcaller, h.drafts_caller (hcallers i).2 (hcallers i).1] at hmem
    cases hmem

/-- Callers neither ask for evaluations nor for tests, snapshots come in the order of
time, no record is refused, and all deliveries have ended. Then every trigger has been
recorded once, under numbers that were given in the order of the records. What the
history lists are these events, the last one recorded first, and then what had been
there before; nothing is missing but what a cleanup has deleted, and what does not fit
on the page. The events on the pages have decreasing times exactly if they were
recorded in the order of their triggers. -/
theorem listed_as_recorded {config : Config} {record : SealedCredentials}
    {deadline : Option Instant} {now : Instant} {w : World}
    (hlive : w.live = s.initial config record deadline now) (hstore : w.store.IsReachable)
    (hopen : w.store.IsOpen)
    (hcallers : ∀ i, operations i ≠ .sendTest ∧ ∀ snapshot, operations i ≠ .observe snapshot)
    {moves : List (Move ι)} (hplay : (start s operations w).play s moves = some t)
    (hincreasing : (Move.taken moves).Pairwise (·.time < ·.time)) (hquiet : t.IsQuiet operations)
    (hrecorded : ∀ x ∈ t.past, x.effect.draft?.isSome → x.recorded?.isSome) :
    let emitted := t.emitted ⟨config, s.reveal record, record, deadline⟩
    ((recorded t.past).map (·.2.cause)).Perm emitted ∧ emitted.Pairwise (·.2 < ·.2) ∧
      (recorded t.past).Pairwise (·.1 < ·.1) ∧
      ∃ (older : List Entry) (kept : List (Int × Event.Draft)),
        older.Sublist w.store.entries ∧ kept.Sublist (recorded t.past) ∧
        (∀ x ∈ recorded t.past, x ∈ kept ∨ IsCleaned w.store t.past x) ∧
        (∀ now limit before, ∃ events,
          t.world.store.history now limit before = (.ok events, t.world.store) ∧
          events.map .ok = ((((older ++ kept.map w.store.entryOf).reverse.filter fun a =>
            (Page.of limit before).admits a.id).take (Page.of limit before).limit).map
              (·.read now))) ∧
        ((kept.map (·.2.cause)).Sublist emitted ↔
          kept.Pairwise (·.2.createdAt < ·.2.createdAt)) := by
  intro emitted
  have hlog := hstore.isLog
  have hledger : IsLedger w.store t.past t.world.store :=
    (((s.serve_ledger operations w.store).start (isLedger_nil hlog hopen)).play
      (hold_ledger _ _) (s.serve_ledger operations w.store) hplay).fine
  obtain ⟨older, kept, holder, hkept, hentries, hcleaned⟩ := hledger.exists_kept hlog
  have h : t.IsSound s operations w.live (Move.taken moves) :=
    (isSound_start s operations w).play hplay
  rw [hlive] at h
  -- since nobody asks for a test, whatever is recorded is an alert, and has its trigger
  have hperm : ((recorded t.past).map (·.2.cause)).Perm emitted := by
    have halerts := h.alerts_perm (drafts_loop hplay) rfl rfl hquiet
    rw [h.alerts_eq_drafts (drafts_loop hplay) rfl rfl hcallers, ← map_snd_recorded hrecorded,
      List.map_map] at halerts
    exact halerts
  -- the loop alone evaluates, so the readings are in the order of the snapshots
  have htimes : emitted.Pairwise (·.2 < ·.2) := by
    have hreadings := List.pairwise_map.mpr hincreasing
    rw [← h.times_samples (fun i => (hcallers i).2) _, List.pairwise_map] at hreadings
    exact Evaluator.emissions_increasing hreadings
  refine ⟨hperm, htimes, hledger.increasing, older, kept, holder, hkept, hcleaned, ?_, ?_⟩
  · intro now limit before
    obtain ⟨events, hhistory, hread⟩ :=
      Backend.exists_listed hledger.isLog hledger.isOpen now limit before
    refine ⟨events, hhistory, ?_⟩
    rw [hread, Backend.page, hentries]
  · have hcauses : (kept.map (·.2.cause)).Pairwise (·.2 < ·.2) ↔
        kept.Pairwise (·.2.createdAt < ·.2.createdAt) := List.pairwise_map
    rw [← hcauses]
    constructor
    · intro hsublist
      exact htimes.sublist hsublist
    · intro hordered
      -- of two lists in the order of time, one is a part if its elements are
      have hfew := (hkept.map (·.2.cause)).subperm.trans hperm.subperm
      have : Std.Antisymm fun x y : Trigger × Instant => x.2 < y.2 :=
        ⟨fun x y hxy hyx => absurd (Instant.lt_trans hxy hyx) (by simp [Instant.lt_def])⟩
      exact List.sublist_of_subperm_of_pairwise hfew hordered htimes

/-! ## Deliveries that cross -/

/-- A channel that refuses the first message. -/
def balky : Channel where
  name := "balky"
  isEnabled _ := true
  attempt past _ := { outcome := if past.isEmpty then .error (.httpStatus 503) else .ok () }

/-- The service with this channel. -/
def balkyService : Service := .ofOptions { channels := [balky] }

/-- Short windows, and five seconds before the second attempt. -/
def shortWindows : Config := { warningWindow := 1, criticalWindow := 1, retryDelays := [5, 0] }

/-- The world of that service when it has just been started. -/
def balkyWorld : World :=
  { Delivery.quiet with live := balkyService.initial shortWindows {} none .epoch }

/-- The load so many seconds after the beginning. -/
def loadAt (seconds : Int) (cpuPercent : Float) : Snapshot :=
  ⟨(Instant.epoch.shift? seconds).getD .epoch, cpuPercent⟩

/-- Two seconds of a high load, and then two of a higher one. -/
def climb : List Snapshot := [loadAt 0 80, loadAt 1 80, loadAt 2 95, loadAt 3 95]

/-- The delivery of the warning waits for its second attempt, and that of the critical
alert goes by. -/
def goingBy : List (Move (Fin 0)) :=
  climb.map .take ++ [.delivery 0, .delivery 0, .delivery 1, .delivery 1, .delivery 1].map
    (fun a => .choose (.go a)) ++
  .choose (.finish (.delivery 0)) :: List.replicate 3 (.choose (.go (.delivery 0)))

theorem listed_as_recorded_goingBy : ∃ t,
    (start balkyService Fin.elim0 balkyWorld).play balkyService goingBy = some t ∧
      (Move.taken goingBy).Pairwise (·.time < ·.time) ∧
      (recorded t.past).map (fun x => (x.1, x.2.level)) = [(1, .critical), (2, .warning)] ∧
      ((recorded t.past).map (·.2.cause)).Perm
        (t.emitted ⟨shortWindows, balkyService.reveal {}, {}, none⟩) ∧
      ¬ (recorded t.past).Pairwise (·.2.createdAt < ·.2.createdAt) ∧
      ∃ events, t.world.store.history .epoch 50 none = (.ok events, t.world.store) := by
  obtain ⟨t, hplay, hlevels, htimes, hbegun, hdone, hall⟩ : ∃ t,
      (start balkyService Fin.elim0 balkyWorld).play balkyService goingBy = some t ∧
      (recorded t.past).map (fun x => (x.1, x.2.level)) = [(1, .critical), (2, .warning)] ∧
      (recorded t.past).map (·.2.createdAt) = [(loadAt 3 95).time, (loadAt 1 80).time] ∧
      t.begun.length = 2 ∧
      (t.HasReturned (.delivery 0) none ∧ t.HasReturned (.delivery 1) none) ∧
      (t.past.all fun x => decide (x.effect.draft?.isSome → x.recorded?.isSome)) = true :=
    ⟨_, rfl, rfl, rfl, rfl, ⟨rfl, rfl⟩, rfl⟩
  have hincreasing : (Move.taken goingBy).Pairwise (·.time < ·.time) := by decide
  have hquiet : t.IsQuiet Fin.elim0 := by
    intro a
    cases a with
    | caller i => exact i.elim0
    | loop => trivial
    | delivery n =>
      intro hn
      rw [hbegun] at hn
      match n, hn with
      | 0, _ => exact hdone.1
      | 1, _ => exact hdone.2
  obtain ⟨hperm, -, -, older, kept, -, -, -, hlisted, -⟩ :=
    listed_as_recorded (w := balkyWorld) rfl (.memory {}) trivial (fun i => i.elim0) hplay
      hincreasing hquiet fun x hx => of_decide_eq_true (List.all_eq_true.mp hall x hx)
  refine ⟨t, hplay, hincreasing, hlevels, hperm, ?_, ?_⟩
  · rw [← List.pairwise_map (f := fun x : Int × Event.Draft => x.2.createdAt), htimes]
    decide
  · obtain ⟨events, hhistory, hread⟩ := hlisted .epoch 50 none
    exact ⟨events, hhistory⟩

/-- So the history need not be in the order of time: the warning of the first second
stands above the critical alert of the third. -/
theorem history_crossed : climb.Pairwise (·.time < ·.time) ∧
    ∃ events,
      ((Loop.play balkyService 8 [.publish climb] balkyWorld).2.store.history .epoch 50 none).1 =
        .ok events ∧
      events.map (fun e => (e.id, e.level, e.createdAt)) =
        [(2, .warning, (loadAt 1 80).time), (1, .critical, (loadAt 3 95).time)] ∧
      ¬ events.Pairwise fun e e' => e'.createdAt < e.createdAt := by
  have hlisted : (((Loop.play balkyService 8 [.publish climb] balkyWorld).2.store.history
      .epoch 50 none).1.toOption.map (·.map fun e => (e.id, e.level, e.createdAt))) =
        some [(2, .warning, (loadAt 1 80).time), (1, .critical, (loadAt 3 95).time)] := by
    decide +kernel
  generalize ((Loop.play balkyService 8 [.publish climb] balkyWorld).2.store.history
    .epoch 50 none).1 = answer at hlisted ⊢
  cases answer with
  | error e => cases hlisted
  | ok events =>
    have hmap : (events.map fun e => (e.id, e.level, e.createdAt)) =
        [(2, .warning, (loadAt 1 80).time), (1, .critical, (loadAt 3 95).time)] :=
      Option.some.inj hlisted
    refine ⟨by decide, events, rfl, hmap, ?_⟩
    intro hordered
    have hdescending := (List.pairwise_map (f := fun e : Event => (e.id, e.level, e.createdAt))
      (R := fun x y => y.2.2 < x.2.2)).mpr hordered
    rw [hmap] at hdescending
    revert hdescending
    decide

end Watch

end CpuAlert
