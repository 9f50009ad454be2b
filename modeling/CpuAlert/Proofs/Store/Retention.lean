import CpuAlert.Proofs.Store.Log

/-!
# What the store in memory keeps

The store in memory is a log from which old events are taken away. The numbers
that it gives count the events that were ever appended, so what a cleanup takes
away leaves no gap to be filled. An event stays as it was appended until a cleanup
is asked for with a later instant than the event's own. Numbers follow the order
in which events come and cleanups their times, and these need not agree: a cleanup
takes away whatever is old, wherever it stands.

What the store keeps besides, the configuration, the record of credentials and
the end of the silence, has nothing to do with the history: calls about the one
can be left out without a difference to the other.

## Main definitions

* `Memory.after`, `Memory.replies` — what calls do to the store, and their replies
* `Store.Call.surviving` — the events that some calls append and do not delete
* `Memory.IsNewest` — a page of the newest events
* `Memory.IsPart` — a part of what is kept that only some calls are about

## Main results

* `Memory.events_after` — the events of a store after any calls
* `Memory.isNewest_page` — what stands on a page
* `Memory.isPart_history`, `Memory.isPart_standing` — the two parts
* `Memory.retention` — all of it, for a store that begins without events
-/

namespace CpuAlert

open Store (Call)
open Time (Instant)

/-! ## Calls, one after the other -/

namespace Memory

/-- What is kept after some calls. -/
def after (m : Memory) : List Call → Memory
  | [] => m
  | c :: calls => (m.perform c).2.after calls

/-- Some calls with their replies. -/
def replies (m : Memory) : List Call → List ((c : Call) × c.Reply)
  | [] => []
  | c :: calls => ⟨c, (m.perform c).1⟩ :: (m.perform c).2.replies calls

@[simp] theorem after_nil (m : Memory) : m.after [] = m := rfl

@[simp] theorem after_cons (m : Memory) (c : Call) (calls : List Call) :
    m.after (c :: calls) = (m.perform c).2.after calls := rfl

end Memory

namespace Store.Call

/-- How many events some calls append. -/
def appended (calls : List Call) : Nat := (calls.map numbers).sum

/-- A call does not delete events of this time. -/
def Spares (t : Instant) : Call → Prop
  | .deleteBefore cutoff => cutoff ≤ t
  | _ => True

instance (t : Instant) : DecidablePred (Spares t)
  | .deleteBefore cutoff => inferInstanceAs (Decidable (cutoff ≤ t))
  | .readConfig | .writeConfig _ | .readCredentials | .writeCredentials _ | .append _ | .list _
  | .mutedUntil | .writeSilence _ | .health | .close => isTrue trivial

/-- The events that some calls append and do not delete, as they were appended and
in that order, under the numbers after `last`. -/
def surviving (last : Int) : List Call → List Event
  | [] => []
  | .append draft :: calls =>
    (if ∀ c ∈ calls, c.Spares draft.createdAt then [draft.numbered (last + 1)] else []) ++
      surviving (last + 1) calls
  | _ :: calls => surviving last calls

variable {calls : List Call} {last : Int}

@[simp] theorem appended_cons (c : Call) (calls : List Call) :
    appended (c :: calls) = c.numbers + appended calls := by
  rw [appended, List.map_cons, List.sum_cons, appended]

/-- Calls spare a time if none of them is a cleanup with a later instant. -/
theorem forall_spares_iff {t : Instant} :
    (∀ c ∈ calls, c.Spares t) ↔ ∀ cutoff, .deleteBefore cutoff ∈ calls → cutoff ≤ t := by
  constructor
  · intro h cutoff hmem
    exact h _ hmem
  · intro h c hc
    cases c with
    | deleteBefore cutoff => exact h cutoff hc
    | _ => trivial

/-- Only an append adds an event to those that survive. -/
theorem surviving_cons {c : Call} (h : c.numbers = 0) :
    surviving last (c :: calls) = surviving last calls := by
  cases c with
  | append draft => cases h
  | _ => rfl

theorem appended_append_ne_zero (draft : Event.Draft) (calls : List Call) :
    appended (.append draft :: calls) ≠ 0 := by
  rw [appended_cons, numbers]
  omega

/-- The appends among some calls are told apart by how many stand before them. -/
theorem append_unique {before before' later later' : List Call} {draft draft' : Event.Draft}
    (h : before ++ .append draft :: later = before' ++ .append draft' :: later')
    (hcount : appended before = appended before') : draft = draft' ∧ later = later' := by
  induction before generalizing before' with
  | nil =>
    cases before' with
    | nil =>
      obtain ⟨hdraft, hlater⟩ := List.cons.inj h
      exact ⟨append.inj hdraft, hlater⟩
    | cons c before' =>
      -- then `c` would be an append that is not counted
      obtain ⟨rfl, -⟩ := List.cons.inj h
      exact absurd hcount.symm (appended_append_ne_zero draft before')
  | cons c before ih =>
    cases before' with
    | nil =>
      obtain ⟨rfl, -⟩ := List.cons.inj h
      exact absurd hcount (appended_append_ne_zero draft' before)
    | cons c' before' =>
      obtain ⟨rfl, hrest⟩ := List.cons.inj h
      rw [appended_cons, appended_cons] at hcount
      exact ih hrest (Nat.add_left_cancel hcount)

/-- An append among some calls is the first of them, or it is among the others. -/
theorem exists_append_cons_iff {c : Call} {p : List Call → Event.Draft → List Call → Prop} :
    (∃ before draft later, c :: calls = before ++ .append draft :: later ∧ p before draft later) ↔
      (∃ draft, c = .append draft ∧ p [] draft calls) ∨
        ∃ before draft later, calls = before ++ .append draft :: later ∧
          p (c :: before) draft later := by
  constructor
  · rintro ⟨before, draft, later, hcalls, h⟩
    rcases List.cons_eq_append_iff.mp hcalls with ⟨rfl, hfirst⟩ | ⟨before', rfl, hrest⟩
    · obtain ⟨rfl, rfl⟩ := List.cons.inj hfirst
      exact .inl ⟨draft, rfl, h⟩
    · exact .inr ⟨before', draft, later, hrest, h⟩
  · rintro (⟨draft, rfl, h⟩ | ⟨before, draft, later, rfl, h⟩)
    · exact ⟨[], draft, calls, rfl, h⟩
    · exact ⟨c :: before, draft, later, rfl, h⟩

/-- An event survives if it was appended under its number, and the calls since
then have spared it. -/
theorem mem_surviving_iff {e : Event} :
    e ∈ surviving last calls ↔ ∃ before draft later, calls = before ++ .append draft :: later ∧
      e = draft.numbered (last + appended before + 1) ∧ ∀ c ∈ later, c.Spares draft.createdAt := by
  induction calls generalizing last with
  | nil =>
    constructor
    · intro he
      cases he
    · rintro ⟨before, draft, later, hcalls, -⟩
      exact absurd hcalls.symm (List.append_ne_nil_of_right_ne_nil _ (List.cons_ne_nil _ _))
  | cons c calls ih =>
    rw [exists_append_cons_iff]
    cases c with
    | append draft =>
      have hnext (before : List Call) :
          last + appended (.append draft :: before) + 1 = last + 1 + appended before + 1 := by
        simp only [appended_cons, numbers]
        omega
      have hfirst : last + appended [] + 1 = last + 1 := congrArg (· + 1) (Int.add_zero last)
      simp only [surviving, List.mem_append, ih, hnext, append.injEq, exists_eq_left', hfirst]
      apply or_congr_left
      split
      · rename_i hspared
        rw [List.mem_singleton, and_iff_left hspared]
      · rename_i hspared
        exact iff_of_false List.not_mem_nil fun h => hspared h.2
    | _ => simp [surviving, ih, appended_cons, numbers]

end Store.Call

namespace Memory

variable {m : Memory} {calls : List Call}

/-! ## The events -/

/-- Every append takes the next number, whatever was deleted. -/
theorem lastId_after : (m.after calls).lastId = m.lastId + Call.appended calls := by
  induction calls generalizing m with
  | nil => exact (Int.add_zero _).symm
  | cons c calls ih =>
    rw [after_cons, ih, lastId_perform, Call.appended_cons]
    omega

/-- A call that appends nothing leaves the events that it spares. -/
theorem events_perform {c : Call} (h : c.numbers = 0) :
    (m.perform c).2.events = m.events.filter fun e => c.Spares e.createdAt := by
  cases c with
  | append draft => cases h
  | deleteBefore cutoff => rfl
  | _ => exact (List.filter_eq_self.mpr fun e _ => decide_eq_true trivial).symm

/-- After some calls the store has the events that these have spared, and those
that they have appended and not deleted. -/
theorem events_after : (m.after calls).events =
    (m.events.filter fun e => ∀ c ∈ calls, c.Spares e.createdAt) ++
      Call.surviving m.lastId calls := by
  induction calls generalizing m with
  | nil =>
    have hall : m.events.filter (fun e => ∀ c ∈ [], Call.Spares e.createdAt c) = m.events := by
      refine List.filter_eq_self.mpr fun e _ => decide_eq_true ?_
      intro c hc
      cases hc
    rw [hall, Call.surviving, List.append_nil, after_nil]
  | cons c calls ih =>
    rw [after_cons, ih, lastId_perform]
    by_cases hc : c.numbers = 0
    · rw [events_perform hc, List.filter_filter, Call.surviving_cons hc, hc]
      simp only [List.forall_mem_cons, Bool.decide_and, Bool.and_comm, Int.natCast_zero,
        Int.add_zero]
    · cases c with
      | append draft =>
        -- the new event stands last, and it stays if the calls that follow spare it
        have hspared (e : Event) : (∀ c ∈ Call.append draft :: calls, c.Spares e.createdAt) ↔
            ∀ c ∈ calls, c.Spares e.createdAt := by
          rw [List.forall_mem_cons]
          exact and_iff_right trivial
        simp only [perform, append, hspared, List.filter_append, List.filter_cons, List.filter_nil,
          Call.surviving, decide_eq_true_eq, List.append_assoc]
        rfl
      | _ => exact absurd rfl hc

/-- A store that its own calls have changed is one in the sense of the log. -/
theorem isReachable_after (hm : (Backend.memory m).IsReachable) :
    (Backend.memory (m.after calls)).IsReachable := by
  induction calls generalizing m with
  | nil => exact hm
  | cons c calls ih => exact ih (hm.call .epoch c)

/-- The events stand in the order of their numbers. -/
theorem increasing_after (config : Config) (calls : List Call) :
    ((ofConfig config).after calls).events.Pairwise fun e e' => e.id < e'.id := by
  have hreachable : (Backend.memory ((ofConfig config).after calls)).IsReachable :=
    isReachable_after (.memory config)
  have hincreasing := hreachable.isLog.increasing
  rw [Backend.entries, List.pairwise_map] at hincreasing
  exact hincreasing

/-! ## Pages and cleanups -/

/-- These are the newest of the events that a page admits: as many as fit on the
page or as there are, the newest first. -/
structure IsNewest (m : Memory) (p : Page) (events : List Event) : Prop where
  decreasing : events.Pairwise fun e e' => e'.id < e.id
  present : ∀ e ∈ events, e ∈ m.events ∧ p.admits e.id
  length : events.length = min p.limit (m.events.countP fun e => p.admits e.id)
  above : ∀ e ∈ m.events, p.admits e.id → e ∉ events → ∀ e' ∈ events, e.id < e'.id

theorem isNewest_page (hm : m.events.Pairwise fun e e' => e.id < e'.id) (p : Page) :
    m.IsNewest p (m.page p) := by
  have hsorted : (m.events.reverse.filter fun e => p.admits e.id).Pairwise
      fun e e' => e'.id < e.id := by
    refine List.Pairwise.sublist List.filter_sublist ?_
    rw [List.pairwise_reverse]
    exact hm
  refine ⟨hsorted.sublist (List.take_sublist ..), ?_, ?_, ?_⟩
  · intro e he
    obtain ⟨hmem, hadmitted⟩ := List.mem_filter.mp (List.mem_of_mem_take he)
    exact ⟨List.mem_reverse.mp hmem, hadmitted⟩
  · rw [page, List.length_take, ← List.countP_eq_length_filter, List.countP_reverse]
  · intro e he hadmitted hoff e' he'
    rw [page] at hoff he'
    have hmem : e ∈ m.events.reverse.filter fun e => p.admits e.id :=
      List.mem_filter.mpr ⟨List.mem_reverse.mpr he, hadmitted⟩
    -- what is admitted and does not stand on the page comes after all that does
    rw [← List.take_append_drop p.limit (m.events.reverse.filter _)] at hmem hsorted
    have hrest := (List.mem_append.mp hmem).resolve_left hoff
    exact (List.pairwise_append.mp hsorted).2.2 e' he' e hrest

/-- A cleanup is answered by the number of events that it took away. -/
theorem cleanup_add_length (m : Memory) (cutoff : Instant) :
    (m.cleanup cutoff).1 + (m.cleanup cutoff).2.events.length = m.events.length :=
  Nat.sub_add_cancel (List.length_filter_le _ _)

/-! ## Two parts that have nothing to do with each other -/

/-- Only the calls about it change a part of what is kept, and for them nothing
else matters. -/
structure IsPart {β : Type} (part : Memory → β) (about : Call → Bool) : Prop where
  skips : ∀ (m : Memory) (c : Call), about c = false → part (m.perform c).2 = part m
  follows : ∀ (m m' : Memory) (c : Call), about c = true → part m = part m' →
    (m.perform c).1 = (m'.perform c).1 ∧ part (m.perform c).2 = part (m'.perform c).2

namespace IsPart

variable {β : Type} {part : Memory → β} {about : Call → Bool}

/-- All other calls can be left out. -/
theorem after_filter (h : IsPart part about) (calls : List Call) {m m' : Memory}
    (hm : part m = part m') :
    part (m.after calls) = part (m'.after (calls.filter about)) ∧
      (m.replies calls).filter (about ·.1) = m'.replies (calls.filter about) := by
  induction calls generalizing m m' with
  | nil => exact ⟨hm, rfl⟩
  | cons c calls ih =>
    cases hc : about c with
    | false =>
      rw [List.filter_cons_of_neg (by simp [hc]), replies, List.filter_cons_of_neg (by simp [hc])]
      exact ih ((h.skips m c hc).trans hm)
    | true =>
      obtain ⟨hreply, hpart⟩ := h.follows m m' c hc hm
      obtain ⟨hafter, hreplies⟩ := ih hpart
      rw [List.filter_cons_of_pos hc, replies, List.filter_cons_of_pos (by exact hc), hreplies,
        hreply]
      exact ⟨hafter, rfl⟩

end IsPart

/-- The history, with the last number given. -/
def history (m : Memory) : List Event × Int := (m.events, m.lastId)

/-- What stands until it is written again. -/
def standing (m : Memory) : Config × SealedCredentials × Option Instant :=
  (m.config, m.credentials, m.mutedUntil)

end Memory

namespace Store.Call

/-- A call about the history. -/
def isHistory : Call → Bool
  | .append _ | .list _ | .deleteBefore _ => true
  | .readConfig | .writeConfig _ | .readCredentials | .writeCredentials _ | .mutedUntil
  | .writeSilence _ | .health | .close => false

/-- A call about the configuration, the record of credentials or the silence. -/
def isStanding : Call → Bool
  | .readConfig | .writeConfig _ | .readCredentials | .writeCredentials _ | .mutedUntil
  | .writeSilence _ => true
  | .append _ | .list _ | .deleteBefore _ | .health | .close => false

end Store.Call

namespace Memory

theorem isPart_history : IsPart history Call.isHistory where
  skips m c h := by
    cases c with
    | append draft => cases h
    | deleteBefore cutoff => cases h
    | _ => rfl
  follows m m' c h hm := by
    obtain ⟨hevents, hlast⟩ := Prod.mk.inj hm
    cases c with
    | append draft =>
      simp only [perform, append, history, hevents, hlast, and_self]
    | list p =>
      refine ⟨?_, hm⟩
      simp only [perform, page, hevents]
    | deleteBefore cutoff => simp only [perform, cleanup, history, hevents, hlast, and_self]
    | _ => cases h

theorem isPart_standing : IsPart standing Call.isStanding where
  skips m c h := by
    cases c with
    | writeConfig config => cases h
    | writeCredentials record => cases h
    | writeSilence deadline => cases h
    | _ => rfl
  follows m m' c h hm := by
    obtain ⟨hconfig, hrest⟩ := Prod.mk.inj hm
    obtain ⟨hrecord, hdeadline⟩ := Prod.mk.inj hrest
    cases c with
    | append draft => cases h
    | list p => cases h
    | deleteBefore cutoff => cases h
    | health => cases h
    | close => cases h
    | _ => simp only [perform, standing, hconfig, hrecord, hdeadline, and_self]

/-- A store in memory that begins without events, after any calls. An event that
is appended next gets the number after as many as were appended before it. An
event is there under its number as long as no cleanup after it had a later instant
than its own; it is as it was appended, and there is nothing else. The events
stand in the order of their numbers. A page has the newest events that it admits,
and a cleanup is answered by the number of events that it takes away. Calls about
the history are answered as if there had been no others, and so are calls about
the configuration, the credentials and the silence. -/
theorem retention (config : Config) (calls : List Call) :
    let m := (ofConfig config).after calls
    (∀ draft, (m.perform (.append draft)).1 = Call.appended calls + 1) ∧
      (∀ before draft later, calls = before ++ .append draft :: later →
        ((∃ e ∈ m.events, e.id = Call.appended before + 1) ↔
          ∀ cutoff, .deleteBefore cutoff ∈ later → ¬ draft.createdAt < cutoff) ∧
        ∀ e ∈ m.events, e.id = Call.appended before + 1 →
          e = draft.numbered (Call.appended before + 1)) ∧
      (∀ e ∈ m.events, ∃ before draft later, calls = before ++ .append draft :: later ∧
        e = draft.numbered (Call.appended before + 1)) ∧
      m.events.Pairwise (fun e e' => e.id < e'.id) ∧
      (∀ p, m.IsNewest p (m.perform (.list p)).1) ∧
      (∀ cutoff, (m.perform (.deleteBefore cutoff)).1 +
        (m.perform (.deleteBefore cutoff)).2.events.length = m.events.length) ∧
      (m.history = ((ofConfig config).after (calls.filter Call.isHistory)).history ∧
        ((ofConfig config).replies calls).filter (·.1.isHistory) =
          (ofConfig config).replies (calls.filter Call.isHistory)) ∧
      m.standing = ((ofConfig config).after (calls.filter Call.isStanding)).standing ∧
        ((ofConfig config).replies calls).filter (·.1.isStanding) =
          (ofConfig config).replies (calls.filter Call.isStanding) := by
  intro m
  have hevents : m.events = Call.surviving 0 calls := events_after
  have hincreasing : m.events.Pairwise fun e e' => e.id < e'.id := increasing_after config calls
  have hmem (e : Event) : e ∈ m.events ↔ ∃ before draft later,
      calls = before ++ .append draft :: later ∧ e = draft.numbered (Call.appended before + 1) ∧
        ∀ c ∈ later, c.Spares draft.createdAt := by
    rw [hevents, Call.mem_surviving_iff]
    simp only [Int.zero_add]
  refine ⟨?_, ?_, ?_, hincreasing, isNewest_page hincreasing, cleanup_add_length m,
    isPart_history.after_filter calls rfl, isPart_standing.after_filter calls rfl⟩
  · intro draft
    show m.lastId + 1 = _
    rw [lastId_after]
    exact congrArg (· + 1) (Int.zero_add _)
  · intro before draft later hcalls
    have hsame (e : Event) (he : e ∈ m.events) (hid : e.id = Call.appended before + 1) :
        e = draft.numbered (Call.appended before + 1) ∧ ∀ c ∈ later, c.Spares draft.createdAt := by
      obtain ⟨before', draft', later', hcalls', rfl, hspared⟩ := (hmem e).mp he
      have hcount : Call.appended before = Call.appended before' := by
        have hid' : (Call.appended before' : Int) + 1 = Call.appended before + 1 := hid
        omega
      obtain ⟨rfl, rfl⟩ := Call.append_unique (hcalls.symm.trans hcalls') hcount
      exact ⟨congrArg draft.numbered hid, hspared⟩
    refine ⟨?_, fun e he hid => (hsame e he hid).1⟩
    simp only [Instant.not_lt, ← Call.forall_spares_iff]
    constructor
    · rintro ⟨e, he, hid⟩
      exact (hsame e he hid).2
    · intro hspared
      exact ⟨_, (hmem _).mpr ⟨before, draft, later, hcalls, rfl, hspared⟩, rfl⟩
  · intro e he
    obtain ⟨before, draft, later, hcalls, he, -⟩ := (hmem e).mp he
    exact ⟨before, draft, later, hcalls, he⟩

/-- The second event is older than the first and is deleted before the third one
comes, which is as old. -/
def outOfOrder : List Call :=
  [.append { Backend.lostWarning with createdAt := Backend.firstSecond },
    .append Backend.lostWarning, .deleteBefore Backend.firstSecond, .append Backend.lostWarning]

theorem retention_outOfOrder :
    (∃ e ∈ ((ofConfig {}).after outOfOrder).events, e.id = 1) ∧
      (¬ ∃ e ∈ ((ofConfig {}).after outOfOrder).events, e.id = 2) ∧
      (∃ e ∈ ((ofConfig {}).after outOfOrder).events, e.id = 3) ∧
      (((ofConfig {}).after outOfOrder).perform (.append Backend.lostWarning)).1 = 4 := by
  obtain ⟨hnext, hthere, -⟩ := retention {} outOfOrder
  refine ⟨(hthere [] _ _ rfl).1.mpr ?_, ?_, (hthere (outOfOrder.take 3) _ _ rfl).1.mpr ?_,
    hnext _⟩
  · intro cutoff hcutoff
    obtain rfl : cutoff = Backend.firstSecond := by simpa using hcutoff
    decide
  · intro h
    have hspared := (hthere (outOfOrder.take 1) _ _ rfl).1.mp h Backend.firstSecond (by simp)
    exact absurd hspared (by decide)
  · intro cutoff hcutoff
    cases hcutoff

end Memory

end CpuAlert
