import CpuAlert.Proofs.Program.Run
import CpuAlert.Proofs.Store.Exact
import Mathlib.Algebra.GroupWithZero.Nat
import Mathlib.Data.List.Forall2

/-!
# The two stores agree

What is kept in memory can be written down as the tables of a file. Every call
then does the same to both: the file gives the answer that the store in memory
gives, and its tables are afterwards what is then kept in memory. To leave a file
and open it again makes no difference to its tables. So as long as everything
put into the stores is what a file keeps exactly, nobody can tell one store from
the other by its answers.

The number of an event has sixty-four bits. Past the last of them a file refuses
every event; nobody will ever see that, but the statements say so.

## Main definitions

* `Memory.toDatabase` — what is kept in memory as the tables of a file
* `Store.Call.IsExact` — a call puts nothing into a store that a file alters
* `Store.Step`, `Backend.answers` — what happens to a store, and its answers

## Main results

* `Memory.perform_toDatabase` — a call does the same to both stores
* `Memory.answers_toDatabase` — and so do any number of them
* `Backend.answers_memory_eq_database` — the two stores agree from the start
-/

namespace CpuAlert

open Store (Call)
open Time (Instant)

/-! ## Lists of results -/

section

variable {α β ε : Type}

/-- All items have a result exactly if these are their results. -/
theorem mapM_eq_ok_iff {f : α → Except ε β} {as : List α} {bs : List β} :
    as.mapM f = .ok bs ↔ as.map f = bs.map .ok := by
  induction as generalizing bs with
  | nil => cases bs <;> simp [pure, Except.pure]
  | cons a as ih =>
    rw [List.mapM_cons, List.map_cons]
    cases bs with
    | nil => cases f a <;> cases as.mapM f <;> simp [bind, Except.bind, pure, Except.pure]
    | cons b bs =>
      rw [List.map_cons, List.cons.injEq, ← ih]
      cases f a <;> cases as.mapM f <;> simp [bind, Except.bind, pure, Except.pure]

/-- If every item has a result of some kind, all have results of that kind. -/
theorem exists_mapM_eq_ok {f : α → Except ε β} {R : α → β → Prop} {as : List α}
    (h : ∀ a ∈ as, ∃ b, f a = .ok b ∧ R a b) :
    ∃ bs, as.mapM f = .ok bs ∧ List.Forall₂ R as bs := by
  induction as with
  | nil => exact ⟨[], rfl, .nil⟩
  | cons a as ih =>
    obtain ⟨⟨b, hb, hR⟩, hrest⟩ := List.forall_mem_cons.mp h
    obtain ⟨bs, hbs, hRs⟩ := ih hrest
    exact ⟨b :: bs, by rw [List.mapM_cons, hb, hbs]; rfl, .cons hR hRs⟩

/-- What related items have in common, their lists have. -/
theorem map_eq_of_forall₂ {γ : Type} {f : α → γ} {g : β → γ} {R : α → β → Prop}
    {as : List α} {bs : List β} (h : List.Forall₂ R as bs) (hsame : ∀ a b, R a b → g b = f a) :
    bs.map g = as.map f := by
  induction h with
  | nil => rfl
  | cons hfirst _ ih => rw [List.map_cons, List.map_cons, hsame _ _ hfirst, ih]

/-- A page is cut from the images of items as from the items. -/
theorem take_filter_reverse_map (f : α → β) (number : β → Int) (as : List α) (p : Page) :
    ((as.map f).reverse.filter fun b => p.admits (number b)).take p.limit =
      ((as.reverse.filter fun a => p.admits (number (f a))).take p.limit).map f := by
  rw [← List.map_reverse, List.filter_map, ← List.map_take]
  rfl

end

/-! ## Tables for what is kept in memory -/

namespace Memory

/-- The end of a silence as a cell. -/
def silenceCell (deadline : Option Instant) : Cell :=
  (deadline.map fun t => Cell.int t.toMillis).getD .null

/-- The row of an event. -/
def row (e : Event) : Database.EventRow := .ofDraft e.id e.toDraft

/-- What is kept in memory as the tables of a file at this path. -/
def toDatabase (m : Memory) (path : String) : Database where
  path
  settings := some (.ofConfig m.config)
  credentials := some m.credentials
  silence := some (silenceCell m.mutedUntil)
  events := m.events.map row
  lastId := m.lastId

/-- Everything that is kept is what a file keeps exactly, and no number was given
twice. -/
structure IsExact (m : Memory) : Prop where
  config : m.config.IsExact
  deadline : ∀ t ∈ m.mutedUntil, t.IsWhole
  events : ∀ e ∈ m.events, e.toDraft.IsExact
  id_le : ∀ e ∈ m.events, e.id ≤ m.lastId

/-- A file is new when nothing has been stored in memory. -/
theorem toDatabase_empty (path : String) : toDatabase {} path = { path } := rfl

/-- A new store keeps only defaults. -/
theorem isExact_empty : IsExact {} where
  config := Config.isExact_default
  deadline := by simp
  events := by simp
  id_le := by simp

end Memory

/-! ## Calls -/

/-- A call that both stores answer in the same way: what it puts in, a file keeps
exactly. Health and closing are about the store itself. -/
def Store.Call.IsExact : Call → Prop
  | .writeConfig config => config.IsExact
  | .append draft => draft.IsExact
  | .deleteBefore cutoff => cutoff.IsWhole
  | .writeSilence deadline => ∀ t ∈ deadline, t.IsWhole
  | .readConfig | .readCredentials | .writeCredentials _ | .list _ | .mutedUntil => True
  | .health | .close => False

/-- The numbers of events that a call needs. -/
def Store.Call.numbers : Call → Nat
  | .append _ => 1
  | _ => 0

namespace Memory

variable {m : Memory} (path : String) (now : Instant)

theorem readConfig_toDatabase (hm : m.IsExact) :
    (m.toDatabase path).readConfig = .ok m.config := by
  have hstorable := hm.config.toIsStorable
  show (Database.Settings.ofConfig m.config).config = _
  rw [Database.config_ofConfig hstorable.warning hstorable.critical hstorable.recovery,
    Database.readBack_eq_self hm.config]

theorem writeConfig_toDatabase {c : Config} (hc : c.IsExact) :
    (m.toDatabase path).writeConfig c = (.ok (), { m with config := c }.toDatabase path) := by
  have hnone : Database.emptyColumn?
      [("alert_settings.warning_percent", c.warningPercent),
        ("alert_settings.critical_percent", c.criticalPercent),
        ("alert_settings.recovery_percent", c.recoveryPercent)] = none := by
    refine Database.emptyColumn?_eq_none_iff.mpr (List.forall_mem_cons.mpr ⟨hc.warning, ?_⟩)
    exact List.forall_mem_cons.mpr ⟨hc.critical, List.forall_mem_singleton.mpr hc.recovery⟩
  simp only [Database.writeConfig, toDatabase, hnone]

/-- No number of a table is greater than the last one given. -/
theorem foldl_max_eq {ids : List Int} {last : Int} (h : ∀ i ∈ ids, i ≤ last) :
    ids.foldl max last = last := by
  induction ids with
  | nil => rfl
  | cons i ids ih =>
    obtain ⟨hfirst, hrest⟩ := List.forall_mem_cons.mp h
    rw [List.foldl_cons, Int.max_eq_left hfirst, ih hrest]

theorem append_toDatabase (hm : m.IsExact) {draft : Event.Draft} (hdraft : draft.IsExact)
    (hroom : m.lastId < 0x7FFFFFFFFFFFFFFF) :
    (m.toDatabase path).append draft =
      (.ok (m.append draft).1, (m.append draft).2.toDatabase path) := by
  have hids : ∀ i ∈ (m.events.map row).map (·.id), i ≤ m.lastId := by
    rw [List.map_map, List.forall_mem_map]
    exact hm.id_le
  have hnext : (m.toDatabase path).nextId? = some (m.lastId + 1) := by
    show (if ((m.events.map row).map (·.id)).foldl max m.lastId < 0x7FFFFFFFFFFFFFFF then
      some (((m.events.map row).map (·.id)).foldl max m.lastId + 1) else none) = _
    rw [foldl_max_eq hids, if_pos hroom]
  have hnone : Database.emptyColumn? [("alert_events.cpu_percent", draft.cpuPercent)] = none := by
    exact Database.emptyColumn?_eq_none_iff.mpr
      (List.forall_mem_singleton.mpr hdraft.cpuPercent.isNaN_eq_false)
  simp only [Database.append, Database.insert, hnext, hnone]
  simp only [append, toDatabase, List.map_append, List.map_cons, List.map_nil]
  rfl

/-- The rows of events are read as the events. -/
theorem mapM_event_row {es : List Event} (h : ∀ e ∈ es, e.toDraft.IsExact) :
    (es.map row).mapM (Database.EventRow.event now) = .ok es := by
  rw [mapM_eq_ok_iff, List.map_map]
  exact List.map_congr_left fun e he => Database.EventRow.event_ofDraft (h e he) e.id now

theorem page_toDatabase (hm : m.IsExact) (p : Page) :
    (m.toDatabase path).page now p = .ok (m.page p) := by
  show (((m.events.map row).reverse.filter fun r => p.admits r.id).take p.limit).mapM
    (Database.EventRow.event now) = _
  rw [take_filter_reverse_map]
  refine mapM_event_row now fun e he => hm.events e ?_
  exact List.mem_reverse.mp (List.mem_filter.mp (List.mem_of_mem_take he)).1

/-- A row stands before a cutoff if its event does. -/
theorem isBefore_row {e : Event} (he : e.toDraft.IsExact) {cutoff : Instant}
    (hcutoff : cutoff.IsWhole) :
    (!(row e).isBefore cutoff.toMillis) = decide (cutoff ≤ e.createdAt) := by
  have hiff := he.createdAt.toMillis_lt_iff hcutoff
  show (!decide (e.createdAt.toMillis < cutoff.toMillis)) = _
  simp only [hiff, ← Instant.not_lt, decide_not]

theorem cleanup_toDatabase (hm : m.IsExact) {cutoff : Instant} (hcutoff : cutoff.IsWhole) :
    (m.toDatabase path).cleanup cutoff =
      ((m.cleanup cutoff).1, (m.cleanup cutoff).2.toDatabase path) := by
  have hkept : ((m.events.map row).filter fun r => !r.isBefore cutoff.toMillis) =
      (m.events.filter fun e => cutoff ≤ e.createdAt).map row := by
    rw [List.filter_map]
    refine congrArg _ (List.filter_congr fun e he => ?_)
    exact isBefore_row (hm.events e he) hcutoff
  simp only [Database.cleanup, cleanup, toDatabase, hkept, List.length_map]

theorem mutedUntil_toDatabase (hm : m.IsExact) :
    (m.toDatabase path).mutedUntil now = .ok m.mutedUntil := by
  show (silenceCell m.mutedUntil).readOptionalInt.map _ = _
  cases hdeadline : m.mutedUntil with
  | none => rfl
  | some t =>
    show Except.ok (some (Database.instantColumn now t.toMillis)) = _
    rw [(hm.deadline t hdeadline).instantColumn_eq]

/-- A call does the same to both stores. -/
theorem perform_toDatabase (hm : m.IsExact) {c : Call} (hc : c.IsExact)
    (hroom : m.lastId + c.numbers ≤ 0x7FFFFFFFFFFFFFFF) :
    (m.toDatabase path).perform now c =
      (.ok (m.perform c).1, (m.perform c).2.toDatabase path) := by
  show (m.toDatabase path).performOpen now c = _
  cases c with
  | readConfig => exact congrArg (·, m.toDatabase path) (readConfig_toDatabase path hm)
  | writeConfig c => exact writeConfig_toDatabase path hc
  | readCredentials => rfl
  | writeCredentials r => rfl
  | append draft => exact append_toDatabase path hm hc (by simp only [Call.numbers] at hroom; omega)
  | list p => exact congrArg (·, m.toDatabase path) (page_toDatabase path now hm p)
  | deleteBefore cutoff =>
    simp only [Database.performOpen, cleanup_toDatabase path hm hc]
    rfl
  | mutedUntil => exact congrArg (·, m.toDatabase path) (mutedUntil_toDatabase path now hm)
  | writeSilence deadline => rfl
  | health => exact hc.elim
  | close => exact hc.elim

/-- What is kept stays exact. -/
theorem IsExact.perform (hm : m.IsExact) {c : Call} (hc : c.IsExact) : (m.perform c).2.IsExact := by
  obtain ⟨hconfig, hdeadline, hevents, hids⟩ := hm
  cases c with
  | writeConfig c => exact ⟨hc, hdeadline, hevents, hids⟩
  | writeSilence deadline => exact ⟨hconfig, hc, hevents, hids⟩
  | append draft =>
    refine ⟨hconfig, hdeadline, fun e he => ?_, fun e he => ?_⟩
    · rcases List.mem_append.mp he with he | he
      · exact hevents e he
      · exact List.mem_singleton.mp he ▸ hc
    · show e.id ≤ m.lastId + 1
      rcases List.mem_append.mp he with he | he
      · have hle := hids e he
        omega
      · exact Int.le_of_eq (congrArg Event.id (List.mem_singleton.mp he))
  | deleteBefore cutoff =>
    exact ⟨hconfig, hdeadline, fun e he => hevents e (List.mem_filter.mp he).1,
      fun e he => hids e (List.mem_filter.mp he).1⟩
  | readConfig | readCredentials | writeCredentials _ | list _ | mutedUntil | health | close =>
    exact ⟨hconfig, hdeadline, hevents, hids⟩

/-- Only an event takes a number. -/
theorem lastId_perform (c : Call) : (m.perform c).2.lastId = m.lastId + c.numbers := by
  cases c <;> simp [Memory.perform, append, cleanup, Call.numbers]

end Memory

/-! ## Sequences of calls -/

/-- What happens to a store: it is asked at some time, or it is left and opened
again. -/
inductive Store.Step
  | ask (now : Instant) (call : Call)
  | reopen

namespace Store.Step

/-- Both stores answer the step in the same way. -/
def IsExact : Step → Prop
  | ask _ c => c.IsExact
  | reopen => True

/-- The numbers of events that a step needs. -/
def numbers : Step → Nat
  | ask _ c => c.numbers
  | reopen => 0

end Store.Step

namespace Backend

/-- A store that is left and opened again: a file is closed first. What is in
memory only stays there as long as it is not left. -/
def reopen : Backend → Backend
  | .memory m => .memory m
  | .database d => .database (d.performOpen .epoch .close).2.reopen

/-- The answers of a store. -/
def answers : List Store.Step → Backend → List Store.Exchange
  | [], _ => []
  | .ask now c :: steps, b =>
    let (answer, b) := b.perform now c
    ⟨c, answer⟩ :: b.answers steps
  | .reopen :: steps, b => b.reopen.answers steps

end Backend

/-- Any sequence of calls is answered in the same way. -/
theorem Memory.answers_toDatabase (path : String) {steps : List Store.Step}
    (hexact : ∀ s ∈ steps, s.IsExact) {m : Memory} (hm : m.IsExact)
    (hroom : m.lastId + (steps.map (·.numbers)).sum ≤ 0x7FFFFFFFFFFFFFFF) :
    (Backend.memory m).answers steps = (Backend.database (m.toDatabase path)).answers steps := by
  induction steps generalizing m with
  | nil => rfl
  | cons s steps ih =>
    have hhead := hexact s List.mem_cons_self
    have htail := fun s hs => hexact s (List.mem_cons_of_mem _ hs)
    rw [List.map_cons, List.sum_cons] at hroom
    cases s with
    | reopen => exact ih htail hm (by simpa [Store.Step.numbers] using hroom)
    | ask now c =>
      have hnumbers : (Store.Step.ask now c).numbers = c.numbers := rfl
      rw [hnumbers] at hroom
      have hstep := perform_toDatabase path now hm hhead (by omega)
      have hlast : (m.perform c).2.lastId = m.lastId + c.numbers := lastId_perform c
      simp only [Backend.answers, Backend.perform, hstep]
      -- the tables are still what is kept in memory
      exact congrArg _ (ih htail (hm.perform hhead) (by omega))

namespace Backend

/-- The two stores agree: asked the same from the start, they answer the same,
however often the file is closed and opened again on the way. -/
theorem answers_memory_eq_database (path : String) {steps : List Store.Step}
    (hexact : ∀ s ∈ steps, s.IsExact)
    (hnumbers : (steps.map (·.numbers)).sum ≤ 0x7FFFFFFFFFFFFFFF) :
    (Backend.memory {}).answers steps = (Backend.database { path }).answers steps := by
  rw [← Memory.toDatabase_empty path]
  exact Memory.answers_toDatabase path hexact Memory.isExact_empty (by
    show (0 : Int) + _ ≤ _
    omega)

/-- A second after the beginning of time, which is a whole number of
milliseconds. -/
def firstSecond : Instant := ⟨1, 0, by decide, by decide, Instant.epoch.nano_lt⟩

/-- A warning that did not get through. -/
def lostWarning : Event.Draft where
  level := .warning
  message := "hot"
  cpuPercent := 80.5
  channels := [{ channel := "email", attempts := 2, errorMessage := some "timed \"out\"" }]
  createdAt := .epoch

/-- Two events and a silence, with the file opened again before they are asked
for and before the older event is deleted. -/
def shortLife : List Store.Step :=
  [.ask .epoch (.append lostWarning),
    .ask .epoch (.append { lostWarning with createdAt := firstSecond }),
    .ask .epoch (.writeSilence (some firstSecond)),
    .reopen,
    .ask firstSecond .mutedUntil,
    .ask firstSecond (.list (.of 1 none)),
    .reopen,
    .ask firstSecond (.deleteBefore firstSecond),
    .ask firstSecond (.list (.of 0 (some 2)))]

theorem isExact_lostWarning : lostWarning.IsExact where
  cpuPercent := ⟨rfl, by decide⟩
  createdAt := ⟨by decide, rfl⟩
  attempts_le := by decide

theorem answers_memory_eq_database_shortLife :
    (∀ s ∈ shortLife, s.IsExact) ∧ (shortLife.map (·.numbers)).sum ≤ 0x7FFFFFFFFFFFFFFF ∧
      (Backend.database { path := "alerts.db" }).answers shortLife =
        [⟨.append lostWarning, .ok 1⟩,
          ⟨.append { lostWarning with createdAt := firstSecond }, .ok 2⟩,
          ⟨.writeSilence (some firstSecond), .ok ()⟩,
          ⟨.mutedUntil, .ok (some firstSecond)⟩,
          ⟨.list (.of 1 none), .ok [{ lostWarning with createdAt := firstSecond, id := 2 }]⟩,
          ⟨.deleteBefore firstSecond, .ok 1⟩,
          ⟨.list (.of 0 (some 2)), .ok []⟩] := by
  have hsecond : firstSecond.IsWhole := ⟨by decide, rfl⟩
  have hlater : Event.Draft.IsExact { lostWarning with createdAt := firstSecond } :=
    { isExact_lostWarning with createdAt := hsecond }
  have hexact : ∀ s ∈ shortLife, s.IsExact := by
    simp only [shortLife, List.forall_mem_cons]
    exact ⟨isExact_lostWarning, hlater, fun t ht => Option.some.inj ht ▸ hsecond, trivial, trivial,
      trivial, trivial, hsecond, trivial, by simp⟩
  have hnumbers : (shortLife.map (·.numbers)).sum ≤ 0x7FFFFFFFFFFFFFFF := by decide
  refine ⟨hexact, hnumbers, ?_⟩
  rw [← answers_memory_eq_database "alerts.db" hexact hnumbers]
  rfl

end Backend

end CpuAlert
