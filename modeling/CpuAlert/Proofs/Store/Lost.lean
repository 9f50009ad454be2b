import CpuAlert.Proofs.Store.Agreement
import CpuAlert.Store.Edit

/-!
# What a file loses

A configuration, a record of credentials and the end of the silence have a row
of their own each. Storing one of them changes its row, whatever stood there, and
nothing else; loading it reads that row. So what was stored is loaded, however
often other calls are made in between and the file is opened again.

A row that another program has deleted is not put back. Then storing succeeds
without changing anything, and what is loaded is what a new store has. That is
the only way in which something is lost.

## Main definitions

* `Store.Piece` — the three things that have a row
* `Database.row?`, `Database.rowOf`, `Database.readRow` — a row, the row that is
  stored, and what is loaded from a row
* `Database.after` — the file after calls, and after it was opened again

## Main results

* `Database.perform_write` — what storing does
* `Database.row?_perform` — other calls leave the row alone
* `Database.read_of_write` — what is loaded of what was stored
* `Database.write_lost` — it is not always what was stored
-/

namespace CpuAlert

open Store (Kept Call Step)
open Time (Instant)

/-! ## What has a row -/

/-- The configuration, its thresholds without the sign of zero. -/
def Config.unsigned (c : Config) : Config :=
  { c with
    warningPercent := CpuAlert.unsigned c.warningPercent
    criticalPercent := CpuAlert.unsigned c.criticalPercent
    recoveryPercent := CpuAlert.unsigned c.recoveryPercent }

namespace Store

/-- One of the things that a store keeps beside the history. -/
inductive Piece
  | config
  | record
  | deadline
  deriving DecidableEq, Repr

namespace Piece

/-- The call that stores it. -/
def write (k : Kept) : Piece → Call
  | config => .writeConfig k.config
  | record => .writeCredentials k.record
  | deadline => .writeSilence k.deadline

/-- The call that loads it. -/
def read : Piece → Call
  | config => .readConfig
  | record => .readCredentials
  | deadline => .mutedUntil

/-- What loading it should reply. -/
def of (k : Kept) : (p : Piece) → p.read.Reply
  | config => k.config
  | record => k.record
  | deadline => k.deadline

end Piece

/-- What the call stores. -/
def Call.piece? : Call → Option Piece
  | .writeConfig _ => some .config
  | .writeCredentials _ => some .record
  | .writeSilence _ => some .deadline
  | .readConfig | .readCredentials | .append _ | .list _ | .deleteBefore _ | .mutedUntil
  | .health | .close => none

/-- What the step stores. -/
def Step.piece? : Step → Option Piece
  | .ask _ c => c.piece?
  | .reopen => none

namespace Kept

/-- A file can give all of it back: the configuration up to the sign of zero, and
the end of the silence since it is a whole number of milliseconds. -/
structure IsStorable (k : Kept) : Prop where
  config : k.config.IsStorable
  deadline : ∀ t ∈ k.deadline, t.IsWhole

/-- The same without the sign of zero. -/
def unsigned (k : Kept) : Kept := { k with config := k.config.unsigned }

/-- What a new store keeps. -/
def fresh : Kept := ⟨{}, {}, none⟩

end Kept

end Store

open Store (Piece)

namespace Database

/-! ## Rows -/

/-- What stands in a row. -/
abbrev Row : Piece → Type
  | .config => Settings
  | .record => SealedCredentials
  | .deadline => Cell

/-- The row, unless it is missing. -/
def row? (d : Database) : (p : Piece) → Option (Row p)
  | .config => d.settings
  | .record => d.credentials
  | .deadline => d.silence

/-- The file with another row, or without it. -/
def setRow (d : Database) : (p : Piece) → Option (Row p) → Database
  | .config, row => { d with settings := row }
  | .record, row => { d with credentials := row }
  | .deadline, row => { d with silence := row }

theorem row?_setRow (d : Database) {p : Piece} (row : Option (Row p)) :
    (d.setRow p row).row? p = row := by
  cases p <;> rfl

theorem setRow_row? (d : Database) (p : Piece) : d.setRow p (d.row? p) = d := by
  cases p <;> rfl

theorem row?_setRow_of_ne (d : Database) {p q : Piece} (h : q ≠ p) (row : Option (Row q)) :
    (d.setRow q row).row? p = d.row? p := by
  cases p <;> cases q <;> first | rfl | exact absurd rfl h

/-- The row that is stored. -/
def rowOf (k : Kept) : (p : Piece) → Row p
  | .config => .ofConfig k.config
  | .record => k.record
  | .deadline => Memory.silenceCell k.deadline

/-- What is loaded from a row; without it, what a new store has. -/
def readRow (now : Instant) : (p : Piece) → Option (Row p) → p.read.Answer
  | .config, none => .ok {}
  | .config, some s => s.config
  | .record, row => .ok (row.getD {})
  | .deadline, none => .ok none
  | .deadline, some c => c.readOptionalInt.map fun ms => ms.map (instantColumn now)

variable {d : Database} {k : Kept} {p : Piece}

theorem perform_of_isOpen (hopen : d.isOpen = true) (now : Instant) (c : Call) :
    d.perform now c = d.performOpen now c := by
  simp only [perform, hopen, if_true]

/-- A closed file is left as it is. -/
theorem perform_snd_of_closed (hclosed : d.isOpen = false) (now : Instant) (c : Call) :
    (d.perform now c).2 = d := by
  cases c <;> simp [perform, hclosed]

/-- Nothing is stored in a closed file. -/
theorem isOpen_of_write_ok {now : Instant} {reply : (p.write k).Reply}
    (hok : (d.perform now (p.write k)).1 = .ok reply) : d.isOpen = true := by
  by_contra hclosed
  rw [Bool.not_eq_true] at hclosed
  cases p <;> simp [Piece.write, perform, hclosed] at hok

/-- Loading reads the row. -/
theorem perform_read (hopen : d.isOpen = true) (now : Instant) (p : Piece) :
    (d.perform now p.read).1 = readRow now p (d.row? p) := by
  rw [perform_of_isOpen hopen]
  cases p with
  | config =>
    show d.readConfig = _
    rw [readConfig, row?]
    cases d.settings <;> rfl
  | record => rfl
  | deadline =>
    show d.mutedUntil now = _
    rw [mutedUntil, row?]
    cases d.silence <;> rfl

/-- A row that was stored is loaded as what was stored. -/
theorem readRow_rowOf (hk : k.IsStorable) (now : Instant) (p : Piece) :
    readRow now p (some (rowOf k p)) = .ok (p.of k.unsigned) := by
  cases p with
  | config =>
    show (Settings.ofConfig k.config).config = .ok k.config.unsigned
    rw [config_ofConfig hk.config.warning hk.config.critical hk.config.recovery,
      readBack_eq hk.config]
    rfl
  | record => rfl
  | deadline =>
    cases hdeadline : k.deadline with
    | none => simp [readRow, rowOf, Memory.silenceCell, hdeadline, Piece.of, Kept.unsigned,
        Cell.readOptionalInt, Except.map]
    | some t =>
      simp [readRow, rowOf, Memory.silenceCell, hdeadline, Piece.of, Kept.unsigned,
        Cell.readOptionalInt, Except.map, (hk.deadline t hdeadline).instantColumn_eq now]

/-- A missing row is loaded as what a new store has. -/
theorem readRow_none (now : Instant) (p : Piece) :
    readRow now p none = .ok (p.of .fresh) := by
  cases p <;> rfl

/-! ## Calls -/

/-- A configuration whose thresholds are numbers is never refused. -/
theorem writeConfig_eq {c : Config} (h : c.IsStorable) :
    d.writeConfig c = (.ok (), { d with settings := d.settings.map fun _ => .ofConfig c }) := by
  have hnone : emptyColumn?
      [("alert_settings.warning_percent", c.warningPercent),
        ("alert_settings.critical_percent", c.criticalPercent),
        ("alert_settings.recovery_percent", c.recoveryPercent)] = none := by
    rw [emptyColumn?_eq_none_iff, List.forall_mem_cons, List.forall_mem_cons,
      List.forall_mem_singleton]
    exact ⟨h.warning, h.critical, h.recovery⟩
  rw [writeConfig]
  split
  · rename_i hrow
    rw [hrow, Option.map_none, ← hrow]
  · rename_i s hrow
    rw [hnone, hrow]
    rfl

/-- Storing succeeds, and puts its row in the place of the one that is there. -/
theorem perform_write (hk : k.IsStorable) (hopen : d.isOpen = true) (now : Instant) (p : Piece) :
    ∃ reply, d.perform now (p.write k) =
      (.ok reply, d.setRow p ((d.row? p).map fun _ => rowOf k p)) := by
  rw [perform_of_isOpen hopen]
  cases p with
  | config => exact ⟨(), writeConfig_eq hk.config⟩
  | record => exact ⟨(), rfl⟩
  | deadline => exact ⟨(), rfl⟩

/-- What a file is not asked to store, it leaves alone. -/
theorem row?_perform {c : Call} (hc : c.piece? ≠ some p) (now : Instant) :
    (d.perform now c).2.row? p = d.row? p := by
  by_cases hopen : d.isOpen = true
  · rw [perform_of_isOpen hopen]
    cases c with
    | writeConfig c =>
      have hp : Piece.config ≠ p := fun h => hc (congrArg some h)
      show (d.writeConfig c).2.row? p = _
      rw [writeConfig]
      split
      · rfl
      · split
        · rfl
        · exact row?_setRow_of_ne d hp _
    | writeCredentials r =>
      have hp : Piece.record ≠ p := fun h => hc (congrArg some h)
      exact row?_setRow_of_ne d hp _
    | writeSilence t =>
      have hp : Piece.deadline ≠ p := fun h => hc (congrArg some h)
      exact row?_setRow_of_ne d hp _
    | append draft =>
      show (d.append draft).2.row? p = _
      rw [append, insert]
      split <;> cases p <;> rfl
    | _ => cases p <;> rfl
  · rw [perform_snd_of_closed (eq_false_of_ne_true hopen)]

/-! ## Steps -/

/-- The file after calls, and after it was opened again. -/
def after (d : Database) : List Step → Database
  | [] => d
  | .ask now c :: steps => (d.perform now c).2.after steps
  | .reopen :: steps => d.reopen.after steps

/-- Nor is it changed by any number of calls for other things. -/
theorem row?_after {steps : List Step} (h : ∀ s ∈ steps, s.piece? ≠ some p) (d : Database) :
    (d.after steps).row? p = d.row? p := by
  induction steps generalizing d with
  | nil => rfl
  | cons s steps ih =>
    obtain ⟨hfirst, hrest⟩ := List.forall_mem_cons.mp h
    cases s with
    | ask now c => exact (ih hrest _).trans (row?_perform hfirst now)
    | reopen => exact (ih hrest _).trans (by cases p <;> rfl)

/-- What is loaded after storing and some steps more. -/
def reloaded (d : Database) (k : Kept) (p : Piece) (now : Instant) (steps : List Step)
    (later : Instant) : p.read.Answer :=
  (((d.perform now (p.write k)).2.after steps).perform later p.read).1

/-- Where the row is there, what was stored is what is loaded next, up to the
sign of zero, whatever the row held. Where it is missing, storing changes nothing
and what a new store has is loaded. So something is lost exactly if the row is
missing and it was not what a new store has anyhow. -/
theorem read_of_write (hk : k.IsStorable) {now : Instant} {reply : (p.write k).Reply}
    (hok : (d.perform now (p.write k)).1 = .ok reply) {steps : List Step}
    (hsteps : ∀ s ∈ steps, s.piece? ≠ some p)
    (hopen : ((d.perform now (p.write k)).2.after steps).isOpen = true) (later : Instant) :
    ((d.row? p).isSome → d.reloaded k p now steps later = .ok (p.of k.unsigned)) ∧
      (d.row? p = none → (d.perform now (p.write k)).2 = d ∧
        d.reloaded k p now steps later = .ok (p.of .fresh)) ∧
      (d.reloaded k p now steps later ≠ .ok (p.of k.unsigned) ↔
        d.row? p = none ∧ p.of k.unsigned ≠ p.of .fresh) := by
  obtain ⟨reply', hwrite⟩ := perform_write hk (isOpen_of_write_ok hok) now p
  have hloaded : d.reloaded k p now steps later =
      readRow later p ((d.row? p).map fun _ => rowOf k p) := by
    rw [reloaded, perform_read hopen, row?_after hsteps, hwrite, row?_setRow]
  cases hrow : d.row? p with
  | none =>
    have hfresh : d.reloaded k p now steps later = .ok (p.of .fresh) := by
      rw [hloaded, hrow, Option.map_none, readRow_none]
    have hsame : (d.perform now (p.write k)).2 = d := by
      rw [hwrite, hrow, Option.map_none, ← hrow]
      exact setRow_row? d p
    refine ⟨nofun, fun _ => ⟨hsame, hfresh⟩, ?_⟩
    rw [hfresh]
    constructor
    · exact fun h => ⟨rfl, fun heq => h (congrArg _ heq.symm)⟩
    · exact fun h heq => h.2 (Except.ok.inj heq).symm
  | some row =>
    have hkept : d.reloaded k p now steps later = .ok (p.of k.unsigned) := by
      rw [hloaded, hrow, Option.map_some, readRow_rowOf hk]
    exact ⟨fun _ => hkept, nofun, fun h => absurd hkept h, nofun⟩

/-- A new file. -/
def newFile : Database := { path := "alerts.db" }

/-- A new file whose row of the settings another program has deleted. -/
def rowless : Database := { newFile with settings := none }

/-- Notifications of a level a minute apart. -/
def eager : Kept := ⟨{ cooldown := 60 }, {}, none⟩

theorem eager_isStorable : eager.IsStorable where
  config :=
    have h := Config.isExact_default
    ⟨h.warning, h.critical, h.recovery, h.delays_ne_nil, h.delays_le⟩
  deadline := by simp [eager]

/-- The silence is ended, and the file is opened again. -/
def laterSteps : List Step := [.ask .epoch (.writeSilence none), .ask .epoch .close, .reopen]

theorem read_of_write_eager :
    eager.IsStorable ∧
      (newFile.perform .epoch (Piece.config.write eager)).1 = .ok () ∧
      (rowless.perform .epoch (Piece.config.write eager)).1 = .ok () ∧
      (∀ s ∈ laterSteps, s.piece? ≠ some .config) ∧
      newFile.reloaded eager .config .epoch laterSteps .epoch = .ok eager.unsigned.config ∧
      rowless.reloaded eager .config .epoch laterSteps .epoch = .ok {} := by
  have hnew : (newFile.perform .epoch (Piece.config.write eager)).1 = .ok () := rfl
  have hrowless : (rowless.perform .epoch (Piece.config.write eager)).1 = .ok () := rfl
  have hsteps : ∀ s ∈ laterSteps, s.piece? ≠ some .config := by
    simp [laterSteps, Step.piece?, Call.piece?]
  have hread := (read_of_write eager_isStorable hnew hsteps rfl .epoch).1 rfl
  have hread' := (read_of_write eager_isStorable hrowless hsteps rfl .epoch).2.1 rfl
  exact ⟨eager_isStorable, hnew, hrowless, hsteps, hread, hread'.2⟩

/-- What was stored with success is not always loaded: without its row, the new
configuration is lost. -/
theorem write_lost :
    ¬ ∀ (d : Database) (k : Kept) (p : Piece) (now later : Instant) (reply : (p.write k).Reply),
      k.IsStorable → (d.perform now (p.write k)).1 = .ok reply →
      ((d.perform now (p.write k)).2.perform later p.read).1 = .ok (p.of k.unsigned) := by
  intro h
  have hkept := h rowless eager .config .epoch .epoch () eager_isStorable rfl
  have hlost : ((rowless.perform .epoch (Piece.config.write eager)).2.perform .epoch
      Piece.config.read).1 = .ok ({} : Config) := rfl
  have hconfig : ({} : Config) = eager.config.unsigned := Except.ok.inj (hlost.symm.trans hkept)
  exact absurd (congrArg Config.cooldown hconfig) (by decide)

end Database

end CpuAlert
