import Mathlib.Tactic.SplitIfs
import CpuAlert.Evaluator
import CpuAlert.Proofs.Time.Elapsed

/-!
# The verdict on a reading

What a reading does to the evaluator depends on one question: which level, if
any, is to be notified now. A reading speaks for at most one level; that level
is notified if its window has lasted and its cooldown is over. This file gives
the verdict as a function and every part of the evaluator after a reading as a
function of it, so that laws about runs never look into the evaluation itself.

## Main definitions

* `Sample.IsHotCritical`, `Sample.IsHotWarning`, `Evaluator.IsCalm` — the
  readings that keep the window of a level open
* `Evaluator.spokenFor` — the level that a reading speaks for
* `Evaluator.verdict` — the level to be notified, silenced or not

## Main results

* `Evaluator.evaluate_fst` — the triggers of a reading
* `Evaluator.since_evaluate`, `Evaluator.sentAt_evaluate`,
  `Evaluator.active_evaluate` — the windows, the sendings and the level after it
* `Evaluator.verdict_eq_some_iff` — when a level is to be notified
-/

namespace CpuAlert

open Time (Instant)

/-! ## Zones -/

/-- The reading is critical. -/
def Sample.IsHotCritical (s : Sample) : Prop :=
  s.config.enabled = true ∧ s.cpuPercent ≥ s.config.criticalPercent

/-- The reading is at least a warning. A critical reading is one, whatever the
thresholds. -/
def Sample.IsHotWarning (s : Sample) : Prop :=
  s.config.enabled = true ∧
    (s.cpuPercent ≥ s.config.criticalPercent ∨ s.cpuPercent ≥ s.config.warningPercent)

instance (s : Sample) : Decidable s.IsHotCritical := inferInstanceAs (Decidable (_ ∧ _))

instance (s : Sample) : Decidable s.IsHotWarning := inferInstanceAs (Decidable (_ ∧ (_ ∨ _)))

theorem Sample.IsHotCritical.isHotWarning {s : Sample} (h : s.IsHotCritical) : s.IsHotWarning :=
  ⟨h.1, Or.inl h.2⟩

/-- The time for which a level has to last before it is notified. -/
def Config.window (c : Config) : Level → Int
  | .warning => c.warningWindow
  | .critical => c.criticalWindow
  | .recovery => c.recoveryWindow
  | .none => 0
  | .test => 0

namespace Evaluator

/-- The reading counts towards the recovery of an active level: it is below all
thresholds, and below the recovery threshold by comparison, so that it is a
number. -/
def IsCalm (e : Evaluator) (s : Sample) : Prop :=
  s.config.enabled = true ∧ ¬ s.cpuPercent ≥ s.config.criticalPercent ∧
    ¬ s.cpuPercent ≥ s.config.warningPercent ∧ s.cpuPercent < s.config.recoveryPercent ∧
    e.active ≠ .none

instance (e : Evaluator) (s : Sample) : Decidable (e.IsCalm s) :=
  inferInstanceAs (Decidable (_ ∧ _ ∧ _ ∧ _ ∧ _))

/-- The start of the window of a level. -/
def since (e : Evaluator) : Level → Option Instant
  | .warning => e.warningSince
  | .critical => e.criticalSince
  | .recovery => e.recoverySince
  | .none => none
  | .test => none

/-- When a level was last notified, as it is shown. -/
def lastAt (e : Evaluator) : Level → Option Instant
  | .warning => e.lastWarningAt
  | .critical => e.lastCriticalAt
  | .recovery => e.lastRecoveryAt
  | .none => none
  | .test => none

/-- The reading keeps the window of a level open, or opens it. -/
def Feeds (e : Evaluator) (s : Sample) : Level → Prop
  | .warning => s.IsHotWarning
  | .critical => s.IsHotCritical
  | .recovery => e.IsCalm s
  | .none => False
  | .test => False

instance (e : Evaluator) (s : Sample) : (l : Level) → Decidable (e.Feeds s l)
  | .warning => inferInstanceAs (Decidable s.IsHotWarning)
  | .critical => inferInstanceAs (Decidable s.IsHotCritical)
  | .recovery => inferInstanceAs (Decidable (e.IsCalm s))
  | .none => inferInstanceAs (Decidable False)
  | .test => inferInstanceAs (Decidable False)

/-- The level that a reading speaks for: the highest whose window it feeds. -/
def spokenFor (e : Evaluator) (s : Sample) : Option Level :=
  if s.IsHotCritical then some .critical
  else if s.IsHotWarning then some .warning
  else if e.IsCalm s then some .recovery
  else none

/-- The window of a level has lasted and its cooldown is over. -/
def isReady (e : Evaluator) (s : Sample) (l : Level) : Bool :=
  Instant.hasLasted ((e.since l).getD s.time) s.time (s.config.window l)
    && e.isDue l s.time s.config.cooldown

/-- The level that is to be notified, whether notifications are silenced or
not. -/
def verdict (e : Evaluator) (s : Sample) : Option Level := (e.spokenFor s).filter (e.isReady s)

variable {e : Evaluator} {s : Sample} {l : Level}

theorem spokenFor_eq_critical_iff : e.spokenFor s = some .critical ↔ s.IsHotCritical := by
  unfold spokenFor
  split_ifs <;> simp_all

theorem spokenFor_eq_warning_iff :
    e.spokenFor s = some .warning ↔ s.IsHotWarning ∧ ¬ s.IsHotCritical := by
  unfold spokenFor
  split_ifs <;> simp_all

theorem IsCalm.not_isHotWarning (h : e.IsCalm s) : ¬ s.IsHotWarning :=
  fun hw => hw.2.elim h.2.1 h.2.2.1

theorem spokenFor_eq_recovery_iff : e.spokenFor s = some .recovery ↔ e.IsCalm s := by
  unfold spokenFor
  split_ifs with hcritical hwarning hcalm
  · simpa using fun hcalm : e.IsCalm s => hcalm.not_isHotWarning hcritical.isHotWarning
  · simpa using fun hcalm : e.IsCalm s => hcalm.not_isHotWarning hwarning
  · simpa using hcalm
  · simpa using hcalm

/-- A reading feeds the window of the level that it speaks for. -/
theorem feeds_of_spokenFor (h : e.spokenFor s = some l) : e.Feeds s l := by
  unfold spokenFor at h
  split_ifs at h with hcritical hwarning hcalm
  · obtain rfl := Option.some.inj h
    exact hcritical
  · obtain rfl := Option.some.inj h
    exact hwarning
  · obtain rfl := Option.some.inj h
    exact hcalm

theorem isReady_eq_true_iff :
    e.isReady s l = true ↔
      Instant.Elapsed ((e.since l).getD s.time) s.time (s.config.window l) ∧
        ∀ last ∈ e.sentAt l, Instant.Elapsed last s.time s.config.cooldown := by
  unfold isReady isDue
  cases e.sentAt l with
  | none => simp [Instant.hasLasted_iff]
  | some last => simp [Instant.hasLasted_iff]

/-- A level is to be notified if the reading speaks for it, its window has
lasted, and its last sending is long enough ago. -/
theorem verdict_eq_some_iff :
    e.verdict s = some l ↔ e.spokenFor s = some l ∧
      Instant.Elapsed ((e.since l).getD s.time) s.time (s.config.window l) ∧
      ∀ last ∈ e.sentAt l, Instant.Elapsed last s.time s.config.cooldown := by
  rw [verdict, Option.filter_eq_some_iff, isReady_eq_true_iff]

theorem verdict_of_spokenFor (h : e.spokenFor s = some l) :
    e.verdict s = if e.isReady s l then some l else none := by
  rw [verdict, h, Option.filter_some]

theorem verdict_of_disabled (h : s.config.enabled = false) : e.verdict s = none := by
  have hoff : ¬ s.config.enabled = true := by simp [h]
  simp [verdict, spokenFor, Sample.IsHotCritical, Sample.IsHotWarning, IsCalm, hoff]

/-! ## One reading, zone by zone -/

theorem evaluate_of_disabled (h : s.config.enabled = false) :
    e.evaluate s = ([], { e.forgetWindows with active := .none }) := by
  simp [evaluate, h]

/-- A critical reading feeds two windows. -/
theorem evaluate_of_critical (h : s.IsHotCritical) :
    e.evaluate s =
      let fed : Evaluator := { e with
        recoverySince := none
        warningSince := some (e.warningSince.getD s.time)
        criticalSince := some (e.criticalSince.getD s.time) }
      if e.isReady s .critical then
        let raised : Evaluator := { fed with active := .critical }
        if s.silenced then ([], raised)
        else ([⟨.critical, s.cpuPercent⟩], raised.recordSending .critical s.time)
      else ([], fed) := by
  unfold evaluate
  rw [if_neg (by simp [h.1]), if_pos h.2]
  rfl

/-- A warning closes the critical window and feeds its own. -/
theorem evaluate_of_warning (h : s.IsHotWarning) (hc : ¬ s.IsHotCritical) :
    e.evaluate s =
      let fed : Evaluator := { e with
        criticalSince := none
        recoverySince := none
        warningSince := some (e.warningSince.getD s.time) }
      if e.isReady s .warning then
        if s.silenced then
          ([], { fed with active := if e.active = .none then .warning else e.active })
        else
          let raised : Evaluator :=
            { fed with active := if e.active = .critical then .critical else .warning }
          ([⟨.warning, s.cpuPercent⟩], raised.recordSending .warning s.time)
      else ([], fed) := by
  have hbelow : ¬ s.cpuPercent ≥ s.config.criticalPercent := fun hge => hc ⟨h.1, hge⟩
  obtain ⟨active, _⟩ := e
  unfold evaluate
  rw [if_neg (by simp [h.1]), if_neg hbelow]
  dsimp only
  rw [if_pos (h.2.resolve_left hbelow)]
  cases active <;> rfl

/-- A calm reading closes the other windows and feeds that of the recovery. -/
theorem evaluate_of_calm (h : e.IsCalm s) :
    e.evaluate s =
      if e.isReady s .recovery then
        let rested : Evaluator := { e.forgetWindows with active := .none }
        if s.silenced then ([], rested)
        else ([⟨.recovery, s.cpuPercent⟩], rested.recordSending .recovery s.time)
      else
        ([], { e with
          criticalSince := none
          warningSince := none
          recoverySince := some (e.recoverySince.getD s.time) }) := by
  obtain ⟨hon, hc, hw, hlt, hactive⟩ := h
  unfold evaluate
  rw [if_neg (by simp [hon]), if_neg hc]
  dsimp only
  rw [if_neg hw, atRest, if_pos ⟨hactive, hlt⟩]
  rfl

/-- A reading that is neither hot nor calm closes all windows. -/
theorem evaluate_of_idle (hon : s.config.enabled = true) (hw : ¬ s.IsHotWarning)
    (hcalm : ¬ e.IsCalm s) : e.evaluate s = ([], e.forgetWindows) := by
  have hcritical : ¬ s.cpuPercent ≥ s.config.criticalPercent := fun h => hw ⟨hon, Or.inl h⟩
  have hwarning : ¬ s.cpuPercent ≥ s.config.warningPercent := fun h => hw ⟨hon, Or.inr h⟩
  unfold evaluate
  rw [if_neg (by simp [hon]), if_neg hcritical]
  dsimp only
  rw [if_neg hwarning, atRest,
    if_neg fun h => hcalm ⟨hon, hcritical, hwarning, h.2, h.1⟩]
  rfl

/-- Alerting is off, or the reading is critical, a warning, calm, or none of
these. -/
theorem zone_cases (e : Evaluator) (s : Sample) :
    s.config.enabled = false ∨ s.IsHotCritical ∨ (s.IsHotWarning ∧ ¬ s.IsHotCritical) ∨
      e.IsCalm s ∨ (s.config.enabled = true ∧ ¬ s.IsHotWarning ∧ ¬ e.IsCalm s) := by
  by_cases hon : s.config.enabled = true
  · by_cases hc : s.IsHotCritical
    · exact Or.inr (Or.inl hc)
    · by_cases hw : s.IsHotWarning
      · exact Or.inr (Or.inr (Or.inl ⟨hw, hc⟩))
      · by_cases hcalm : e.IsCalm s
        · exact Or.inr (Or.inr (Or.inr (Or.inl hcalm)))
        · exact Or.inr (Or.inr (Or.inr (Or.inr ⟨hon, hw, hcalm⟩)))
  · exact Or.inl (by simpa using hon)

theorem verdict_of_idle (hw : ¬ s.IsHotWarning) (hcalm : ¬ e.IsCalm s) : e.verdict s = none := by
  have hc : ¬ s.IsHotCritical := fun hc => hw hc.isHotWarning
  simp [verdict, spokenFor, hc, hw, hcalm]

/-! ## What a sending leaves alone -/

section RecordSending

variable (e : Evaluator) (level : Level) (now : Instant)

@[simp] theorem sentAt_recordSending (l : Level) :
    (e.recordSending level now).sentAt l = if l = level then some now else e.sentAt l := by
  cases level <;> rfl

@[simp] theorem active_recordSending : (e.recordSending level now).active = e.active := by
  cases level <;> rfl

@[simp] theorem warningSince_recordSending :
    (e.recordSending level now).warningSince = e.warningSince := by
  cases level <;> rfl

@[simp] theorem criticalSince_recordSending :
    (e.recordSending level now).criticalSince = e.criticalSince := by
  cases level <;> rfl

@[simp] theorem recoverySince_recordSending :
    (e.recordSending level now).recoverySince = e.recoverySince := by
  cases level <;> rfl

end RecordSending

/-! ## What a reading leaves behind -/

/-- The triggers of a reading: its verdict, unless notifications are silenced. -/
theorem evaluate_fst (e : Evaluator) (s : Sample) :
    (e.evaluate s).1 =
      if s.silenced then [] else (e.verdict s).toList.map fun l => ⟨l, s.cpuPercent⟩ := by
  rcases zone_cases e s with hoff | hc | ⟨hw, hc⟩ | hcalm | ⟨hon, hw, hcalm⟩
  · simp [evaluate_of_disabled hoff, verdict_of_disabled hoff]
  · rw [evaluate_of_critical hc, verdict_of_spokenFor (spokenFor_eq_critical_iff.2 hc)]
    cases e.isReady s .critical <;> cases s.silenced <;> simp
  · rw [evaluate_of_warning hw hc, verdict_of_spokenFor (spokenFor_eq_warning_iff.2 ⟨hw, hc⟩)]
    cases e.isReady s .warning <;> cases s.silenced <;> simp
  · rw [evaluate_of_calm hcalm, verdict_of_spokenFor (spokenFor_eq_recovery_iff.2 hcalm)]
    cases e.isReady s .recovery <;> cases s.silenced <;> simp
  · simp [evaluate_of_idle hon hw hcalm, verdict_of_idle hw hcalm]

@[simp] theorem sentAt_forgetWindows (e : Evaluator) : e.forgetWindows.sentAt = e.sentAt := rfl

/-- A level is sent now exactly if it is the verdict and not silenced. -/
theorem sentAt_evaluate (e : Evaluator) (s : Sample) (l : Level) :
    (e.evaluate s).2.sentAt l =
      if s.silenced = false ∧ e.verdict s = some l then some s.time else e.sentAt l := by
  rcases zone_cases e s with hoff | hc | ⟨hw, hc⟩ | hcalm | ⟨hon, hw, hcalm⟩
  · simp [evaluate_of_disabled hoff, verdict_of_disabled hoff]
  · rw [evaluate_of_critical hc, verdict_of_spokenFor (spokenFor_eq_critical_iff.2 hc)]
    cases e.isReady s .critical <;> cases s.silenced <;> simp [eq_comm]
  · rw [evaluate_of_warning hw hc, verdict_of_spokenFor (spokenFor_eq_warning_iff.2 ⟨hw, hc⟩)]
    cases e.isReady s .warning <;> cases s.silenced <;> simp [eq_comm]
  · rw [evaluate_of_calm hcalm, verdict_of_spokenFor (spokenFor_eq_recovery_iff.2 hcalm)]
    cases e.isReady s .recovery <;> cases s.silenced <;> simp [eq_comm]
  · simp [evaluate_of_idle hon hw hcalm, verdict_of_idle hw hcalm]

/-- What is shown of a level's last sending changes exactly if the level is sent
now. -/
theorem lastAt_evaluate (e : Evaluator) (s : Sample) (l : Level) :
    (e.evaluate s).2.lastAt l =
      if s.silenced = false ∧ e.verdict s = some l then some s.time else e.lastAt l := by
  rcases zone_cases e s with hoff | hc | ⟨hw, hc⟩ | hcalm | ⟨hon, hw, hcalm⟩
  · rw [evaluate_of_disabled hoff, verdict_of_disabled hoff, if_neg (by simp)]
    cases l <;> rfl
  · rw [evaluate_of_critical hc, verdict_of_spokenFor (spokenFor_eq_critical_iff.2 hc)]
    cases e.isReady s .critical <;> cases s.silenced <;> cases l <;> rfl
  · rw [evaluate_of_warning hw hc, verdict_of_spokenFor (spokenFor_eq_warning_iff.2 ⟨hw, hc⟩)]
    cases e.isReady s .warning <;> cases s.silenced <;> cases l <;> rfl
  · rw [evaluate_of_calm hcalm, verdict_of_spokenFor (spokenFor_eq_recovery_iff.2 hcalm)]
    cases e.isReady s .recovery <;> cases s.silenced <;> cases l <;> rfl
  · rw [evaluate_of_idle hon hw hcalm, verdict_of_idle hw hcalm, if_neg (by simp)]
    cases l <;> rfl

/-- A window that is fed is open, from where it was or from now, unless the
reading is a recovery; every other window is closed. -/
theorem since_evaluate (e : Evaluator) (s : Sample) (l : Level) :
    (e.evaluate s).2.since l =
      if e.Feeds s l ∧ e.verdict s ≠ some .recovery then some ((e.since l).getD s.time)
      else none := by
  rcases zone_cases e s with hoff | hc | ⟨hw, hc⟩ | hcalm | ⟨hon, hw, hcalm⟩
  · rw [evaluate_of_disabled hoff, if_neg]
    · cases l <;> rfl
    · have hon : ¬ s.config.enabled = true := by simp [hoff]
      rintro ⟨hfeeds, -⟩
      cases l with
      | warning => exact hon hfeeds.1
      | critical => exact hon hfeeds.1
      | recovery => exact hon hfeeds.1
      | none => exact hfeeds
      | test => exact hfeeds
  -- a hot reading feeds no recovery, and a calm one feeds nothing else
  · have hcalm : ¬ e.IsCalm s := fun h => h.not_isHotWarning hc.isHotWarning
    rw [evaluate_of_critical hc, verdict_of_spokenFor (spokenFor_eq_critical_iff.2 hc)]
    cases e.isReady s .critical <;> cases s.silenced <;> cases l <;>
      simp [since, Feeds, hc, hc.isHotWarning, hcalm]
  · have hcalm : ¬ e.IsCalm s := fun h => h.not_isHotWarning hw
    rw [evaluate_of_warning hw hc, verdict_of_spokenFor (spokenFor_eq_warning_iff.2 ⟨hw, hc⟩)]
    cases e.isReady s .warning <;> cases s.silenced <;> cases l <;>
      simp [since, Feeds, hc, hw, hcalm]
  · have hw := hcalm.not_isHotWarning
    have hc : ¬ s.IsHotCritical := fun hc => hw hc.isHotWarning
    rw [evaluate_of_calm hcalm, verdict_of_spokenFor (spokenFor_eq_recovery_iff.2 hcalm)]
    cases e.isReady s .recovery <;> cases s.silenced <;> cases l <;>
      simp [since, Feeds, hc, hw, hcalm, forgetWindows]
  · have hc : ¬ s.IsHotCritical := fun hc => hw hc.isHotWarning
    rw [evaluate_of_idle hon hw hcalm]
    cases l <;> simp [since, Feeds, hc, hw, hcalm, forgetWindows]

/-- The level after a reading. A warning raises the level from rest, and from
everything but a critical level if it is sent. -/
theorem active_evaluate (e : Evaluator) (s : Sample) (hon : s.config.enabled = true) :
    (e.evaluate s).2.active =
      match e.verdict s with
      | some .critical => .critical
      | some .recovery => .none
      | some .warning =>
        if e.active = .none ∨ (s.silenced = false ∧ e.active ≠ .critical) then .warning
        else e.active
      | _ => e.active := by
  rcases zone_cases e s with hoff | hc | ⟨hw, hc⟩ | hcalm | ⟨-, hw, hcalm⟩
  · simp [hoff] at hon
  -- in each zone the verdict is its own level, if it is ready
  · rw [evaluate_of_critical hc, verdict_of_spokenFor (spokenFor_eq_critical_iff.2 hc)]
    cases e.isReady s .critical <;> cases s.silenced <;> rfl
  · rw [evaluate_of_warning hw hc, verdict_of_spokenFor (spokenFor_eq_warning_iff.2 ⟨hw, hc⟩)]
    cases e.isReady s .warning <;> cases s.silenced <;> cases e.active <;> simp
  · rw [evaluate_of_calm hcalm, verdict_of_spokenFor (spokenFor_eq_recovery_iff.2 hcalm)]
    cases e.isReady s .recovery <;> cases s.silenced <;> rfl
  · rw [evaluate_of_idle hon hw hcalm, verdict_of_idle hw hcalm]
    rfl

end Evaluator

end CpuAlert
