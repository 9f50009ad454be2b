import CpuAlert.Proofs.Evaluator.Levels
import CpuAlert.Proofs.Evaluator.Sendings
import CpuAlert.Proofs.Time.Distance

/-!
# What an evaluator may hold

Not every combination of a level, windows and registers can come about. A reading
lies in one zone, so the window of a recovery excludes the other two, and a
critical window never stands without that of a warning. What is shown of a level
is the same as what its cooldown counts from, and there is nothing of either for
the levels that are never sent.

All of this is brought about by the last reading alone, whatever the evaluator
was before it. Only the order of the two hot windows is inherited, and only if
time does not go back: the warning window is then opened first or together with
the critical one, and closed last.

## Main definitions

* `Evaluator.IsCoherent` — what may be held together
* `Evaluator.IsTimely` — windows that were opened by some time, in their order
* `Evaluator.sendingsOnly` — a fresh evaluator with the last sendings

## Main results

* `Evaluator.IsCoherent.evaluate`, `Evaluator.IsTimely.evaluate` — one reading
* `Evaluator.isCoherent_run`, `Evaluator.isTimely_run` — a run
* `Evaluator.coherent_throughout` — what an evaluator holds after a run
-/

namespace CpuAlert

open Time (Instant)

namespace Evaluator

variable {e : Evaluator} {s : Sample} {l : Level} {ss : List Sample}

/-! ## Levels and registers -/

/-- What an evaluator may hold together. -/
structure IsCoherent (e : Evaluator) : Prop where
  hasOwnLevel : e.HasOwnLevel
  active_of_recovering : e.recoverySince.isSome → e.active ≠ .none
  cool_of_recovering : e.recoverySince.isSome → e.warningSince = none ∧ e.criticalSince = none
  warning_of_critical : e.criticalSince.isSome → e.warningSince.isSome
  unsent : e.sentAt .none = none ∧ e.sentAt .test = none
  shown (l : Level) : e.lastAt l = e.sentAt l

theorem isCoherent_fresh : fresh.IsCoherent where
  hasOwnLevel := hasOwnLevel_fresh
  active_of_recovering := nofun
  cool_of_recovering := nofun
  warning_of_critical := nofun
  unsent := ⟨rfl, rfl⟩
  shown l := by cases l <;> rfl

/-- A window is open after a reading that feeds it, unless that is a recovery. -/
theorem isSome_since_evaluate_iff :
    ((e.evaluate s).2.since l).isSome ↔ e.Feeds s l ∧ e.verdict s ≠ some .recovery := by
  rw [since_evaluate]
  split
  · rename_i hfed
    exact iff_of_true rfl hfed
  · rename_i hfed
    exact iff_of_false Bool.false_ne_true hfed

theorem since_evaluate_eq_none (h : ¬ e.Feeds s l) : (e.evaluate s).2.since l = none := by
  rw [since_evaluate, if_neg fun hfed => h hfed.1]

/-- No reading speaks for rest or for a test. -/
theorem verdict_ne_of_not_feeds (h : ¬ e.Feeds s l) : e.verdict s ≠ some l :=
  fun hverdict => h (feeds_of_spokenFor (verdict_eq_some_iff.mp hverdict).1)

/-- A calm reading that is no recovery leaves the level as it is. -/
theorem IsCalm.active_evaluate_eq (hcalm : e.IsCalm s) (h : e.verdict s ≠ some .recovery) :
    (e.evaluate s).2.active = e.active := by
  have hspoken := spokenFor_eq_recovery_iff.mpr hcalm
  have hnone : e.verdict s = none := by
    rw [verdict_of_spokenFor hspoken] at h ⊢
    split at h
    · exact absurd rfl h
    · rename_i hready
      rw [if_neg hready]
  rw [active_evaluate e s hcalm.1, hnone]

/-- Whatever an evaluator held, it is coherent after a reading, as far as its level
and its registers were so before. -/
theorem IsCoherent.evaluate (h : e.IsCoherent) (s : Sample) : (e.evaluate s).2.IsCoherent where
  hasOwnLevel := h.hasOwnLevel.evaluate s
  active_of_recovering hopen := by
    obtain ⟨hcalm, hverdict⟩ := isSome_since_evaluate_iff (l := .recovery).mp hopen
    rw [IsCalm.active_evaluate_eq hcalm hverdict]
    exact hcalm.2.2.2.2
  cool_of_recovering hopen := by
    obtain ⟨hcalm, -⟩ := isSome_since_evaluate_iff (l := .recovery).mp hopen
    have hwarning : ¬ s.IsHotWarning := IsCalm.not_isHotWarning hcalm
    have hcritical : ¬ s.IsHotCritical := fun hcritical => hwarning hcritical.isHotWarning
    exact ⟨since_evaluate_eq_none (l := .warning) hwarning,
      since_evaluate_eq_none (l := .critical) hcritical⟩
  warning_of_critical hopen := by
    obtain ⟨hcritical, hverdict⟩ := isSome_since_evaluate_iff (l := .critical).mp hopen
    have hcritical : s.IsHotCritical := hcritical
    exact isSome_since_evaluate_iff (l := .warning).mpr ⟨hcritical.isHotWarning, hverdict⟩
  unsent := by
    obtain ⟨hnone, htest⟩ := h.unsent
    rw [sentAt_evaluate, if_neg fun hsent => verdict_ne_of_not_feeds id hsent.2, sentAt_evaluate,
      if_neg fun hsent => verdict_ne_of_not_feeds id hsent.2]
    exact ⟨hnone, htest⟩
  shown l := by rw [lastAt_evaluate, sentAt_evaluate, h.shown l]

/-- Runs lead to coherent evaluators only. -/
theorem isCoherent_run (ss : List Sample) : (fresh.run ss).2.IsCoherent := by
  induction ss using List.reverseRecOn with
  | nil => exact isCoherent_fresh
  | append_singleton ss s ih =>
    rw [run_append_singleton_snd]
    exact ih.evaluate s

/-! ## Alerting switched off -/

/-- A fresh evaluator, but for the last sendings. -/
def sendingsOnly (e : Evaluator) : Evaluator :=
  { fresh with
    sentAt := e.sentAt
    lastWarningAt := e.lastWarningAt
    lastCriticalAt := e.lastCriticalAt
    lastRecoveryAt := e.lastRecoveryAt }

/-- Where alerting is switched off, the last sendings are all that is left. -/
theorem evaluate_eq_sendingsOnly (hoff : s.config.enabled = false) :
    (e.evaluate s).2 = e.sendingsOnly := by
  rw [evaluate_of_disabled hoff]
  rfl

theorem run_eq_sendingsOnly (hoff : s.config.enabled = false) :
    (fresh.run (ss ++ [s])).2 = (fresh.run (ss ++ [s])).2.sendingsOnly := by
  rw [run_append_singleton_snd, evaluate_eq_sendingsOnly hoff]
  rfl

/-! ## Time that does not go back -/

/-- All windows were opened by some time, and that of a warning no later than that
of a critical level. -/
structure IsTimely (e : Evaluator) (now : Instant) : Prop where
  since_le (l : Level) : ∀ t ∈ e.since l, t ≤ now
  warning_le_critical : ∀ w ∈ e.warningSince, ∀ c ∈ e.criticalSince, w ≤ c

theorem isTimely_fresh (now : Instant) : fresh.IsTimely now where
  since_le l t ht := by cases l <;> exact absurd ht (Option.not_mem_none t)
  warning_le_critical w hw := absurd hw (Option.not_mem_none w)

/-- A window that a reading finds, or opens, was opened by then. -/
theorem IsTimely.getD_le {before : Instant} (h : e.IsTimely before) (hle : before ≤ s.time)
    (l : Level) : (e.since l).getD s.time ≤ s.time := by
  cases hopen : e.since l with
  | none => exact Instant.le_refl _
  | some t => exact Instant.le_trans (h.since_le l t hopen) hle

/-- A reading that is not earlier keeps the windows timely. -/
theorem IsTimely.evaluate {before : Instant} (h : e.IsTimely before) (hcoherent : e.IsCoherent)
    (hle : before ≤ s.time) : (e.evaluate s).2.IsTimely s.time where
  since_le l t ht := by
    rw [since_evaluate] at ht
    split at ht
    · exact Option.some.inj ht ▸ h.getD_le hle l
    · cases ht
  warning_le_critical w hw c hc := by
    have hw : (e.evaluate s).2.since .warning = some w := hw
    have hc : (e.evaluate s).2.since .critical = some c := hc
    rw [since_evaluate] at hw hc
    split at hw
    · split at hc
      · obtain rfl := Option.some.inj hw
        obtain rfl := Option.some.inj hc
        cases hcritical : e.since .critical with
        | none => exact h.getD_le hle .warning
        | some c =>
          -- a critical window that was open before came after that of a warning
          obtain ⟨w, hwarning⟩ := Option.isSome_iff_exists.mp
            (hcoherent.warning_of_critical (Option.isSome_iff_exists.mpr ⟨c, hcritical⟩))
          have hwarning' : e.since .warning = some w := hwarning
          rw [hwarning', Option.getD_some, Option.getD_some]
          exact h.warning_le_critical w hwarning c hcritical
      · cases hc
    · cases hw

/-- In a run whose times never decrease the windows are timely after the last
reading. -/
theorem isTimely_run (hsorted : (ss ++ [s]).Pairwise (·.time ≤ ·.time)) :
    (fresh.run (ss ++ [s])).2.IsTimely s.time := by
  induction ss using List.reverseRecOn generalizing s with
  | nil => exact (isTimely_fresh s.time).evaluate isCoherent_fresh (Instant.le_refl _)
  | append_singleton ss s' ih =>
    obtain ⟨hbefore, -, hlast⟩ := List.pairwise_append.mp hsorted
    have hle : s'.time ≤ s.time :=
      hlast s' (List.mem_append_right _ (List.mem_singleton.mpr rfl)) s (List.mem_singleton.mpr rfl)
    rw [run_append_singleton_snd]
    exact (ih hbefore).evaluate (isCoherent_run _) hle

/-! ## All together -/

/-- **What an evaluator holds.** After any run the level is rest, warning or
critical; the window of a recovery is open only while a level is active and no
other window is, and that of a critical level only beside that of a warning; and
what was last sent of a level, which is the same as what is shown of it, is the
time of its latest trigger, with nothing for rest and tests. If the last reading
found alerting switched off, the evaluator is a fresh one but for that. If the
times of the run never decrease, no window was opened after the last reading, and
the warning window not after the critical one. -/
theorem coherent_throughout (ss : List Sample) :
    let e := (fresh.run ss).2
    ((e.active = .none ∨ e.active = .warning ∨ e.active = .critical) ∧
      (e.recoverySince.isSome →
        e.active ≠ .none ∧ e.warningSince = none ∧ e.criticalSince = none) ∧
      (e.criticalSince.isSome → e.warningSince.isSome)) ∧
    (e.sentAt .none = none ∧ e.sentAt .test = none ∧
      e.lastWarningAt = e.sentAt .warning ∧ e.lastCriticalAt = e.sentAt .critical ∧
      e.lastRecoveryAt = e.sentAt .recovery ∧
      ∀ l, e.sentAt l = (sendings l ss).getLast?) ∧
    ∀ s ∈ ss.getLast?,
      (s.config.enabled = false → e = e.sendingsOnly) ∧
      (ss.Pairwise (·.time ≤ ·.time) →
        (∀ t ∈ e.warningSince, t ≤ s.time) ∧ (∀ t ∈ e.criticalSince, t ≤ s.time) ∧
          (∀ t ∈ e.recoverySince, t ≤ s.time) ∧
          ∀ w ∈ e.warningSince, ∀ c ∈ e.criticalSince, w ≤ c) := by
  intro e
  have h : e.IsCoherent := isCoherent_run ss
  refine ⟨⟨h.hasOwnLevel, fun hopen => ⟨h.active_of_recovering hopen, h.cool_of_recovering hopen⟩,
      h.warning_of_critical⟩,
    ⟨h.unsent.1, h.unsent.2, h.shown .warning, h.shown .critical, h.shown .recovery,
      fun l => sentAt_run l ss⟩, fun s hs => ?_⟩
  obtain ⟨before, rfl⟩ := List.getLast?_eq_some_iff.mp hs
  refine ⟨run_eq_sendingsOnly, fun hsorted => ?_⟩
  have htimely : e.IsTimely s.time := isTimely_run hsorted
  exact ⟨htimely.since_le .warning, htimely.since_le .critical, htimely.since_le .recovery,
    htimely.warning_le_critical⟩

/-- A reading so many seconds after the epoch, under a configuration with short
windows. -/
def secondsIn (n : Int) (cpuPercent : Float) (enabled : Bool) : Sample where
  time := (Instant.epoch.shift? n).getD .epoch
  cpuPercent := cpuPercent
  config := { enabled, warningWindow := 5, criticalWindow := 5, recoveryWindow := 5, cooldown := 0 }
  silenced := false

/-- Two warnings and two critical readings. -/
def climb : List Sample :=
  [secondsIn 0 80 true, secondsIn 10 80 true, secondsIn 20 90 true, secondsIn 30 90 true]

/-- The climb, and a calm reading. -/
def descent : List Sample := climb ++ [secondsIn 40 10 true]

/-- The climb, and a critical reading with alerting switched off. -/
def blackout : List Sample := climb ++ [secondsIn 40 90 false]

/-- The windows of the climb were opened at its first and at its third reading. A
calm reading closes both and opens that of the recovery, and where alerting is
switched off none is left, but the triggers before are not forgotten. -/
theorem coherent_throughout_climb :
    (climb.Pairwise (·.time ≤ ·.time) ∧
      (fresh.run climb).2.warningSince = some (secondsIn 0 80 true).time ∧
      (fresh.run climb).2.criticalSince = some (secondsIn 20 90 true).time ∧
      (secondsIn 0 80 true).time ≤ (secondsIn 20 90 true).time) ∧
    ((fresh.run descent).2.recoverySince.isSome ∧ (fresh.run descent).2.active ≠ .none ∧
      (fresh.run descent).2.warningSince = none ∧ (fresh.run descent).2.criticalSince = none) ∧
    ((fresh.run blackout).2 = (fresh.run blackout).2.sendingsOnly ∧
      (fresh.run blackout).2.lastCriticalAt = some (secondsIn 30 90 true).time) := by
  have hsorted : climb.Pairwise (·.time ≤ ·.time) := by decide
  have hwarning : (fresh.run climb).2.warningSince = some (secondsIn 0 80 true).time := by decide
  have hcritical : (fresh.run climb).2.criticalSince = some (secondsIn 20 90 true).time := by decide
  have hopen : (fresh.run descent).2.recoverySince.isSome := by decide
  obtain ⟨-, -, htimes⟩ := coherent_throughout climb
  obtain ⟨-, -, -, hle⟩ := (htimes (secondsIn 30 90 true) rfl).2 hsorted
  obtain ⟨⟨-, hrecovery, -⟩, -⟩ := coherent_throughout descent
  obtain ⟨-, -, hlast⟩ := coherent_throughout blackout
  exact ⟨⟨hsorted, hwarning, hcritical, hle _ hwarning _ hcritical⟩, ⟨hopen, hrecovery hopen⟩,
    (hlast (secondsIn 40 90 false) rfl).1 rfl, by decide⟩

end Evaluator

end CpuAlert
