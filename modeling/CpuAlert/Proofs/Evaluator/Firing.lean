import CpuAlert.Proofs.Evaluator.Run

/-!
# When notifications come out of a run

The evaluator keeps three windows and a time for each level; what it does is
told here without them. A level is notified at a reading that speaks for it, if
the unbroken block of readings that feed its window and end there has lasted
long enough, and the latest trigger of the level, if there was one, is long
enough ago. Configuration and silence may change from reading to reading, and
times may run backwards.

## Main definitions

* `Evaluator.HasDwelt` — the block that ends at a place has lasted
* `Evaluator.HasCooledDown` — the latest trigger of a level is long enough ago
* `Evaluator.Recovers` — an active level ends at a place

## Main results

* `Evaluator.emits_critical_iff_and_emits_warning_iff` — the firing law of the
  two alert levels
* `Evaluator.recovers_iff_and_emits_recovery_iff` — the recovery law
-/

namespace CpuAlert.Evaluator

open Time (Instant)

variable {ss : List Sample}

/-- The unbroken block of places with `P` that ends at `n` began at least
`required` seconds before `n`. -/
def HasDwelt (ss : List Sample) (P : Fin ss.length → Prop) (n : Fin ss.length) (required : Int) :
    Prop :=
  ∃ i, IsBlockStart P i n ∧ Instant.Elapsed (ss.get i).time (ss.get n).time required

/-- The latest trigger of the level before `n`, if there was any, came out at
least a cooldown ago. -/
def HasCooledDown (ss : List Sample) (n : Fin ss.length) (l : Level) : Prop :=
  ∀ j, IsLatest (Emits ss · l) j n →
    Instant.Elapsed (ss.get j).time (ss.get n).time (ss.get n).config.cooldown

/-- At the place `n` of a run, with alerting switched on, the level goes from an
active one to none. -/
def Recovers (ss : List Sample) (n : Fin ss.length) : Prop :=
  (ss.get n).config.enabled = true ∧ (after ss n).active ≠ .none ∧ (after ss (n + 1)).active = .none

/-- The window that a reading finds has lasted exactly if its block has. -/
theorem elapsed_since_iff {l : Level} {n : Fin ss.length} (hn : FeedsAt ss l n) (required : Int) :
    Instant.Elapsed (((after ss n).since l).getD (ss.get n).time) (ss.get n).time required ↔
      HasDwelt ss (FeedsAt ss l) n required := by
  obtain ⟨i, hblock, hstart⟩ := exists_blockStart hn
  rw [hstart]
  constructor
  · exact fun h => ⟨i, hblock, h⟩
  · rintro ⟨j, hj, h⟩
    rwa [hblock.unique hj]

/-- The cooldown that the evaluator checks is that since the latest trigger. -/
theorem elapsed_sentAt_iff {l : Level} {n : Fin ss.length} :
    (∀ last ∈ (after ss n).sentAt l,
      Instant.Elapsed last (ss.get n).time (ss.get n).config.cooldown) ↔ HasCooledDown ss n l := by
  constructor
  · intro h j hj
    exact h _ (sentAt_after.2 ⟨j, hj, rfl⟩)
  · intro h last hlast
    obtain ⟨j, hj, rfl⟩ := sentAt_after.1 hlast
    exact h j hj

/-- The verdict on a reading of a run, told by its history. -/
theorem verdict_after_iff {l : Level} {n : Fin ss.length} :
    (after ss n).verdict (ss.get n) = some l ↔
      (after ss n).spokenFor (ss.get n) = some l ∧
        HasDwelt ss (FeedsAt ss l) n ((ss.get n).config.window l) ∧ HasCooledDown ss n l := by
  rw [verdict_eq_some_iff, elapsed_sentAt_iff]
  refine and_congr_right fun hspoken => and_congr_left fun _ => ?_
  exact elapsed_since_iff (feeds_of_spokenFor hspoken) _

/-- An active level ends exactly by the verdict of a recovery. -/
theorem recovers_iff_verdict {n : Fin ss.length} :
    Recovers ss n ↔ (after ss n).verdict (ss.get n) = some .recovery := by
  constructor
  · rintro ⟨hon, hactive, hnone⟩
    rw [after_succ, active_evaluate _ _ hon] at hnone
    -- no other verdict leads to none, and without one the level stays
    split at hnone
    · cases hnone
    · assumption
    · split at hnone
      · cases hnone
      · exact absurd hnone hactive
    · exact absurd hnone hactive
  · intro h
    have hcalm : (after ss n).IsCalm (ss.get n) :=
      spokenFor_eq_recovery_iff.1 (verdict_eq_some_iff.1 h).1
    refine ⟨hcalm.1, hcalm.2.2.2.2, ?_⟩
    rw [after_succ, active_evaluate _ _ hcalm.1, h]

/-- **Firing law.** A critical trigger comes out exactly at the critical
readings, not silenced, whose unbroken block of critical readings has lasted and
whose latest critical trigger is a cooldown ago. The same holds of warnings at
the readings that are warnings and not critical, where critical readings belong
to the block. -/
theorem emits_critical_iff_and_emits_warning_iff (ss : List Sample) (n : Fin ss.length) :
    (Emits ss n .critical ↔
      (ss.get n).IsHotCritical ∧ (ss.get n).silenced = false ∧
        HasDwelt ss (fun j => (ss.get j).IsHotCritical) n (ss.get n).config.criticalWindow ∧
        HasCooledDown ss n .critical) ∧
    (Emits ss n .warning ↔
      (ss.get n).IsHotWarning ∧ ¬ (ss.get n).IsHotCritical ∧ (ss.get n).silenced = false ∧
        HasDwelt ss (fun j => (ss.get j).IsHotWarning) n (ss.get n).config.warningWindow ∧
        HasCooledDown ss n .warning) := by
  constructor
  · rw [emits_iff, verdict_after_iff, spokenFor_eq_critical_iff]
    exact and_left_comm
  · rw [emits_iff, verdict_after_iff, spokenFor_eq_warning_iff, and_assoc, and_left_comm,
      and_left_comm (b := ¬ _)]
    rfl

/-- **Recovery law.** An active level ends exactly at the calm readings whose
unbroken block of calm readings has lasted and whose latest recovery trigger is
a cooldown ago. The recovery comes out exactly then, unless it is silenced. -/
theorem recovers_iff_and_emits_recovery_iff (ss : List Sample) (n : Fin ss.length) :
    (Recovers ss n ↔
      (after ss n).IsCalm (ss.get n) ∧
        HasDwelt ss (fun j => (after ss j).IsCalm (ss.get j)) n (ss.get n).config.recoveryWindow ∧
        HasCooledDown ss n .recovery) ∧
    (Emits ss n .recovery ↔ Recovers ss n ∧ (ss.get n).silenced = false) := by
  constructor
  · rw [recovers_iff_verdict, verdict_after_iff, spokenFor_eq_recovery_iff]
    rfl
  · rw [emits_iff, recovers_iff_verdict, and_comm]

end CpuAlert.Evaluator
