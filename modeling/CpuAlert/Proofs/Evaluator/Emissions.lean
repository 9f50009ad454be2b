import CpuAlert.Proofs.Config.Usable
import CpuAlert.Proofs.Evaluator.Verdict

/-!
# What a run emits

A trigger carries the load of its reading, and a reading is notified only if its
load compares with a threshold. So the load of a trigger is a number, whatever
the readings and the thresholds are.

## Main definitions

* `Evaluator.emissions` — the triggers of a run, with the times of their readings

## Main results

* `Evaluator.emissions_eq_flatMap` — the same by readings
* `Evaluator.of_mem_emissions` — a trigger is no test and has a number for its load
* `Evaluator.emissions_increasing` — triggers come in the order of time
-/

namespace CpuAlert

open Time (Instant)

namespace Evaluator

variable {e : Evaluator} {s : Sample} {l : Level}

/-- A reading that feeds a window has a number for its load. -/
theorem Feeds.isNaN_eq_false (h : e.Feeds s l) : s.cpuPercent.isNaN = false := by
  cases l with
  | warning => exact h.2.elim isNaN_eq_false_of_ge isNaN_eq_false_of_ge
  | critical => exact isNaN_eq_false_of_ge h.2
  | recovery => exact isNaN_eq_false_of_lt h.2.2.2.1
  | none | test => exact h.elim

/-- A trigger is for a level whose window the reading feeds, and carries its
load. -/
theorem feeds_of_mem_evaluate {t : Trigger} (h : t ∈ (e.evaluate s).1) :
    e.Feeds s t.level ∧ t.cpuPercent = s.cpuPercent := by
  rw [evaluate_fst] at h
  split at h
  · cases h
  · obtain ⟨l, hl, rfl⟩ := List.mem_map.mp h
    obtain ⟨hspoken, -⟩ := Option.filter_eq_some_iff.mp (Option.mem_toList.mp hl)
    exact ⟨feeds_of_spokenFor hspoken, rfl⟩

/-- The triggers of a run, each with the time of its reading. -/
def emissions (e : Evaluator) : List Sample → List (Trigger × Instant)
  | [] => []
  | s :: ss => (e.evaluate s).1.map (·, s.time) ++ emissions (e.evaluate s).2 ss

theorem emissions_eq_flatMap (e : Evaluator) (ss : List Sample) :
    e.emissions ss = ((e.run ss).1.zip ss).flatMap fun x => x.1.map (·, x.2.time) := by
  induction ss generalizing e with
  | nil => rfl
  | cons s ss ih => rw [emissions, ih, run, List.zip_cons_cons, List.flatMap_cons]

/-- A reading emits one trigger at most. -/
theorem length_evaluate_le (e : Evaluator) (s : Sample) : (e.evaluate s).1.length ≤ 1 := by
  rw [evaluate_fst]
  split
  · exact Nat.zero_le 1
  · rw [List.length_map]
    cases e.verdict s <;> simp

/-- What is emitted has the time of a reading. -/
theorem time_of_mem_emissions {e : Evaluator} {ss : List Sample} {x : Trigger × Instant}
    (h : x ∈ e.emissions ss) : ∃ s ∈ ss, s.time = x.2 := by
  induction ss generalizing e with
  | nil => cases h
  | cons s ss ih =>
    rcases List.mem_append.mp h with h | h
    · obtain ⟨t, -, rfl⟩ := List.mem_map.mp h
      exact ⟨s, List.mem_cons_self, rfl⟩
    · obtain ⟨s', hs', htime⟩ := ih h
      exact ⟨s', List.mem_cons_of_mem s hs', htime⟩

/-- Readings in the order of time have triggers in the order of time, no two of one
time. -/
theorem emissions_increasing {e : Evaluator} {ss : List Sample}
    (h : ss.Pairwise (·.time < ·.time)) : (e.emissions ss).Pairwise (·.2 < ·.2) := by
  induction ss generalizing e with
  | nil => exact .nil
  | cons s ss ih =>
    obtain ⟨hfirst, hrest⟩ := List.pairwise_cons.mp h
    rw [emissions, List.pairwise_append]
    refine ⟨?_, ih hrest, ?_⟩
    · have hone := e.length_evaluate_le s
      match (e.evaluate s).1, hone with
      | [], _ => exact .nil
      | [t], _ => exact List.pairwise_singleton ..
    · intro x hx y hy
      obtain ⟨t, -, rfl⟩ := List.mem_map.mp hx
      obtain ⟨s', hs', htime⟩ := time_of_mem_emissions hy
      exact htime ▸ hfirst s' hs'

/-- Tests are not emitted, and what is emitted has a number for its load. -/
theorem of_mem_emissions {e : Evaluator} {ss : List Sample} {x : Trigger × Instant}
    (h : x ∈ e.emissions ss) : x.1.level ≠ .test ∧ x.1.cpuPercent.isNaN = false := by
  induction ss generalizing e with
  | nil => cases h
  | cons s ss ih =>
    rcases List.mem_append.mp h with h | h
    · obtain ⟨t, ht, rfl⟩ := List.mem_map.mp h
      obtain ⟨hfeeds, hload⟩ := feeds_of_mem_evaluate ht
      refine ⟨fun htest => ?_, hload ▸ hfeeds.isNaN_eq_false⟩
      have htest : t.level = .test := htest
      rw [htest] at hfeeds
      exact hfeeds
    · exact ih h

end Evaluator

end CpuAlert
