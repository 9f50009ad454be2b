import Mathlib.Data.List.Induction
import CpuAlert.Proofs.Evaluator.Run

/-!
# The notifications of a run in order

A run tells for every reading which triggers come out. Read level by level, that
is a list of times, and the evaluator stores the last of them twice: once for the
cooldown and once to be shown.

## Main definitions

* `Evaluator.sendings` — the times at which a level comes out of a run

## Main results

* `Evaluator.sendings_append` — one more reading
* `Evaluator.sentAt_run`, `Evaluator.lastAt_run` — what is stored is the last
-/

namespace CpuAlert.Evaluator

open Time (Instant)

/-- The times of the triggers of a level in a run from the beginning, in the
order in which they come out. -/
def sendings (l : Level) (ss : List Sample) : List Instant :=
  (ss.zip (fresh.run ss).1).flatMap fun (s, ts) => (ts.filter (·.level = l)).map fun _ => s.time

variable {l : Level} {ss : List Sample} {s : Sample}

/-- The evaluator after one more reading. -/
theorem run_append_singleton_snd (e : Evaluator) (ss : List Sample) (s : Sample) :
    (e.run (ss ++ [s])).2 = ((e.run ss).2.evaluate s).2 := by
  rw [run_append]
  rfl

/-- One more reading sends the level if that is its verdict and it is not
silenced. -/
theorem sendings_append (l : Level) (ss : List Sample) (s : Sample) :
    sendings l (ss ++ [s]) = sendings l ss ++
      if s.silenced = false ∧ (fresh.run ss).2.verdict s = some l then [s.time] else [] := by
  have hlength : ss.length = (fresh.run ss).1.length := (length_run_fst fresh ss).symm
  have hlast : ((fresh.run ss).2.run [s]).1 = [((fresh.run ss).2.evaluate s).1] := rfl
  simp only [sendings, run_append, hlast, List.zip_append hlength, List.flatMap_append,
    List.zip_cons_cons, List.zip_nil_right, List.flatMap_singleton, evaluate_fst]
  congr 1
  cases s.silenced with
  | true => rfl
  | false =>
    cases (fresh.run ss).2.verdict s with
    | none => rfl
    | some l' =>
      by_cases hl : l' = l
      · simp [hl]
      · simp [hl]

/-- What the cooldown counts from is the last sending. -/
theorem sentAt_run (l : Level) (ss : List Sample) :
    (fresh.run ss).2.sentAt l = (sendings l ss).getLast? := by
  induction ss using List.reverseRecOn with
  | nil => rfl
  | append_singleton ss s ih =>
    rw [run_append_singleton_snd, sentAt_evaluate, sendings_append]
    split
    · rw [List.getLast?_concat]
    · rw [List.append_nil, ih]

/-- What is shown of a level is its last sending. -/
theorem lastAt_run (l : Level) (ss : List Sample) :
    (fresh.run ss).2.lastAt l = (sendings l ss).getLast? := by
  induction ss using List.reverseRecOn with
  | nil => cases l <;> rfl
  | append_singleton ss s ih =>
    rw [run_append_singleton_snd, lastAt_evaluate, sendings_append]
    split
    · rw [List.getLast?_concat]
    · rw [List.append_nil, ih]

end CpuAlert.Evaluator
