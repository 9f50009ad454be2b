import Mathlib.Order.Fin.Basic
import CpuAlert.Proofs.Evaluator.Verdict

/-!
# Runs, place by place

A law about a run speaks of its places: the evaluator just before a place, the
triggers that come out there, the block of like readings that ends there, and
the last time something happened before. This file ties what the evaluator
stores to these: the start of a window is the time of the first reading of the
block that feeds it, and the time of a sending is that of the latest trigger.

## Main definitions

* `Evaluator.after` — the evaluator after the first readings of a run
* `Evaluator.Emits` — a trigger of a level comes out at a place
* `IsBlockStart` — the first place of an unbroken block
* `IsLatest` — the last place before another at which something happened

## Main results

* `Evaluator.emits_iff` — the triggers of a run are the verdicts of its places
* `Evaluator.exists_blockStart` — what the start of a window is
* `Evaluator.sentAt_after` — what the time of a sending is
-/

namespace CpuAlert

open Time (Instant)

/-! ## Places of a run -/

section Places

variable {len : Nat}

/-- The place `i` is the first of the unbroken block of places with `P` that
ends at `n`. -/
structure IsBlockStart (P : Fin len → Prop) (i n : Fin len) : Prop where
  le : i ≤ n
  unbroken : ∀ j, i ≤ j → j ≤ n → P j
  first : ∀ j : Fin len, j.val + 1 = i.val → ¬ P j

/-- The place `j` is the last before `n` with `P`. -/
structure IsLatest (P : Fin len → Prop) (j n : Fin len) : Prop where
  lt : j < n
  holds : P j
  last : ∀ k, j < k → k < n → ¬ P k

variable {P : Fin len → Prop} {i j n : Fin len}

/-- A block of one place. -/
theorem isBlockStart_self (hn : P n) (hfirst : ∀ j : Fin len, j.val + 1 = n.val → ¬ P j) :
    IsBlockStart P n n where
  le := le_refl n
  unbroken _ hle hge := le_antisymm hge hle ▸ hn
  first := hfirst

/-- A block that goes on. -/
theorem IsBlockStart.extend (h : IsBlockStart P i j) (hnext : j.val + 1 = n.val) (hn : P n) :
    IsBlockStart P i n where
  le := h.le.trans (by rw [Fin.le_def]; omega)
  unbroken k hik hkn := by
    by_cases hkj : k ≤ j
    · exact h.unbroken k hik hkj
    · have hk : k = n := by
        rw [Fin.le_def] at hkn hkj
        exact Fin.ext (by omega)
      exact hk ▸ hn
  first := h.first

/-- A place lies in at most one block. -/
theorem IsBlockStart.unique (h : IsBlockStart P i n) (h' : IsBlockStart P j n) : i = j := by
  -- the later of two starts would follow a place of the block of the other
  have hle : ∀ {i j : Fin len}, IsBlockStart P i n → IsBlockStart P j n → ¬ i < j := by
    intro i j hi hj hlt
    let k : Fin len := ⟨j - 1, by omega⟩
    have hk : k.val + 1 = j.val := by simp only [k]; rw [Fin.lt_def] at hlt; omega
    refine hj.first k hk (hi.unbroken k ?_ ?_)
    · rw [Fin.lt_def] at hlt
      rw [Fin.le_def]
      omega
    · have hjn := hj.le
      rw [Fin.le_def] at hjn ⊢
      omega
  rcases lt_trichotomy i j with hlt | heq | hgt
  · exact absurd hlt (hle h h')
  · exact heq
  · exact absurd hgt (hle h' h)

theorem IsLatest.unique (h : IsLatest P i n) (h' : IsLatest P j n) : i = j := by
  rcases lt_trichotomy i j with hlt | heq | hgt
  · exact absurd h'.holds (h.last j hlt h'.lt)
  · exact heq
  · exact absurd h.holds (h'.last i hgt h.lt)

/-- A register that is opened by the first place of a block, kept within it and
cleared outside holds the time at which the block began. The place after a
cleared one is allowed to lie outside any block. -/
theorem IsBlockStart.exists_of_register (time : Fin len → Instant) (register : Nat → Option Instant)
    (hzero : register 0 = none)
    (hclear : ∀ j : Fin len, ¬ P j → register (j + 1) = none)
    (hkeep : ∀ j n : Fin len, j.val + 1 = n.val → P j → P n →
      register n = some ((register j).getD (time j)))
    (hn : P n) : ∃ i, IsBlockStart P i n ∧ (register n).getD (time n) = time i := by
  -- along the places: a block either goes on or begins here
  obtain ⟨n, hlt⟩ := n
  induction n with
  | zero =>
    refine ⟨⟨0, hlt⟩, isBlockStart_self hn ?_, ?_⟩
    · intro j hj
      exact absurd hj (Nat.succ_ne_zero _)
    · simp [hzero]
  | succ n ih =>
    let j : Fin len := ⟨n, by omega⟩
    have hnext : j.val + 1 = n + 1 := rfl
    by_cases hj : P j
    · obtain ⟨i, hblock, hstart⟩ := ih j.isLt hj
      refine ⟨i, hblock.extend hnext hn, ?_⟩
      rw [hkeep j ⟨n + 1, hlt⟩ hnext hj hn, Option.getD_some, hstart]
    · refine ⟨⟨n + 1, hlt⟩, isBlockStart_self hn ?_, ?_⟩
      · intro k hk
        have hkj : k = j := Fin.ext (by simpa [j] using hk)
        exact hkj ▸ hj
      · have hnone : register (n + 1) = none := hclear j hj
        simp [hnone]

/-- A register that is written at the places with `P` and otherwise left alone
holds the time of the latest of them. -/
theorem IsLatest.of_register (time : Fin len → Instant) (register : Nat → Option Instant)
    (hzero : register 0 = none)
    (hwrite : ∀ j : Fin len, P j → register (j + 1) = some (time j))
    (hkeep : ∀ j : Fin len, ¬ P j → register (j + 1) = register j) (n : Fin len) {t : Instant} :
    register n = some t ↔ ∃ j, IsLatest P j n ∧ time j = t := by
  -- along the places: the one before is the latest, or does not count
  obtain ⟨n, hlt⟩ := n
  induction n with
  | zero =>
    simp only [hzero, reduceCtorEq, false_iff, not_exists, not_and]
    intro j hj
    exact absurd hj.lt (Nat.not_lt_zero _)
  | succ n ih =>
    let j : Fin len := ⟨n, by omega⟩
    have hj1 : j < ⟨n + 1, hlt⟩ := Nat.lt_succ_self n
    by_cases hj : P j
    · have hlatest : IsLatest P j ⟨n + 1, hlt⟩ := by
        refine ⟨hj1, hj, fun k hjk hkn => ?_⟩
        simp only [j, Fin.lt_def] at hjk hkn
        omega
      have hregister : register (n + 1) = some (time j) := hwrite j hj
      rw [hregister, Option.some.injEq]
      constructor
      · exact fun h => ⟨j, hlatest, h⟩
      · rintro ⟨i, hi, ht⟩
        rwa [hi.unique hlatest] at ht
    · have hregister : register (n + 1) = register n := hkeep j hj
      rw [hregister, ih j.isLt]
      refine exists_congr fun i => and_congr_left fun _ => ?_
      constructor
      · intro h
        refine ⟨h.lt.trans hj1, h.holds, fun k hik hkn => ?_⟩
        by_cases hkj : k = j
        · exact hkj ▸ hj
        · refine h.last k hik (lt_of_le_of_ne (Nat.le_of_lt_succ hkn) hkj)
      · intro h
        refine ⟨lt_of_le_of_ne (Nat.le_of_lt_succ h.lt) ?_, h.holds, fun k hik hkj =>
          h.last k hik (lt_trans hkj hj1)⟩
        intro heq
        exact hj ((show i = j from heq) ▸ h.holds)

end Places

/-! ## Runs from the beginning -/

namespace Evaluator

theorem run_append (e : Evaluator) (ss ts : List Sample) :
    e.run (ss ++ ts) =
      ((e.run ss).1 ++ ((e.run ss).2.run ts).1, ((e.run ss).2.run ts).2) := by
  induction ss generalizing e with
  | nil => rfl
  | cons s ss ih => simp only [List.cons_append, run, ih]

theorem length_run_fst (e : Evaluator) (ss : List Sample) : (e.run ss).1.length = ss.length := by
  induction ss generalizing e with
  | nil => rfl
  | cons s ss ih => simp only [run, List.length_cons, ih]

/-- The evaluator after the first `n` readings of a run from the beginning. -/
def after (ss : List Sample) (n : Nat) : Evaluator := (fresh.run (ss.take n)).2

/-- A trigger of the level comes out at the place `n` of a run from the
beginning. -/
def Emits (ss : List Sample) (n : Fin ss.length) (l : Level) : Prop :=
  ∃ ts, (fresh.run ss).1[n.val]? = some ts ∧ ∃ t ∈ ts, t.level = l

variable {ss : List Sample}

theorem after_succ (n : Fin ss.length) :
    after ss (n + 1) = ((after ss n).evaluate (ss.get n)).2 := by
  have htake : ss.take (n + 1) = ss.take n ++ [ss.get n] := by simp
  rw [after, htake, run_append]
  rfl

theorem run_fst_getElem? (n : Fin ss.length) :
    (fresh.run ss).1[n.val]? = some ((after ss n).evaluate (ss.get n)).1 := by
  have hsplit : ss.take n ++ ss.get n :: ss.drop (n + 1) = ss := by simp
  have hlength : (fresh.run (ss.take n)).1.length = n := by
    rw [length_run_fst, List.length_take]
    exact Nat.min_eq_left n.isLt.le
  have hrun := run_append fresh (ss.take n) (ss.get n :: ss.drop (n + 1))
  rw [hsplit] at hrun
  rw [hrun, List.getElem?_append_right hlength.le, hlength, Nat.sub_self]
  rfl

/-- A level comes out at a place exactly if it is the verdict there and not
silenced. -/
theorem emits_iff {n : Fin ss.length} {l : Level} :
    Emits ss n l ↔ (ss.get n).silenced = false ∧ (after ss n).verdict (ss.get n) = some l := by
  unfold Emits
  rw [run_fst_getElem?, evaluate_fst]
  cases (ss.get n).silenced <;> simp

/-! ## What the evaluator stores -/

/-- The place `j` of a run feeds the window of a level. -/
def FeedsAt (ss : List Sample) (l : Level) (j : Fin ss.length) : Prop :=
  (after ss j).Feeds (ss.get j) l

/-- A reading is not calm right after a recovery, since there is no level. -/
theorem not_feeds_of_verdict {e : Evaluator} {s s' : Sample} {l : Level} (hfeeds : e.Feeds s l)
    (h : e.verdict s = some .recovery) : ¬ (e.evaluate s).2.Feeds s' l := by
  have hcalm : e.IsCalm s := spokenFor_eq_recovery_iff.1 (verdict_eq_some_iff.1 h).1
  cases l with
  | warning => exact absurd hfeeds hcalm.not_isHotWarning
  | critical => exact absurd hfeeds.isHotWarning hcalm.not_isHotWarning
  | recovery =>
    intro hnext
    refine hnext.2.2.2.2 ?_
    rw [active_evaluate e s hcalm.1, h]
  | none => exact absurd hfeeds id
  | test => exact absurd hfeeds id

/-- The window that a reading finds, or opens, began at the first reading of the
block that feeds it. -/
theorem exists_blockStart {l : Level} {n : Fin ss.length} (hn : FeedsAt ss l n) :
    ∃ i, IsBlockStart (FeedsAt ss l) i n ∧
      ((after ss n).since l).getD (ss.get n).time = (ss.get i).time := by
  refine IsBlockStart.exists_of_register (fun j => (ss.get j).time) (fun j => (after ss j).since l)
    ?_ ?_ ?_ hn
  · cases l <;> rfl
  · intro j hj
    rw [after_succ, since_evaluate, if_neg fun h => hj h.1]
  · intro j n hnext hj hn
    unfold FeedsAt at hj hn
    rw [← hnext, after_succ] at hn ⊢
    rw [since_evaluate, if_pos]
    exact ⟨hj, fun hverdict => not_feeds_of_verdict hj hverdict hn⟩

/-- The time of a sending is that of the latest trigger of the level. -/
theorem sentAt_after {l : Level} {n : Fin ss.length} {t : Instant} :
    (after ss n).sentAt l = some t ↔
      ∃ j, IsLatest (Emits ss · l) j n ∧ (ss.get j).time = t := by
  refine IsLatest.of_register (fun j => (ss.get j).time) (fun j => (after ss j).sentAt l) rfl
    ?_ ?_ n
  · intro j hj
    rw [after_succ, sentAt_evaluate, if_pos (emits_iff.1 hj)]
  · intro j hj
    rw [after_succ, sentAt_evaluate, if_neg fun h => hj (emits_iff.2 h)]

end Evaluator

end CpuAlert
