import Mathlib.Data.List.Chain
import Mathlib.Tactic.Linarith
import CpuAlert.Proofs.Time.Elapsed

/-!
# Instants that keep a distance

A list of instants in which each is at least a distance `d` after the one before
it. The distances add up, and a time span holds only so many of the instants.
Both are exact as long as no instant lies in a leap second, since the time
between two instants is then the distance of their places on the clock. Otherwise
each instant in a leap second may cost one second: a leap second is counted for
one pair of instants and not for another.

## Main definitions

* `Time.Instant.leapsFrom` — how many places of a list lie in leap seconds
* `Time.Instant.inSpan` — an instant lies in a time span
* `Time.Instant.leapsIn` — how many instants of a list lie in a span and in leap
  seconds

## Main results

* `Time.Instant.mul_le_nanosSince` — the distances add up
* `Time.Instant.countP_inSpan_le` — a time span holds only so many
-/

namespace CpuAlert.Time.Instant

/-- How many of the places `j` to `k` of a list lie in a leap second. -/
def leapsFrom (T : List Instant) (j k : Nat) : Nat := ((T.take (k + 1)).drop j).countP (·.IsLeap)

/-- The instant lies between two others, or is one of them. -/
def inSpan (first last t : Instant) : Bool := first ≤ t && t ≤ last

variable {d : Int} {T : List Instant} {first last a b : Instant}

theorem lt_trans {c : Instant} (hab : a < b) (hbc : b < c) : a < c := by
  rw [lt_def] at *
  omega

theorem le_refl (a : Instant) : a ≤ a := .inr ⟨rfl, Nat.le_refl _⟩

theorem le_trans {c : Instant} (hab : a ≤ b) (hbc : b ≤ c) : a ≤ c := by
  rw [le_def] at *
  omega

theorem inSpan_iff {t : Instant} : inSpan first last t = true ↔ first ≤ t ∧ t ≤ last := by
  simp [inSpan]

/-- Neighbours on the clock: a second may be missing from the distance only if
the earlier one lies in a leap second. -/
theorem place_add_le (h : d ≤ b.nanosSince a) :
    a.place + d ≤ b.place + (if a.IsLeap then 1 else 0 : Nat) * nanosPerSecond := by
  rw [nanosSince_eq] at h
  by_cases hleap : a.IsLeap
  · have hone := leapBetween_le b a
    simp only [if_pos hleap, nanosPerSecond] at *
    omega
  · have hzero := leapBetween_nonpos b hleap
    simp only [if_neg hleap, nanosPerSecond] at *
    omega

/-! ## Distances add up -/

theorem leapsFrom_eq_append {j k : Nat} (hjk : j ≤ k) (hk : k < T.length) :
    leapsFrom T j k = ((T.take k).drop j).countP (·.IsLeap) + if T[k].IsLeap then 1 else 0 := by
  have hsplit : (T.take (k + 1)).drop j = (T.take k).drop j ++ [T[k]] := by
    rw [← List.take_append_getElem hk, List.drop_append_of_le_length]
    rw [List.length_take]
    omega
  rw [leapsFrom, hsplit, List.countP_append, List.countP_singleton]
  simp only [decide_eq_true_eq]

theorem place_add_mul_le (hT : T.IsChain fun a b => d ≤ b.nanosSince a) {j k : Nat}
    (hjk : j ≤ k) (hk : k < T.length) :
    T[j].place + (k - j) * d ≤
      T[k].place + (((T.take k).drop j).countP (·.IsLeap) : Nat) * nanosPerSecond := by
  induction k, hjk using Nat.le_induction with
  | base => simp
  | succ k hjk ih =>
    have hlt : k < T.length := Nat.lt_of_succ_lt hk
    have hbefore := ih hlt
    have hnext := place_add_le (List.isChain_iff_getElem.mp hT k hk)
    have hleaps := leapsFrom_eq_append hjk hlt
    rw [leapsFrom] at hleaps
    rw [hleaps]
    push_cast at hnext ⊢
    linarith

/-- Instants whose neighbours are `d` apart are as many times `d` apart as the
one comes after the other, but for those in leap seconds. -/
theorem mul_le_nanosSince (hT : T.IsChain fun a b => d ≤ b.nanosSince a) {j k : Nat}
    (hjk : j ≤ k) (hk : k < T.length) :
    (k - j) * d ≤ T[k].nanosSince T[j] + leapsFrom T j k * nanosPerSecond := by
  have hplaces := place_add_mul_le hT hjk hk
  rw [nanosSince_eq, leapsFrom_eq_append hjk hk]
  -- the last of them may lie in a leap second that is left out
  by_cases hleap : T[k].IsLeap
  · have hone := neg_one_le_leapBetween T[k] T[j]
    simp only [if_pos hleap, nanosPerSecond] at *
    push_cast at *
    linarith
  · have hzero := leapBetween_nonneg T[j] hleap
    simp only [if_neg hleap, nanosPerSecond] at *
    push_cast at *
    linarith

/-! ## Time spans -/

/-- The end of a span on the clock: a leap second may reach beyond it. -/
theorem place_le_of_inSpan (ha : inSpan first last a = true) :
    a.place ≤ last.place + (if a.IsLeap then 1 else 0 : Nat) * nanosPerSecond := by
  have hle := (inSpan_iff.mp ha).2
  by_cases hleap : a.IsLeap
  · simpa [hleap] using place_le_add_of_le hle
  · simpa [hleap] using place_le_of_le hle hleap

theorem countP_inSpan_eq_zero (h : ∀ t ∈ T, last < t) : T.countP (inSpan first last) = 0 := by
  rw [List.countP_eq_zero]
  intro t ht hspan
  exact not_lt.mpr (inSpan_iff.mp hspan).2 (h t ht)

/-- How many instants of the list lie in the span and in a leap second. -/
def leapsIn (first last : Instant) (T : List Instant) : Nat :=
  T.countP fun t => inSpan first last t && t.IsLeap

theorem leapsIn_cons (ha : inSpan first last a = true) :
    leapsIn first last (a :: T) = leapsIn first last T + if a.IsLeap then 1 else 0 := by
  rw [leapsIn, List.countP_cons]
  simp only [ha, Bool.true_and, decide_eq_true_eq]
  rfl

/-- The first instant of the list lies in the span. The others that do follow one
after the other, each a distance `d` after the one before. -/
theorem place_add_mul_countP_le (hT : (a :: T).IsChain fun a b => d ≤ b.nanosSince a)
    (hsorted : (a :: T).Pairwise (· < ·)) (ha : inSpan first last a = true) :
    a.place + T.countP (inSpan first last) * d ≤
      last.place + leapsIn first last (a :: T) * nanosPerSecond := by
  induction T generalizing a with
  | nil =>
    rw [leapsIn_cons ha]
    simpa [leapsIn] using place_le_of_inSpan ha
  | cons b T ih =>
    obtain ⟨hnext, hrest⟩ := List.isChain_cons_cons.mp hT
    obtain ⟨hlt, hsorted'⟩ := List.pairwise_cons.mp hsorted
    have hab : a < b := hlt b List.mem_cons_self
    rw [leapsIn_cons ha]
    by_cases hb : inSpan first last b = true
    · have hothers := ih hrest hsorted' hb
      have hstep := place_add_le hnext
      rw [List.countP_cons_of_pos hb]
      push_cast at hothers hstep ⊢
      linarith
    · -- nothing that comes after the span lies in it
      have hafter : last < b := by
        by_contra hbefore
        refine hb (inSpan_iff.mpr ⟨?_, not_lt.mp hbefore⟩)
        have hfirst := (inSpan_iff.mp ha).1
        rw [lt_def] at hab
        rw [le_def] at *
        omega
      have hnone : (b :: T).countP (inSpan first last) = 0 := by
        refine countP_inSpan_eq_zero fun t ht => ?_
        rcases List.mem_cons.mp ht with rfl | ht
        · exact hafter
        · exact lt_trans hafter ((List.pairwise_cons.mp hsorted').1 t ht)
      have hend := place_le_of_inSpan ha
      have hleaps : 0 ≤ (leapsIn first last (b :: T) : Int) * nanosPerSecond := by positivity
      rw [hnone]
      push_cast at hend ⊢
      linarith

/-- A span that begins and ends in no leap second holds at most one instant, and
one more for every distance `d` of its length, but for those in leap seconds. -/
theorem countP_inSpan_le (hd : 0 < d) (hT : T.IsChain fun a b => d ≤ b.nanosSince a)
    (hsorted : T.Pairwise (· < ·)) (hfirst : ¬ first.IsLeap) (hlast : ¬ last.IsLeap)
    (hspan : first ≤ last) :
    T.countP (inSpan first last) ≤
      (last.nanosSince first + leapsIn first last T * nanosPerSecond) / d + 1 := by
  have hplace : first.place ≤ last.place := place_le_of_le hspan hfirst
  rw [nanosSince_eq_sub hlast hfirst]
  -- what comes before the span does not count
  induction T with
  | nil =>
    have hquotient : 0 ≤ (last.place - first.place + (0 : Nat) * nanosPerSecond) / d :=
      Int.ediv_nonneg (by omega) hd.le
    simp only [List.countP_nil, leapsIn] at hquotient ⊢
    omega
  | cons a T ih =>
    by_cases ha : inSpan first last a = true
    · have hothers := place_add_mul_countP_le hT hsorted ha
      have hbegin := place_le_of_le (inSpan_iff.mp ha).1 hfirst
      rw [List.countP_cons_of_pos ha]
      push_cast
      refine Int.add_le_add_right (Int.le_ediv_of_mul_le hd ?_) 1
      linarith
    · have hrest := ih (List.isChain_cons.mp hT).2 (List.pairwise_cons.mp hsorted).2
      have hleaps : leapsIn first last (a :: T) = leapsIn first last T := by
        rw [leapsIn, List.countP_cons_of_neg (by simp [ha])]
        rfl
      rwa [List.countP_cons_of_neg ha, hleaps]

end CpuAlert.Time.Instant
