import CpuAlert.Secret.Gcm
import Mathlib.FieldTheory.Finite.Extension
import Mathlib.Logic.Function.Iterate
import Mathlib.Tactic.ComputeDegree
import Mathlib.Tactic.LinearCombination

/-!
# The field behind the hash

An element is a polynomial of degree below 128 over two elements, its first bit
the constant term. Multiplication of elements is multiplication of polynomials
modulo a polynomial of degree 128.

That polynomial is irreducible. An irreducible factor of at most half its degree
would divide `X ^ 2 ^ 64 - X`, because it divides `X ^ 2 ^ 128 - X` and its degree
is then a power of two; but `x ^ 2 ^ 64 - x` has an inverse. So no product of
elements is zero unless one of them is.

## Main definitions

* `Gcm.modulus` — the polynomial of degree 128
* `Gcm.value` — an element as a polynomial modulo it

## Main results

* `Gcm.value_fieldMul` — multiplication of elements is that of polynomials
* `Gcm.irreducible_of_root` — when a polynomial over two elements is irreducible
* `Gcm.irreducible_modulus` — the modulus is irreducible
* `Gcm.fieldMul_right_injective` — a factor other than zero can be cancelled
-/

namespace CpuAlert.Gcm

open Polynomial

/-! ## The modulus -/

/-- What elements are multiplied modulo. -/
@[irreducible] noncomputable def modulus : (ZMod 2)[X] := X ^ 128 + (X ^ 7 + X ^ 2 + X + 1)

theorem monic_modulus : modulus.Monic := by
  unfold modulus
  apply monic_X_pow_add
  compute_degree!

theorem natDegree_modulus : modulus.natDegree = 128 := by
  unfold modulus
  compute_degree!

/-- Polynomials modulo the modulus. -/
abbrev Residue : Type := AdjoinRoot modulus

/-- The variable. -/
noncomputable abbrev x : Residue := AdjoinRoot.root modulus

/-- Adding twice is adding nothing. -/
theorem add_self (a : Residue) : a + a = 0 := by
  have htwo : (2 : ZMod 2) = 0 := rfl
  rw [← two_smul (ZMod 2), htwo, zero_smul]

theorem x_pow_128 : x ^ 128 = x ^ 7 + x ^ 2 + x + 1 := by
  have hmodulus : modulus = X ^ 128 + (X ^ 7 + X ^ 2 + X + 1) := by
    unfold modulus
    rfl
  have hroot := (congrArg (AdjoinRoot.mk modulus) hmodulus).symm.trans AdjoinRoot.mk_self
  simp only [map_add, map_pow, map_one, AdjoinRoot.mk_X] at hroot
  have htwice := add_self (x ^ 7 + x ^ 2 + x + 1)
  linear_combination hroot - htwice

/-! ## Elements as polynomials -/

/-- An element as a polynomial. -/
noncomputable def poly (a : Element) : (ZMod 2)[X] :=
  ∑ i ∈ Finset.range 128, if a.getMsbD i then X ^ i else 0

/-- An element as a polynomial modulo the modulus. -/
noncomputable def value (a : Element) : Residue := AdjoinRoot.mk modulus (poly a)

theorem value_eq_sum (a : Element) :
    value a = ∑ i ∈ Finset.range 128, if a.getMsbD i then x ^ i else 0 := by
  rw [value, poly, map_sum]
  apply Finset.sum_congr rfl
  intro i _
  split <;> simp

theorem coeff_poly (a : Element) {i : Nat} (hi : i < 128) :
    (poly a).coeff i = if a.getMsbD i then 1 else 0 := by
  have hterm (j : Nat) : (if a.getMsbD j then (X : (ZMod 2)[X]) ^ j else 0).coeff i =
      if i = j then (if a.getMsbD i then 1 else 0) else 0 := by
    by_cases hj : i = j
    · subst hj
      split <;> simp
    · split <;> simp [coeff_X_pow, hj]
  rw [poly, finsetSum_coeff, Finset.sum_congr rfl fun j _ => hterm j]
  simp [hi]

theorem degree_poly_lt (a : Element) : (poly a).degree < (128 : Nat) := by
  apply (degree_sum_le _ _).trans_lt
  rw [Finset.sup_lt_iff (WithBot.bot_lt_coe 128)]
  intro i hi
  split
  · rw [degree_X_pow]
    exact_mod_cast Finset.mem_range.mp hi
  · rw [degree_zero]
    exact WithBot.bot_lt_coe 128

/-- Different elements are different polynomials, also modulo the modulus. -/
theorem value_injective : Function.Injective value := by
  intro a b h
  have hmk : AdjoinRoot.mk modulus (poly a) = AdjoinRoot.mk modulus (poly b) := h
  have hdvd : modulus ∣ poly a - poly b := AdjoinRoot.mk_eq_mk.mp hmk
  have hlt : (poly a - poly b).degree < modulus.degree := by
    rw [degree_eq_natDegree monic_modulus.ne_zero, natDegree_modulus]
    apply (degree_sub_le _ _).trans_lt
    rw [max_lt_iff]
    exact ⟨degree_poly_lt a, degree_poly_lt b⟩
  have hpoly : poly a = poly b := sub_eq_zero.mp (eq_zero_of_dvd_of_degree_lt hdvd hlt)
  apply BitVec.eq_of_getMsbD_eq
  intro i hi
  have hcoeff := congrArg (coeff · i) hpoly
  simp only [coeff_poly _ hi] at hcoeff
  by_cases ha : a.getMsbD i <;> by_cases hb : b.getMsbD i <;> simp_all

@[simp] theorem value_zero : value 0#128 = 0 := by
  rw [value_eq_sum]
  simp

/-- Addition of elements is addition of polynomials. -/
theorem value_xor (a b : Element) : value (a ^^^ b) = value a + value b := by
  simp only [value_eq_sum, ← Finset.sum_add_distrib]
  apply Finset.sum_congr rfl
  intro i _
  rw [BitVec.getMsbD_xor]
  cases a.getMsbD i <;> cases b.getMsbD i <;> simp [add_self]

/-! ## Multiplication -/

theorem value_reduction : value reduction = x ^ 128 := by
  have hbits : ∀ i ∈ Finset.range 128,
      (if reduction.getMsbD i then x ^ i else 0) =
        if i ∈ ({0, 1, 2, 7} : Finset Nat) then x ^ i else 0 := by
    intro i hi
    have hall : ∀ i < 128, reduction.getMsbD i = decide (i ∈ ({0, 1, 2, 7} : Finset Nat)) := by
      decide
    rw [hall i (Finset.mem_range.mp hi)]
    simp only [decide_eq_true_eq]
  have hinside : Finset.range 128 ∩ {0, 1, 2, 7} = {0, 1, 2, 7} := by decide
  rw [value_eq_sum, Finset.sum_congr rfl hbits, Finset.sum_ite_mem, hinside, x_pow_128]
  rw [Finset.sum_insert (by decide), Finset.sum_insert (by decide), Finset.sum_insert (by decide),
    Finset.sum_singleton]
  ring

/-- The bits move on by one power, and the highest becomes what it is reduced
to. -/
theorem value_timesX (a : Element) : value (timesX a) = x * value a := by
  have hshift : value (a >>> 1) =
      ∑ i ∈ Finset.range 127, if a.getMsbD i then x ^ (i + 1) else 0 := by
    rw [value_eq_sum, Finset.sum_range_succ']
    simp only [BitVec.getMsbD_ushiftRight]
    rw [if_neg (by simp), add_zero]
    apply Finset.sum_congr rfl
    intro i hi
    have hlt := Finset.mem_range.mp hi
    have hin : i + 1 < 128 := by omega
    simp [hin]
  have hlast : a.getLsbD 0 = a.getMsbD 127 := by
    rw [BitVec.getLsbD_eq_getMsbD]
    simp
  have hvalue : value a = (∑ i ∈ Finset.range 127, if a.getMsbD i then x ^ i else 0) +
      if a.getMsbD 127 then x ^ 127 else 0 := by
    rw [value_eq_sum, Finset.sum_range_succ]
  have hlower : (∑ i ∈ Finset.range 127, if a.getMsbD i then x ^ (i + 1) else 0) =
      x * ∑ i ∈ Finset.range 127, if a.getMsbD i then x ^ i else 0 := by
    rw [Finset.mul_sum]
    apply Finset.sum_congr rfl
    intro i _
    rw [mul_ite, mul_zero, pow_succ']
  have hhighest : value (if a.getMsbD 127 then reduction else 0) =
      x * if a.getMsbD 127 then x ^ 127 else 0 := by
    rw [apply_ite value, value_reduction, mul_ite, mul_zero, ← pow_succ']
    exact congrArg (ite _ _) value_zero
  rw [timesX, value_xor, hshift, hlast, hvalue, mul_add, hlower, hhighest]

/-- After some of the coefficients, from the highest power on, the product is
that of the polynomial so far. -/
theorem value_foldl (a b : Element) (n : Nat) :
    value ((List.range n).foldl (fun z i => timesX z ^^^ (if a.getLsbD i then b else 0)) 0) =
      (∑ i ∈ Finset.range n, if a.getLsbD i then x ^ (n - 1 - i) else 0) * value b := by
  induction n with
  | zero => simp
  | succ n ih =>
    -- with one coefficient more, each one before it belongs to the next higher power
    have hlater : ∑ i ∈ Finset.range n, (if a.getLsbD i then x ^ (n + 1 - 1 - i) else 0) =
        x * ∑ i ∈ Finset.range n, if a.getLsbD i then x ^ (n - 1 - i) else 0 := by
      rw [Finset.mul_sum]
      apply Finset.sum_congr rfl
      intro i hi
      have hlt := Finset.mem_range.mp hi
      split
      · rw [← pow_succ']
        congr 1
        omega
      · rw [mul_zero]
    rw [List.range_succ, List.foldl_append, List.foldl_cons, List.foldl_nil, value_xor,
      value_timesX, ih, Finset.sum_range_succ, hlater]
    split <;> simp <;> ring

/-- Multiplication of elements is multiplication of polynomials. -/
theorem value_fieldMul (a b : Element) : value (fieldMul a b) = value a * value b := by
  have hreversed : (∑ i ∈ Finset.range 128, if a.getLsbD i then x ^ (128 - 1 - i) else 0) =
      value a := by
    rw [value_eq_sum, ← Finset.sum_range_reflect]
    apply Finset.sum_congr rfl
    intro i hi
    have hlt := Finset.mem_range.mp hi
    have hbit : a.getLsbD (128 - 1 - i) = a.getMsbD i := by
      rw [BitVec.getMsbD_eq_getLsbD]
      simp [hlt]
    have hpower : 128 - 1 - (128 - 1 - i) = i := by omega
    rw [hbit, hpower]
  -- the lowest bit of a number is the coefficient of the highest power
  rw [fieldMul, value_foldl, hreversed]

/-! ## The modulus is irreducible -/

/-- A polynomial over two elements whose degree is a power of two is irreducible if
modulo it the variable is a root of the polynomial that all elements of a field of
its size are roots of, but the one for the square root of that size has an inverse
there. -/
theorem irreducible_of_root {f : (ZMod 2)[X]} {k : Nat} (hf : f.Monic)
    (hdegree : f.natDegree = 2 ^ (k + 1))
    (hroot : AdjoinRoot.root f ^ 2 ^ 2 ^ (k + 1) = AdjoinRoot.root f)
    (hunit : IsUnit (AdjoinRoot.root f ^ 2 ^ 2 ^ k - AdjoinRoot.root f)) : Irreducible f := by
  have hcard : Nat.card (ZMod 2) = 2 := by simp
  have hne : f ≠ 1 := by
    rintro rfl
    rw [natDegree_one] at hdegree
    exact absurd hdegree (by positivity)
  rw [hf.irreducible_iff_lt_natDegree_lt hne]
  intro q hq hlow hdvd
  rw [hdegree, pow_succ, Nat.mul_div_cancel _ (by decide), Finset.mem_Ioc] at hlow
  have hnotUnit : ¬ IsUnit q := by
    intro hqunit
    rw [hq.eq_one_of_isUnit hqunit, natDegree_one] at hlow
    exact absurd hlow.1 (lt_irrefl 0)
  -- a factor of at most half the degree would have an irreducible one
  obtain ⟨r, hr, hrq⟩ := WfDvdMonoid.exists_irreducible_factor hnotUnit hq.ne_zero
  have hrf : r ∣ f := hrq.trans hdvd
  have hle : r.natDegree ≤ 2 ^ k := (natDegree_le_of_dvd hrq hq.ne_zero).trans hlow.2
  -- the degree of such a factor is a power of two, and so divides half of the degree
  have hall : f ∣ X ^ Nat.card (ZMod 2) ^ 2 ^ (k + 1) - X := by
    rw [hcard, ← AdjoinRoot.mk_eq_mk, map_pow, AdjoinRoot.mk_X]
    exact hroot
  have hpower : r.natDegree ∣ 2 ^ (k + 1) :=
    hr.natDegree_dvd_of_dvd_X_pow_card_pow_sub_X (hrf.trans hall)
  have hhalf : r.natDegree ∣ 2 ^ k := by
    obtain ⟨j, -, hj⟩ := (Nat.dvd_prime_pow Nat.prime_two).mp hpower
    rw [hj] at hle ⊢
    exact Nat.pow_dvd_pow 2 ((Nat.pow_le_pow_iff_right (by decide)).mp hle)
  have hfactor : r ∣ X ^ 2 ^ 2 ^ k - X := by
    have hdivides := hr.natDegree_dvd_iff_dvd_X_pow_card_pow_sub_X.mp hhalf
    rwa [hcard] at hdivides
  -- but no factor of the polynomial divides what has an inverse modulo it
  obtain ⟨u, hu⟩ := hunit.exists_left_inv
  obtain ⟨p, rfl⟩ := AdjoinRoot.mk_surjective u
  have hinverse : f ∣ p * (X ^ 2 ^ 2 ^ k - X) - 1 := by
    rw [← AdjoinRoot.mk_eq_mk, map_mul, map_sub, map_pow, AdjoinRoot.mk_X, map_one]
    exact hu
  have hone : r ∣ 1 := (dvd_sub_right (hfactor.mul_left p)).mp (hrf.trans hinverse)
  exact hr.not_isUnit (isUnit_of_dvd_one hone)

/-- The variable as an element. -/
def variableElement : Element := 1#128 <<< 126

theorem value_variableElement : value variableElement = x := by
  have hbits : ∀ i < 128, variableElement.getMsbD i = decide (i = 1) := by decide
  rw [value_eq_sum, Finset.sum_eq_single 1]
  · simp [hbits 1 (by decide)]
  · intro i hi hne
    simp [hbits i (Finset.mem_range.mp hi), hne]
  · simp

/-- One as an element. -/
def unitElement : Element := 1#128 <<< 127

theorem value_unitElement : value unitElement = 1 := by
  have hbits : ∀ i < 128, unitElement.getMsbD i = decide (i = 0) := by decide
  rw [value_eq_sum, Finset.sum_eq_single 0]
  · simp [hbits 0 (by decide)]
  · intro i hi hne
    simp [hbits i (Finset.mem_range.mp hi), hne]
  · simp

/-- Squaring again and again. -/
theorem value_squares (a : Element) (n : Nat) :
    value ((fun b => fieldMul b b)^[n] a) = value a ^ 2 ^ n := by
  induction n with
  | zero => simp
  | succ n ih =>
    rw [Function.iterate_succ_apply', value_fieldMul, ih, ← pow_add, ← two_mul, ← pow_succ']

/-- The variable squared sixty-four times. -/
def halfway : Element := 0x6f9945a9e519a7229d4c1ad657f8a686#128

theorem squares_variableElement : (fun b => fieldMul b b)^[2 ^ 6] variableElement = halfway := by
  decide +kernel

theorem squares_halfway : (fun b => fieldMul b b)^[2 ^ 6] halfway = variableElement := by
  decide +kernel

theorem fieldMul_halfway_xor :
    fieldMul 0x180da934bf53158251c13dbb149f5279#128 (halfway ^^^ variableElement) =
      unitElement := by
  decide +kernel

theorem x_pow_halfway : x ^ 2 ^ 2 ^ 6 = value halfway := by
  have hvalue := value_squares variableElement (2 ^ 6)
  rw [squares_variableElement, value_variableElement] at hvalue
  exact hvalue.symm

theorem x_pow_all : x ^ 2 ^ 2 ^ (6 + 1) = x := by
  have hvalue := value_squares halfway (2 ^ 6)
  rw [squares_halfway, value_variableElement, ← x_pow_halfway, ← pow_mul, ← pow_add, ← two_mul,
    ← pow_succ'] at hvalue
  exact hvalue.symm

theorem isUnit_x_pow_sub : IsUnit (x ^ 2 ^ 2 ^ 6 - x) := by
  have hsub : value halfway - x = value (halfway ^^^ variableElement) := by
    rw [value_xor, value_variableElement]
    linear_combination -add_self x
  have hproduct := congrArg value fieldMul_halfway_xor
  rw [value_fieldMul, value_unitElement] at hproduct
  rw [x_pow_halfway, hsub]
  exact IsUnit.of_mul_eq_one_right _ hproduct

theorem irreducible_modulus : Irreducible modulus :=
  irreducible_of_root monic_modulus natDegree_modulus x_pow_all isUnit_x_pow_sub

/-- A factor other than zero can be cancelled. -/
theorem fieldMul_right_injective {point : Element} (hpoint : point ≠ 0) :
    Function.Injective fun a => fieldMul a point := by
  intro a b h
  have hdomain : IsDomain Residue := AdjoinRoot.isDomain_of_prime irreducible_modulus.prime
  have hvalue : value point ≠ 0 := by
    rw [← value_zero]
    exact value_injective.ne hpoint
  apply value_injective
  apply mul_right_cancel₀ hvalue
  rw [← value_fieldMul, ← value_fieldMul]
  exact congrArg value h

end CpuAlert.Gcm
