import CpuAlert.Secret.Aes
import Mathlib.Algebra.Group.Nat.Defs
import Mathlib.Data.Finite.Defs
import Mathlib.Data.Fintype.EquivFin

/-!
# Different blocks are enciphered differently

Every step of a round can be undone: the substitution is one of all bytes for
all bytes, rows are only moved, the matrix of the columns is the identity at its
fourth power, and a round key is added twice to be taken off again. So blocks stay
different under any list of round keys, whichever key they come from.

## Main results

* `Aes.substitute_injective` — the substitution of bytes
* `Aes.mixColumns_injective` — the matrix of the columns
* `Aes.encryptWith_injective` — all rounds
-/

namespace CpuAlert.Aes

/-! ## Bytes -/

/-- Which values have been met is kept as the bits of a number. -/
theorem testBit_met (f : Nat → Nat) (count j : Nat) :
    ((List.range count).foldl (fun met n => met ||| 1 <<< f n) 0).testBit j = true ↔
      ∃ n < count, f n = j := by
  induction count with
  | zero => simp
  | succ count ih =>
    rw [List.range_succ, List.foldl_append, List.foldl_cons, List.foldl_nil, Nat.testBit_or,
      Bool.or_eq_true, ih, Nat.one_shiftLeft, Nat.testBit_two_pow, decide_eq_true_eq]
    constructor
    · rintro (⟨n, hn, hj⟩ | hj)
      · exact ⟨n, by omega, hj⟩
      · exact ⟨count, by omega, hj⟩
    · rintro ⟨n, hn, hj⟩
      rcases Nat.lt_succ_iff_lt_or_eq.mp hn with hlt | rfl
      · exact .inl ⟨n, hlt, hj⟩
      · exact .inr hj

/-- Among the substitutions are all bytes. -/
theorem met_substituted :
    (List.range 256).foldl (fun met n => met ||| 1 <<< (substituted (.ofNat n)).toNat) 0 =
      2 ^ 256 - 1 := by
  decide +kernel

theorem substitute_eq (a : UInt8) : substitute a = substituted a := by
  have hlt : a.toNat < 256 := a.toNat_lt
  have hplace : substitute a = substitutions[a.toNat] := rfl
  rw [hplace]
  simp only [substitutions, Vector.getElem_ofFn, UInt8.ofNat_toNat]

/-- The substitution leaves no byte out, and so takes none twice. -/
theorem substitute_injective : Function.Injective substitute := by
  have hfinite : Finite UInt8 := Finite.of_injective UInt8.toFin fun _ _ => UInt8.toFin_inj.mp
  -- it is enough that every byte is met, which one number says of all of them
  rw [Finite.injective_iff_surjective]
  intro b
  have hbit : (2 ^ 256 - 1).testBit b.toNat = true := by
    rw [Nat.testBit_two_pow_sub_one, decide_eq_true_eq]
    exact b.toNat_lt
  rw [← met_substituted, testBit_met] at hbit
  obtain ⟨n, -, hn⟩ := hbit
  refine ⟨.ofNat n, ?_⟩
  rw [substitute_eq]
  exact UInt8.toNat_inj.mp hn

/-- The highest bit of a byte says whether doubling it is reduced. -/
theorem toNat_lt_iff (a : UInt8) : a.toNat < 128 ↔ a.toNat.testBit 7 = false := by
  have hlt := a.toNat_lt
  rw [Nat.testBit_eq_decide_div_mod_eq, decide_eq_false_iff_not]
  omega

/-- Doubling a sum is doubling its parts. -/
theorem double_xor (a b : UInt8) : double (a ^^^ b) = double a ^^^ double b := by
  have hreduced : (if (a ^^^ b).toNat < 128 then 0 else 0x1b : UInt8) =
      (if a.toNat < 128 then 0 else 0x1b) ^^^ (if b.toNat < 128 then 0 else 0x1b) := by
    simp only [toNat_lt_iff]
    rw [UInt8.toNat_xor, Nat.testBit_xor]
    cases a.toNat.testBit 7 <;> cases b.toNat.testBit 7 <;> rfl
  rw [double, hreduced, UInt8.shiftLeft_xor, double, double]
  ac_rfl

/-- One byte of a column that is multiplied by the matrix, from the bytes of the
column from its place on. -/
def mixed (a b c d : UInt8) : UInt8 := double a ^^^ (double b ^^^ b) ^^^ c ^^^ d

theorem xor_left_comm (a b c : UInt8) : a ^^^ (b ^^^ c) = b ^^^ (a ^^^ c) := by
  ac_rfl

/-- A byte that is added twice is gone. -/
theorem xor_self_left (a b : UInt8) : a ^^^ (a ^^^ b) = b := by
  rw [← UInt8.xor_assoc, UInt8.xor_self, UInt8.zero_xor]

/-- Two multiplications only bring together the places two apart. -/
theorem mixed_mixed (a b c d : UInt8) :
    mixed (mixed a b c d) (mixed b c d a) (mixed c d a b) (mixed d a b c) =
      double (double a) ^^^ (double (double c) ^^^ a) := by
  simp only [mixed, double_xor, UInt8.xor_assoc, UInt8.xor_comm, xor_left_comm, xor_self_left]

/-! ## Blocks -/

/-- What is added to a block can be taken off again. -/
theorem add_left_injective (k : Block) : Function.Injective (add · k) := by
  intro s t h
  apply Vector.ext
  intro i hi
  have hplace := congrArg (fun r : Block => r[i]) h
  simp only [add, Vector.getElem_zipWith] at hplace
  exact (UInt8.xor_left_inj _).mp hplace

theorem add_right_injective (s : Block) : Function.Injective (add s) := by
  intro k k' h
  apply Vector.ext
  intro i hi
  have hplace := congrArg (fun r : Block => r[i]) h
  simp only [add, Vector.getElem_zipWith] at hplace
  exact (UInt8.xor_right_inj _).mp hplace

theorem subBytes_injective : Function.Injective subBytes := by
  intro s t h
  apply Vector.ext
  intro i hi
  have hplace := congrArg (fun r : Block => r[i]) h
  simp only [subBytes, Vector.getElem_map] at hplace
  exact substitute_injective hplace

theorem shiftSource_lt (i : Fin 16) : i.val % 4 + 4 * ((i.val / 4 + i.val % 4) % 4) < 16 := by
  omega

/-- Where the byte in a place comes from. -/
def shiftSource (i : Fin 16) : Fin 16 :=
  ⟨i.val % 4 + 4 * ((i.val / 4 + i.val % 4) % 4), shiftSource_lt i⟩

theorem getElem_shiftRows (s : Block) (i : Fin 16) :
    (shiftRows s)[i.val] = s[(shiftSource i).val] := by
  rw [shiftRows, Vector.getElem_ofFn]
  rfl

theorem shiftRows_injective : Function.Injective shiftRows := by
  have hsurjective : ∀ j, ∃ i, shiftSource i = j := by decide
  intro s t h
  apply Vector.ext
  intro j hj
  obtain ⟨i, hi⟩ := hsurjective ⟨j, hj⟩
  have hplace := congrArg (fun r : Block => r[i.val]) h
  simp only [getElem_shiftRows, hi] at hplace
  exact hplace

theorem below_lt (i : Fin 16) : 4 * (i.val / 4) + (i.val % 4 + 1) % 4 < 16 := by
  omega

/-- The place below in the same column; below the last is the first. -/
def below (i : Fin 16) : Fin 16 := ⟨4 * (i.val / 4) + (i.val % 4 + 1) % 4, below_lt i⟩

theorem below_four : ∀ i, below (below (below (below i))) = i := by
  decide

theorem getElem_mixColumns (s : Block) (i : Fin 16) :
    (mixColumns s)[i.val] = mixed s[i.val] s[(below i).val] s[(below (below i)).val]
      s[(below (below (below i))).val] := by
  have hplaces : ∀ i : Fin 16, 4 * (i.val / 4) + i.val % 4 = i.val ∧
      4 * (i.val / 4) + (i.val % 4 + 2) % 4 = (below (below i)).val ∧
      4 * (i.val / 4) + (i.val % 4 + 3) % 4 = (below (below (below i))).val := by decide
  obtain ⟨h0, h2, h3⟩ := hplaces i
  simp only [mixColumns, Vector.getElem_ofFn, h0, h2, h3]
  rfl

theorem getElem_mixColumns_mixColumns (s : Block) (i : Fin 16) :
    (mixColumns (mixColumns s))[i.val] = double (double s[i.val]) ^^^
      (double (double s[(below (below i)).val]) ^^^ s[i.val]) := by
  simp only [getElem_mixColumns, below_four, mixed_mixed]

/-- The fourth power of the matrix is the identity. -/
theorem mixColumns_four (s : Block) : mixColumns (mixColumns (mixColumns (mixColumns s))) = s := by
  have hplace (i : Fin 16) :
      (mixColumns (mixColumns (mixColumns (mixColumns s))))[i.val] = s[i.val] := by
    simp only [getElem_mixColumns_mixColumns, below_four]
    generalize s[i.val] = a
    generalize s[(below (below i)).val] = c
    simp only [double_xor, UInt8.xor_assoc, UInt8.xor_comm, xor_left_comm, UInt8.xor_self,
      xor_self_left, UInt8.xor_zero]
  apply Vector.ext
  intro i hi
  exact hplace ⟨i, hi⟩

theorem mixColumns_injective : Function.Injective mixColumns := by
  intro s t h
  rw [← mixColumns_four s, h, mixColumns_four]

/-! ## Rounds -/

/-- Blocks stay different in the rounds under any keys. -/
theorem rounds_injective (keys : List Block) : Function.Injective (rounds · keys) := by
  have hbytes : Function.Injective fun s => shiftRows (subBytes s) :=
    shiftRows_injective.comp subBytes_injective
  induction keys with
  | nil =>
    intro s t h
    exact h
  | cons k keys ih =>
    -- in the last round the columns are not multiplied
    cases keys with
    | nil => exact (add_left_injective k).comp hbytes
    | cons k' keys => exact ih.comp ((add_left_injective k).comp (mixColumns_injective.comp hbytes))

/-- Different blocks are enciphered differently, whatever the round keys are. -/
theorem encryptWith_injective (keys : List Block) : Function.Injective (encryptWith keys) := by
  cases keys with
  | nil =>
    intro s t h
    exact h
  | cons k keys => exact (rounds_injective keys).comp (add_left_injective k)

end CpuAlert.Aes
