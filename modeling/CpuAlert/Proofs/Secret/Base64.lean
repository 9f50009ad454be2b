import CpuAlert.Secret.Base64

/-!
# Reading what was written in base sixty-four

Groups of three bytes are written one by one, so a text of bytes is written as
the groups in front and a last one, which may be shorter. Reading takes the same
two parts: the last four symbols stand for the last group, whether it is full or
filled up.

## Main definitions

* `Base64.IsSymbol` — the bytes that writing uses

## Main results

* `Base64.value?_symbol` — a symbol is read as the bits that it stands for
* `Base64.isSymbol_of_mem_encode` — what a written form consists of
* `Base64.decode_encode` — bytes come back from their written form
-/

namespace CpuAlert.Base64

/-! ## Symbols -/

theorem value?_symbol {n : Nat} (h : n < 64) : value? (symbol n) = some n := by
  have hall : ∀ n < 64, value? (symbol n) = some n := by decide
  exact hall n h

theorem symbol_ne_padding {n : Nat} (h : n < 64) : symbol n ≠ padding := by
  have hall : ∀ n < 64, symbol n ≠ padding := by decide
  exact hall n h

theorem valueAt_symbol {n : Nat} (h : n < 64) (offset : Nat) :
    valueAt (symbol n) offset = .ok n := by
  rw [valueAt, value?_symbol h]

/-- A byte that writing uses: one of the symbols, or the padding. -/
def IsSymbol (b : UInt8) : Prop := b = padding ∨ ∃ n < 64, b = symbol n

theorem isSymbol_symbol {n : Nat} (h : n < 64) : IsSymbol (symbol n) := .inr ⟨n, h, rfl⟩

theorem isSymbol_of_mem_encode {bytes : List UInt8} {b : UInt8} (h : b ∈ encode bytes) :
    IsSymbol b := by
  fun_induction encode bytes with
  | case1 x y z rest ih =>
    have hx := x.toNat_lt
    have hy := y.toNat_lt
    have hz := z.toNat_lt
    simp only [List.mem_cons] at h
    rcases h with rfl | rfl | rfl | rfl | h
    · exact isSymbol_symbol (by omega)
    · exact isSymbol_symbol (by omega)
    · exact isSymbol_symbol (by omega)
    · exact isSymbol_symbol (by omega)
    · exact ih h
  | case2 x y =>
    have hx := x.toNat_lt
    have hy := y.toNat_lt
    simp only [List.mem_cons, List.not_mem_nil, or_false] at h
    rcases h with rfl | rfl | rfl | rfl
    · exact isSymbol_symbol (by omega)
    · exact isSymbol_symbol (by omega)
    · exact isSymbol_symbol (by omega)
    · exact .inl rfl
  | case3 x =>
    have hx := x.toNat_lt
    simp only [List.mem_cons, List.not_mem_nil, or_false] at h
    rcases h with rfl | rfl | rfl | rfl
    · exact isSymbol_symbol (by omega)
    · exact isSymbol_symbol (by omega)
    · exact .inl rfl
    · exact .inl rfl
  | case4 => cases h

/-! ## Groups -/

/-- The four values of three bytes. -/
theorem triple_eq (a b c : UInt8) :
    triple (a.toNat / 4) (a.toNat % 4 * 16 + b.toNat / 16) (b.toNat % 16 * 4 + c.toNat / 64)
      (c.toNat % 64) = [a, b, c] := by
  have ha := a.toNat_lt
  have hb := b.toNat_lt
  have hc := c.toNat_lt
  have hbyte {x y : UInt8} {n : Nat} (hn : n = x.toNat) (hy : y = .ofNat n) : y = x := by
    rw [hy, hn, UInt8.ofNat_toNat]
  simp only [triple, List.cons.injEq, and_true]
  exact ⟨hbyte (by omega) rfl, hbyte (by omega) rfl, hbyte (by omega) rfl⟩

/-- Full groups are read one by one. -/
theorem decodeFull_encode {front : List UInt8} (h : front.length % 3 = 0) (offset : Nat) :
    decodeFull offset (encode front) = .ok front := by
  fun_induction encode front generalizing offset with
  | case1 a b c front ih =>
    have ha := a.toNat_lt
    have hb := b.toNat_lt
    have hc := c.toNat_lt
    simp only [List.length_cons] at h
    rw [decodeFull, valueAt_symbol (by omega), valueAt_symbol (by omega), valueAt_symbol (by omega),
      valueAt_symbol (by omega), ih (by omega)]
    simp only [bind, Except.bind, pure, Except.pure, triple_eq, List.cons_append, List.nil_append]
  | case2 a b => simp at h
  | case3 a => simp at h
  | case4 => rfl

theorem lastValues_symbol {n : Nat} (h : n < 64) (start index : Nat) (rest : List UInt8) :
    lastValues start index (symbol n :: rest) =
      (lastValues start (index + 1) rest).map fun x => (n :: x.1, x.2) := by
  rw [lastValues, if_neg (symbol_ne_padding h), valueAt_symbol h]
  cases lastValues start (index + 1) rest <;> rfl

/-- The last group is read, full or filled up. -/
theorem decodeLast_encode {last : List UInt8} (hpos : last ≠ []) (hlength : last.length ≤ 3)
    (start : Nat) : decodeLast start (encode last) = .ok last := by
  match last, hlength with
  | [a], _ =>
    have ha := a.toNat_lt
    have htriple := triple_eq a 0 0
    have hvalues : lastValues start 0 (encode [a]) =
        .ok ([a.toNat / 4, a.toNat % 4 * 16], 2) := by
      rw [encode, lastValues_symbol (by omega), lastValues_symbol (by omega)]
      rfl
    have hfill : a.toNat % 4 * 16 % 16 = 0 := by omega
    simp only [UInt8.toNat_zero, Nat.zero_div, Nat.zero_mod, Nat.zero_mul, Nat.add_zero]
      at htriple
    simp [decodeLast, hvalues, hfill, htriple, bind, Except.bind, pure, Except.pure]
  | [a, b], _ =>
    have ha := a.toNat_lt
    have hb := b.toNat_lt
    have htriple := triple_eq a b 0
    have hvalues : lastValues start 0 (encode [a, b]) =
        .ok ([a.toNat / 4, a.toNat % 4 * 16 + b.toNat / 16, b.toNat % 16 * 4], 1) := by
      rw [encode, lastValues_symbol (by omega), lastValues_symbol (by omega),
        lastValues_symbol (by omega)]
      rfl
    have hfill : b.toNat % 16 * 4 % 4 = 0 := by omega
    simp only [UInt8.toNat_zero, Nat.zero_div, Nat.zero_mod, Nat.add_zero] at htriple
    simp [decodeLast, hvalues, hfill, htriple, bind, Except.bind, pure, Except.pure]
  | [a, b, c], _ =>
    have ha := a.toNat_lt
    have hb := b.toNat_lt
    have hc := c.toNat_lt
    have hvalues : lastValues start 0 (encode [a, b, c]) =
        .ok ([a.toNat / 4, a.toNat % 4 * 16 + b.toNat / 16, b.toNat % 16 * 4 + c.toNat / 64,
          c.toNat % 64], 0) := by
      rw [encode, lastValues_symbol (by omega), lastValues_symbol (by omega),
        lastValues_symbol (by omega), lastValues_symbol (by omega)]
      rfl
    simp [decodeLast, hvalues, triple_eq, bind, Except.bind, pure, Except.pure]

/-! ## Texts -/

/-- Bytes are written as full groups and a last one of four symbols. -/
theorem exists_groups {bytes : List UInt8} (h : bytes ≠ []) :
    ∃ front last, bytes = front ++ last ∧ front.length % 3 = 0 ∧ last ≠ [] ∧ last.length ≤ 3 ∧
      encode bytes = encode front ++ encode last ∧ (encode last).length = 4 ∧
      (encode front).length % 4 = 0 := by
  fun_induction encode bytes with
  | case1 a b c rest ih =>
    cases rest with
    | nil => exact ⟨[], [a, b, c], rfl, rfl, by simp, by simp, rfl, rfl, rfl⟩
    | cons d rest =>
      obtain ⟨front, last, hbytes, hfront, hlast, hlength, hencode, hfour, hwhole⟩ := ih (by simp)
      refine ⟨a :: b :: c :: front, last, by rw [hbytes]; rfl, ?_, hlast, hlength, ?_, hfour, ?_⟩
      · simp only [List.length_cons]
        omega
      · rw [hencode, encode]
        rfl
      · simp only [encode, List.length_cons]
        omega
  | case2 a b => exact ⟨[], [a, b], rfl, rfl, by simp, by simp, rfl, rfl, rfl⟩
  | case3 a => exact ⟨[], [a], rfl, rfl, by simp, by simp, rfl, rfl, rfl⟩
  | case4 => exact absurd rfl h

/-- Bytes come back from their written form. -/
theorem decode_encode (bytes : List UInt8) : decode (encode bytes) = .ok bytes := by
  by_cases hnil : bytes = []
  · rw [hnil]
    rfl
  · obtain ⟨front, last, hbytes, hfront, hlast, hlength, hencode, hfour, hwhole⟩ :=
      exists_groups hnil
    have hlen : (encode bytes).length = (encode front).length + 4 := by
      rw [hencode, List.length_append, hfour]
    have htake : (encode bytes).take (encode front).length = encode front := by
      rw [hencode, List.take_left]
    have hdrop : (encode bytes).drop (encode front).length = encode last := by
      rw [hencode, List.drop_left]
    have hzero : ¬ (encode front).length + 4 = 0 := by omega
    have hfull : ((encode front).length + 4) % 4 = 0 := by omega
    simp only [decode, hlen, hzero, hfull, Nat.zero_ne_one, if_true, if_false, Nat.add_sub_cancel,
      htake, hdrop, decodeFull_encode hfront, decodeLast_encode hlast hlength, bind, Except.bind,
      pure, Except.pure]
    rw [hbytes]

end CpuAlert.Base64
