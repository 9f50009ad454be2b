import CpuAlert.Proofs.Secret.Base64

/-!
# Base sixty-four is read strictly

Whatever is read, is read from its only written form: full groups stand for
three bytes each, and what the padding of the last group stands for is zero. So
reading and writing undo each other in both directions, and two texts that stand
for the same bytes are the same text.

## Main results

* `Base64.eq_symbol_of_value?` — only symbols have a value
* `Base64.eq_encode_of_decodeFull`, `Base64.eq_encode_of_decodeLast` — full
  groups and the last one
* `Base64.decode_eq_ok_iff` — a text that is read is the written form of its
  bytes
-/

namespace CpuAlert.Base64

/-! ## Steps that succeed -/

section

variable {ε α β : Type} {b : β}

/-- A sequence succeeds if its first part does and then its second. -/
theorem exists_of_bind_eq_ok {x : Except ε α} {f : α → Except ε β} (h : x >>= f = .ok b) :
    ∃ a, x = .ok a ∧ f a = .ok b := by
  cases x with
  | error e => cases h
  | ok a => exact ⟨a, rfl, h⟩

/-- What succeeds behind a check has passed it. -/
theorem of_check_eq_ok {c : Prop} [Decidable c] {e : ε} {f : PUnit → Except ε β}
    {x : Except ε β} (h : (if c then throw e >>= f else x) = .ok b) : ¬ c ∧ x = .ok b := by
  split at h
  · cases h
  · exact ⟨‹_›, h⟩

end

/-! ## Symbols -/

/-- Only symbols have a value, and every value one symbol. -/
theorem eq_symbol_of_value? {b : UInt8} {n : Nat} (h : value? b = some n) :
    n < 64 ∧ b = symbol n := by
  have hall : ∀ i < 256, ∀ n ∈ value? (.ofNat i), n < 64 ∧ UInt8.ofNat i = symbol n := by
    decide +kernel
  have hb := hall b.toNat b.toNat_lt n
  rw [UInt8.ofNat_toNat] at hb
  exact hb h

theorem eq_symbol_of_valueAt {b : UInt8} {offset n : Nat} (h : valueAt b offset = .ok n) :
    n < 64 ∧ b = symbol n := by
  rw [valueAt] at h
  split at h
  · rename_i hvalue
    exact eq_symbol_of_value? (Except.ok.inj h ▸ hvalue)
  · cases h

/-! ## Full groups -/

/-- Four values are written as their symbols again. -/
theorem encode_triple {p q r s : Nat} (hp : p < 64) (hq : q < 64) (hr : r < 64) (hs : s < 64)
    (rest : List UInt8) :
    encode (triple p q r s ++ rest) =
      symbol p :: symbol q :: symbol r :: symbol s :: encode rest := by
  have hfirst : (p * 4 + q / 16) % 256 / 4 = p := by omega
  have hsecond : (p * 4 + q / 16) % 256 % 4 * 16 + (q % 16 * 16 + r / 4) % 256 / 16 = q := by omega
  have hthird : (q % 16 * 16 + r / 4) % 256 % 16 * 4 + (r % 4 * 64 + s) % 256 / 64 = r := by omega
  have hfourth : (r % 4 * 64 + s) % 256 % 64 = s := by omega
  simp only [triple, List.cons_append, List.nil_append, encode, UInt8.toNat_ofNat', hfirst,
    hsecond, hthird, hfourth]

/-- Groups that are read are the written form of their bytes. -/
theorem eq_encode_of_decodeFull {offset : Nat} {text bytes : List UInt8}
    (h : decodeFull offset text = .ok bytes) (hlength : text.length % 4 = 0) :
    text = encode bytes ∧ bytes.length % 3 = 0 := by
  fun_induction decodeFull offset text generalizing bytes with
  | case1 offset a b c d rest ih =>
    obtain ⟨p, hp, h⟩ := exists_of_bind_eq_ok h
    obtain ⟨q, hq, h⟩ := exists_of_bind_eq_ok h
    obtain ⟨r, hr, h⟩ := exists_of_bind_eq_ok h
    obtain ⟨s, hs, h⟩ := exists_of_bind_eq_ok h
    obtain ⟨bytes', hrest, h⟩ := exists_of_bind_eq_ok h
    obtain ⟨hp, ha⟩ := eq_symbol_of_valueAt hp
    obtain ⟨hq, hb⟩ := eq_symbol_of_valueAt hq
    obtain ⟨hr, hc⟩ := eq_symbol_of_valueAt hr
    obtain ⟨hs, hd⟩ := eq_symbol_of_valueAt hs
    simp only [List.length_cons] at hlength
    obtain ⟨htext, hthree⟩ := ih hrest (by omega)
    rw [← Except.ok.inj h, encode_triple hp hq hr hs, ← htext, ha, hb, hc, hd]
    refine ⟨rfl, ?_⟩
    rw [List.length_append]
    simp only [triple, List.length_cons, List.length_nil]
    omega
  | case2 text offset hshort =>
    -- fewer than four bytes in full groups are none
    have hnil : text = [] := by
      rcases text with _ | ⟨a, _ | ⟨b, _ | ⟨c, _ | ⟨d, rest⟩⟩⟩⟩
      · rfl
      · simp at hlength
      · simp at hlength
      · simp at hlength
      · exact (hshort a b c d rest rfl).elim
    rw [hnil, ← Except.ok.inj h]
    exact ⟨rfl, rfl⟩

/-! ## The last group -/

/-- A last group that is read consists of symbols and its padding. -/
theorem eq_of_lastValues {start index pads : Nat} {group : List UInt8} {values : List Nat}
    (h : lastValues start index group = .ok (values, pads)) :
    group = values.map symbol ++ List.replicate pads padding ∧ ∀ v ∈ values, v < 64 := by
  induction group generalizing index values with
  | nil =>
    obtain ⟨rfl, rfl⟩ := Prod.mk.inj (Except.ok.inj h)
    simp
  | cons b rest ih =>
    rw [lastValues] at h
    split at h
    · -- from here on there is only padding
      rename_i hb
      obtain ⟨-, h⟩ := of_check_eq_ok h
      obtain ⟨hall, h⟩ := of_check_eq_ok h
      obtain ⟨rfl, rfl⟩ := Prod.mk.inj (Except.ok.inj h)
      have hrest : rest = List.replicate rest.length padding := by
        apply List.eq_replicate_of_mem
        intro c hc
        apply Decidable.byContradiction
        intro hne
        exact hall (List.any_eq_true.mpr ⟨c, hc, by simpa using hne⟩)
      refine ⟨?_, by simp⟩
      rw [List.map_nil, List.nil_append, List.replicate_succ, ← hrest, hb]
    · obtain ⟨v, hv, h⟩ := exists_of_bind_eq_ok h
      obtain ⟨⟨values', pads'⟩, hrest, h⟩ := exists_of_bind_eq_ok h
      obtain ⟨rfl, rfl⟩ := Prod.mk.inj (Except.ok.inj h)
      obtain ⟨hsmall, hb⟩ := eq_symbol_of_valueAt hv
      obtain ⟨hgroup, hvalues⟩ := ih hrest
      exact ⟨by rw [hb, hgroup]; rfl, List.forall_mem_cons.mpr ⟨hsmall, hvalues⟩⟩

/-- A last group that is read is the written form of its bytes. -/
theorem eq_encode_of_decodeLast {start : Nat} {group last : List UInt8}
    (h : decodeLast start group = .ok last) (hlength : group.length ≤ 4) :
    group = encode last := by
  unfold decodeLast at h
  obtain ⟨⟨values, pads⟩, hvalues, h⟩ := exists_of_bind_eq_ok h
  obtain ⟨hgroup, hsmall⟩ := eq_of_lastValues hvalues
  obtain ⟨htwo, h⟩ := of_check_eq_ok h
  obtain ⟨hfour, h⟩ := of_check_eq_ok h
  have hcount : values.length + pads = 4 := by
    have hle : values.length + pads ≤ 4 := by simpa [hgroup] using hlength
    omega
  match values, hsmall with
  | [p, q], hsmall =>
    obtain ⟨hzero, h⟩ := of_check_eq_ok h
    obtain rfl : pads = 2 := by
      simp only [List.length_cons, List.length_nil] at hcount
      omega
    obtain ⟨hp, hq, -⟩ : p < 64 ∧ q < 64 ∧ True := by simpa using hsmall
    have hfirst : (p * 4 + q / 16) % 256 / 4 = p := by omega
    have hsecond : (p * 4 + q / 16) % 256 % 4 * 16 = q := by omega
    rw [hgroup, ← Except.ok.inj h]
    simp only [triple, List.take, encode, UInt8.toNat_ofNat', hfirst, hsecond]
    rfl
  | [p, q, r], hsmall =>
    obtain ⟨hzero, h⟩ := of_check_eq_ok h
    obtain rfl : pads = 1 := by
      simp only [List.length_cons, List.length_nil] at hcount
      omega
    obtain ⟨hp, hq, hr⟩ : p < 64 ∧ q < 64 ∧ r < 64 := by simpa using hsmall
    have hfirst : (p * 4 + q / 16) % 256 / 4 = p := by omega
    have hsecond : (p * 4 + q / 16) % 256 % 4 * 16 + (q % 16 * 16 + r / 4) % 256 / 16 = q := by
      omega
    have hthird : (q % 16 * 16 + r / 4) % 256 % 16 * 4 = r := by omega
    rw [hgroup, ← Except.ok.inj h]
    simp only [triple, List.take, encode, UInt8.toNat_ofNat', hfirst, hsecond, hthird]
    rfl
  | [p, q, r, s], hsmall =>
    obtain rfl : pads = 0 := by simpa using hcount
    obtain ⟨hp, hq, hr, hs⟩ : p < 64 ∧ q < 64 ∧ r < 64 ∧ s < 64 := by simpa using hsmall
    rw [hgroup, ← Except.ok.inj h]
    simpa [encode] using (encode_triple hp hq hr hs []).symm
  | [], _ => simp at htwo
  | [_], _ => simp at htwo
  | _ :: _ :: _ :: _ :: _ :: _, _ =>
    simp only [List.length_cons] at hcount
    omega

/-! ## Texts -/

/-- Full groups are written before what follows them. -/
theorem encode_append {front : List UInt8} (h : front.length % 3 = 0) (last : List UInt8) :
    encode (front ++ last) = encode front ++ encode last := by
  fun_induction encode front with
  | case1 a b c front ih =>
    simp only [List.length_cons] at h
    simp only [List.cons_append, encode, ih (by omega)]
  | case2 a b => simp at h
  | case3 a => simp at h
  | case4 => rfl

/-- A text that is read falls into full groups and a last one. -/
theorem exists_of_decode {text bytes : List UInt8} (h : decode text = .ok bytes)
    (hne : text ≠ []) :
    ∃ start body last, start % 4 = 0 ∧ start ≤ text.length ∧ text.length ≤ start + 4 ∧
      decodeFull 0 (text.take start) = .ok body ∧ decodeLast start (text.drop start) = .ok last ∧
      bytes = body ++ last := by
  have hpos : 0 < text.length := List.length_pos_iff.mpr hne
  -- the check of a single byte at the end comes first and changes nothing
  suffices hparts : ∀ start, start = (if text.length % 4 = 0 then text.length - 4
      else text.length - text.length % 4) →
      (do
        let body ← decodeFull 0 (text.take start)
        let last ← decodeLast start (text.drop start)
        pure (body ++ last)) = Except.ok bytes → _ by
    unfold decode at h
    dsimp only at h
    rw [if_neg (by omega)] at h
    split at h
    · exact hparts _ rfl (of_check_eq_ok h).2
    · exact hparts _ rfl h
  intro start hstart hread
  obtain ⟨body, hbody, hread⟩ := exists_of_bind_eq_ok hread
  obtain ⟨last, hlast, hread⟩ := exists_of_bind_eq_ok hread
  have hbounds : start % 4 = 0 ∧ start ≤ text.length ∧ text.length ≤ start + 4 := by
    split at hstart <;> omega
  obtain ⟨hfour, hle, hlong⟩ := hbounds
  exact ⟨start, body, last, hfour, hle, hlong, hbody, hlast, (Except.ok.inj hread).symm⟩

/-- A text that is read is the written form of its bytes. -/
theorem eq_encode_of_decode {text bytes : List UInt8} (h : decode text = .ok bytes) :
    text = encode bytes := by
  by_cases hnil : text = []
  · subst hnil
    rw [← Except.ok.inj h]
    rfl
  · obtain ⟨start, body, last, hfour, hle, hlong, hbody, hlast, rfl⟩ := exists_of_decode h hnil
    have hfront : (text.take start).length % 4 = 0 := by
      rw [List.length_take, Nat.min_eq_left hle]
      exact hfour
    have hrest : (text.drop start).length ≤ 4 := by
      rw [List.length_drop]
      omega
    obtain ⟨htake, hthree⟩ := eq_encode_of_decodeFull hbody hfront
    have hdrop := eq_encode_of_decodeLast hlast hrest
    calc
      text = text.take start ++ text.drop start := (List.take_append_drop start text).symm
      _ = encode body ++ encode last := by rw [← htake, ← hdrop]
      _ = encode (body ++ last) := (encode_append hthree last).symm

/-- Bytes are read from their written form and from nothing else. -/
theorem decode_eq_ok_iff {text bytes : List UInt8} :
    decode text = .ok bytes ↔ text = encode bytes := by
  constructor
  · exact eq_encode_of_decode
  · rintro rfl
    exact decode_encode bytes

end CpuAlert.Base64
