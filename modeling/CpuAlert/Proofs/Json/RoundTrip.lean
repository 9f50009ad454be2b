import CpuAlert.Json.Decode

/-!
# What is written is read again

The text of a value without doubles, whose whole numbers have at most sixty-four
bits, is read as this value. What follows the text is left over, unless it goes
on like a number.

## Main definitions

* `Json.Value.IsExact` — the values that this holds for
* `Json.EndsNumber` — what may follow a number
* `Json.Value.IsRead` — a value is read as it was written

## Main results

* `Json.readText_flatMap_writeChar` — texts are read as they were written
* `Json.readDigits_toDigits` — and so are whole numbers
* `Json.Value.IsExact.isRead` — and so are values
* `Json.decodeText_write` — decoding the text of a value decodes the value
-/

namespace CpuAlert.Json

/-- The values without doubles, with whole numbers of sixty-four bits. -/
inductive Value.IsExact : Value → Prop
  | null : IsExact .null
  | bool (b : Bool) : IsExact (.bool b)
  | int {n : Int} (hlow : -0x8000000000000000 ≤ n) (hhigh : n ≤ 0xFFFFFFFFFFFFFFFF) :
    IsExact (.int n)
  | text (s : String) : IsExact (.text s)
  | array {items : List Value} (h : ∀ v ∈ items, IsExact v) : IsExact (.array items)
  | object {members : List (String × Value)} (h : ∀ m ∈ members, IsExact m.2) :
    IsExact (.object members)

/-! ## Texts -/

/-- The escape of a control is read as its number. -/
theorem hexQuad?_hexDigit {n : Nat} (hn : n < 0x20) :
    hexQuad? '0' '0' (hexDigit (n / 16)) (hexDigit (n % 16)) = some n := by
  have hall : ∀ k : Fin 0x20,
      hexQuad? '0' '0' (hexDigit (k / 16)) (hexDigit (k % 16)) = some k.val := by decide
  exact hall ⟨n, hn⟩

/-- A character is read as it was written. -/
theorem readText_writeChar (taken : List Char) (c : Char) (r : List Char) :
    readText (some taken) none (writeChar c ++ r) = readText (some (c :: taken)) none r := by
  by_cases hletter : c = '"' ∨ c = '\\' ∨ c = '\x08' ∨ c = '\x0c' ∨ c = '\n' ∨ c = '\r' ∨ c = '\t'
  · rcases hletter with rfl | rfl | rfl | rfl | rfl | rfl | rfl <;> rfl
  · simp only [not_or] at hletter
    obtain ⟨hquote, hbackslash, h8, h12, h10, h13, h9⟩ := hletter
    simp only [writeChar, hquote, hbackslash, h8, h12, h10, h13, h9, if_false]
    split
    · rename_i hcontrol
      -- a control is far below the surrogates
      have htrailing : ¬ (0xDC00 ≤ c.toNat ∧ c.toNat ≤ 0xDFFF) := by omega
      have hleading : ¬ (0xD800 ≤ c.toNat ∧ c.toNat ≤ 0xDBFF) := by omega
      simp only [List.cons_append, List.nil_append, readText, hexQuad?_hexDigit hcontrol,
        htrailing, hleading, if_false, Char.ofNat_toNat]
      rfl
    · rename_i hcontrol
      rw [List.cons_append, List.nil_append, readText]
      · rw [if_neg hcontrol]
        rfl
      · exact hquote
      · exact fun h _ => hbackslash h
      · exact fun _ _ _ _ _ h _ => hbackslash h
      · exact fun _ h _ => hbackslash h
      · exact fun _ _ h _ => hbackslash h

/-- A text is read as it was written, up to its closing quote. -/
theorem readText_flatMap_writeChar (cs taken r : List Char) :
    readText (some taken) none (cs.flatMap writeChar ++ '"' :: r) =
      (.text (some (String.ofList (taken.reverse ++ cs))), some r) := by
  induction cs generalizing taken with
  | nil => rw [List.append_nil]; rfl
  | cons c cs ih =>
    rw [List.flatMap_cons, List.append_assoc, readText_writeChar, ih, List.reverse_cons,
      List.append_assoc, List.singleton_append]

theorem readText_toList (s : String) (r : List Char) :
    readText (some []) none (s.toList.flatMap writeChar ++ '"' :: r) =
      (.text (some s), some r) := by
  rw [readText_flatMap_writeChar, List.reverse_nil, List.nil_append, String.ofList_toList]

/-! ## Whole numbers -/

/-- What may follow a number: nothing that goes on like one. -/
def EndsNumber : List Char → Prop
  | [] => True
  | c :: _ => c.isDigit = false ∧ c ≠ '.' ∧ c ≠ 'e' ∧ c ≠ 'E'

theorem takeWhile_isDigit_append {ds r : List Char} (hds : ∀ d ∈ ds, d.isDigit)
    (hr : EndsNumber r) : (ds ++ r).takeWhile Char.isDigit = ds := by
  rw [List.takeWhile_append_of_pos hds]
  cases r with
  | nil => exact List.append_nil ds
  | cons c r => rw [List.takeWhile_cons_of_neg (by simp [hr.1]), List.append_nil]

theorem dropWhile_isDigit_append {ds r : List Char} (hds : ∀ d ∈ ds, d.isDigit)
    (hr : EndsNumber r) : (ds ++ r).dropWhile Char.isDigit = r := by
  rw [List.dropWhile_append_of_pos hds]
  cases r with
  | nil => rfl
  | cons c r => exact List.dropWhile_cons_of_neg (by simp [hr.1])

/-- Digits are appended as long as there is room for them. -/
theorem appendDigits_eq {m : Nat} {ds : List Char}
    (hle : Nat.ofDigitChars 10 ds m ≤ maxSignificand) :
    appendDigits m ds = (Nat.ofDigitChars 10 ds m, 0) := by
  induction ds generalizing m with
  | nil => rw [Nat.ofDigitChars_nil]; rfl
  | cons d ds ih =>
    rw [Nat.ofDigitChars_cons] at hle ⊢
    -- the number only grows, so it fits if the whole one does
    have hgrows : 10 * m + (d.toNat - '0'.toNat) ≤
        Nat.ofDigitChars 10 ds (10 * m + (d.toNat - '0'.toNat)) := by
      rw [Nat.ofDigitChars_eq_ofDigitChars_zero]
      exact Nat.le_add_right_of_le (Nat.le_mul_of_pos_left _ (Nat.pow_pos (by decide)))
    have hroom : 10 * m + (d.toNat - 48) ≤ maxSignificand := Nat.le_trans hgrows hle
    rw [appendDigits]
    simp only [hroom, if_true]
    exact ih hle

/-- Only zero is written with a zero in front. -/
theorem eq_zero_of_head?_toDigits {n : Nat} (h : (Nat.toDigits 10 n).head? = some '0') :
    n = 0 := by
  -- along the digits in front of the last one
  induction n using Nat.strongRecOn with
  | ind n ih =>
    by_cases hn : n < 10
    · have hall : ∀ k : Fin 10, some k.val.digitChar = some '0' → k.val = 0 := by decide
      rw [Nat.toDigits_of_lt_base hn] at h
      exact hall ⟨n, hn⟩ h
    · have hfirst : (Nat.toDigits 10 (n / 10)).head? = some '0' := by
        have hne : Nat.toDigits 10 (n / 10) ≠ [] := Nat.toDigits_ne_nil
        obtain ⟨d, ds, hd⟩ := List.exists_cons_of_ne_nil hne
        rw [Nat.toDigits_of_base_le (by decide) (Nat.le_of_not_lt hn), hd] at h
        exact hd ▸ h
      have hzero := ih (n / 10) (Nat.div_lt_self (by omega) (by decide)) hfirst
      omega

/-- The digits of a number that can be kept are read as this number. -/
theorem readDigits_toDigits (negative : Bool) {n : Nat} (hn : n ≤ maxSignificand)
    {r : List Char} (hr : EndsNumber r) :
    readDigits negative (Nat.toDigits 10 n ++ r) = (signedWhole negative n, some r) := by
  have hds : ∀ d ∈ Nat.toDigits 10 n, d.isDigit := fun d hd =>
    Nat.isDigit_of_mem_toDigits (by decide) (by decide) hd
  have hempty : (Nat.toDigits 10 n).isEmpty = false := by simp
  have hzero : ¬ ((Nat.toDigits 10 n).head? = some '0' ∧ 1 < (Nat.toDigits 10 n).length) := by
    rintro ⟨hhead, hlength⟩
    rw [eq_zero_of_head?_toDigits hhead, Nat.toDigits_zero] at hlength
    exact absurd hlength (by decide)
  have happend : appendDigits 0 (Nat.toDigits 10 n) = (n, 0) := by
    rw [appendDigits_eq] <;> rw [Nat.ofDigitChars_ten_toDigits]
    exact hn
  simp only [readDigits, takeWhile_isDigit_append hds hr, dropWhile_isDigit_append hds hr, hempty,
    hzero, happend, Bool.false_eq_true, if_false]
  split
  · exact absurd rfl hr.2.1
  · exact absurd rfl hr.2.2.1
  · exact absurd rfl hr.2.2.2
  · rfl

/-! ## Values -/

/-- A value is read as it was written, and its text begins like no end of a
list. -/
structure Value.IsRead (v : Value) : Prop where
  begins : ∃ c r, v.chars = c :: r ∧ isJsonBlank c = false ∧ c ≠ ']'
  reads (fuel : Nat) (r : List Char) (hfuel : v.chars.length ≤ fuel) (hr : EndsNumber r) :
    readValue fuel (v.chars ++ r) = (.ofValue v, some r)

theorem skipBlanks_cons {c : Char} (hc : isJsonBlank c = false) (r : List Char) :
    skipBlanks (c :: r) = c :: r := by
  rw [skipBlanks, List.dropWhile_cons_of_neg (by simp [hc])]

/-- A value that is no container is read from its first character on. -/
theorem readValue_scalar {c : Char} (hc : isJsonBlank c = false) (hbracket : c ≠ '[')
    (hbrace : c ≠ '\x7b') (fuel : Nat) (r : List Char) :
    readValue (fuel + 1) (c :: r) = readScalar c r := by
  rw [readValue, skipBlanks_cons hc]
  split
  · rename_i hnil
    cases hnil
  · rename_i hcons
    exact absurd (List.cons.inj hcons).1 hbracket
  · rename_i hcons
    exact absurd (List.cons.inj hcons).1 hbrace
  · rename_i hcons
    cases hcons
    rfl

namespace Value

/-- What is no container is read if it is as a scalar. -/
theorem isRead_of_scalar {v : Value} {c : Char} {cs : List Char} (hchars : v.chars = c :: cs)
    (hc : isJsonBlank c = false) (hlist : c ≠ ']') (hbracket : c ≠ '[') (hbrace : c ≠ '\x7b')
    (h : ∀ r, EndsNumber r → readScalar c (cs ++ r) = (.ofValue v, some r)) : v.IsRead where
  begins := ⟨c, cs, hchars, hc, hlist⟩
  reads fuel r hfuel hr := by
    rw [hchars] at hfuel ⊢
    cases fuel with
    | zero => exact absurd hfuel (Nat.not_succ_le_zero _)
    | succ fuel =>
      rw [List.cons_append, readValue_scalar hc hbracket hbrace]
      exact h r hr

theorem isRead_null : IsRead .null :=
  isRead_of_scalar rfl rfl (by decide) (by decide) (by decide) fun _ _ => rfl

theorem isRead_bool (b : Bool) : IsRead (.bool b) := by
  cases b with
  | false => exact isRead_of_scalar rfl rfl (by decide) (by decide) (by decide) fun _ _ => rfl
  | true => exact isRead_of_scalar rfl rfl (by decide) (by decide) (by decide) fun _ _ => rfl

theorem isRead_text (s : String) : IsRead (.text s) := by
  refine isRead_of_scalar rfl rfl (by decide) (by decide) (by decide) fun r _ => ?_
  show readText _ _ (s.toList.flatMap writeChar ++ ['"'] ++ r) = _
  rw [List.append_assoc]
  exact readText_toList s r

theorem chars_ofNat (n : Nat) : (int n).chars = Nat.toDigits 10 n := Nat.toList_repr

theorem chars_negSucc (n : Nat) : (int (.negSucc n)).chars = '-' :: Nat.toDigits 10 (n + 1) := by
  show ("-" ++ (n + 1).repr).toList = _
  rw [String.toList_append, Nat.toList_repr]
  rfl

theorem isRead_ofNat {n : Nat} (hn : n ≤ maxSignificand) : IsRead (.int n) := by
  obtain ⟨c, cs, hcs⟩ := List.exists_cons_of_ne_nil (Nat.toDigits_ne_nil (n := n) (b := 10))
  have hdigit : c.isDigit := Nat.isDigit_of_mem_toDigits (by decide) (by decide)
    (hcs ▸ List.mem_cons_self : c ∈ Nat.toDigits 10 n)
  -- so it is none of the characters that begin something else
  have hne {d : Char} (hd : d.isDigit = false) : c ≠ d := by
    rintro rfl
    cases hd.symm.trans hdigit
  have hc : isJsonBlank c = false := by
    simp [isJsonBlank, hne (d := ' ') rfl, hne (d := '\n') rfl, hne (d := '\t') rfl,
      hne (d := '\r') rfl]
  refine isRead_of_scalar ((chars_ofNat n).trans hcs) hc (hne rfl) (hne rfl) (hne rfl)
    fun r hr => ?_
  have hread := readDigits_toDigits false hn hr
  rw [hcs, List.cons_append] at hread
  simp only [readScalar, hne (d := '"') rfl, hne (d := 'n') rfl, hne (d := 't') rfl,
    hne (d := 'f') rfl, hne (d := '-') rfl, hdigit, if_false, if_true]
  exact hread

theorem isRead_negSucc {n : Nat} (hn : n < 0x8000000000000000) : IsRead (.int (.negSucc n)) := by
  refine isRead_of_scalar (chars_negSucc n) rfl (by decide) (by decide) (by decide) fun r hr => ?_
  have hkept : n + 1 ≤ maxSignificand := by simp only [maxSignificand]; omega
  show readDigits true (Nat.toDigits 10 (n + 1) ++ r) = _
  rw [readDigits_toDigits true hkept hr]
  have hwhole : ¬ (n + 1 = 0 ∨ 0x8000000000000000 < n + 1) := by omega
  simp only [signedWhole, hwhole, Bool.not_true, Bool.false_eq_true, if_false]
  rfl

/-- A whole number of sixty-four bits is read, with a sign or without. -/
theorem isRead_int {n : Int} (hlow : -0x8000000000000000 ≤ n) (hhigh : n ≤ 0xFFFFFFFFFFFFFFFF) :
    IsRead (.int n) := by
  cases n with
  | ofNat n => exact isRead_ofNat (Int.ofNat_le.mp hhigh)
  | negSucc n => exact isRead_negSucc (by omega)

/-! ### Containers -/

/-- A comma stands between items. -/
theorem itemChars_cons (v : Value) {vs : List Value} (hvs : vs ≠ []) :
    itemChars (v :: vs) = v.chars ++ ',' :: itemChars vs := by
  rw [itemChars]
  exact hvs

/-- The items of an array are read one after the other. -/
theorem readItems_itemChars {items : List Value} (hne : items ≠ [])
    (h : ∀ v ∈ items, v.IsRead) {fuel : Nat} (hfuel : (itemChars items).length ≤ fuel)
    (r : List Char) :
    readItems fuel (itemChars items ++ r) = (Doc.ofItems items, none, some r) := by
  induction items generalizing fuel with
  | nil => exact absurd rfl hne
  | cons v vs ih =>
    obtain ⟨hv, hvs⟩ := List.forall_mem_cons.mp h
    by_cases hlast : vs = []
    · subst hlast
      rw [itemChars, List.length_append, List.length_singleton] at hfuel
      obtain ⟨fuel, rfl⟩ : ∃ n, fuel = n + 1 := ⟨fuel - 1, by omega⟩
      have hread := hv.reads fuel (']' :: r) (by omega)
        ⟨rfl, by decide, by decide, by decide⟩
      rw [itemChars, List.append_assoc, List.singleton_append, readItems, hread]
      simp only [skipBlanks_cons (c := ']') rfl]
      rfl
    · rw [itemChars_cons v hlast, List.length_append, List.length_cons] at hfuel
      obtain ⟨fuel, rfl⟩ : ∃ n, fuel = n + 1 := ⟨fuel - 1, by omega⟩
      have hread := hv.reads fuel (',' :: (itemChars vs ++ r)) (by omega)
        ⟨rfl, by decide, by decide, by decide⟩
      have hrest := ih hlast hvs (show (itemChars vs).length ≤ fuel by omega)
      rw [itemChars_cons v hlast, List.append_assoc, List.cons_append, readItems, hread]
      simp only [skipBlanks_cons (c := ',') rfl, hrest]
      rfl

theorem isRead_array {items : List Value} (h : ∀ v ∈ items, v.IsRead) :
    IsRead (.array items) where
  begins := ⟨'[', itemChars items, rfl, rfl, by decide⟩
  reads fuel r hfuel _ := by
    rw [chars, List.length_cons] at hfuel
    obtain ⟨fuel, rfl⟩ : ∃ n, fuel = n + 1 := ⟨fuel - 1, by omega⟩
    rw [chars, List.cons_append, readValue, skipBlanks_cons (c := '[') rfl]
    by_cases hne : items = []
    · subst hne
      rfl
    · have hitems := readItems_itemChars hne h (Nat.le_of_succ_le_succ hfuel) r
      -- the first item begins neither with a blank nor with the closing bracket
      obtain ⟨c, cs, hcs, hc, hlist⟩ : ∃ c cs, itemChars items = c :: cs ∧
          isJsonBlank c = false ∧ c ≠ ']' := by
        obtain ⟨v, vs, rfl⟩ := List.exists_cons_of_ne_nil hne
        obtain ⟨c, cs, hcs, hbegins⟩ := (h v List.mem_cons_self).begins
        by_cases hlast : vs = []
        · exact ⟨c, cs ++ [']'], by rw [hlast, itemChars, hcs]; rfl, hbegins⟩
        · exact ⟨c, cs ++ ',' :: itemChars vs, by rw [itemChars_cons v hlast, hcs]; rfl, hbegins⟩
      rw [hcs, List.cons_append] at hitems ⊢
      simp only [skipBlanks_cons hc]
      split
      · rename_i hclose
        exact absurd (List.cons.inj hclose).1 hlist
      · rw [hitems]
        rfl

/-- The name of a member is read as it was written. -/
theorem readKey_writeText (s : String) (r : List Char) :
    ∃ cs, writeText s ++ r = '"' :: cs ∧ readKey '"' cs = (.text (some s), some r) := by
  refine ⟨s.toList.flatMap writeChar ++ '"' :: r, ?_, ?_⟩
  · rw [writeText, List.append_assoc, List.cons_append, List.singleton_append]
  · simp only [readKey, if_true, readText_toList]

/-- A comma stands between members. -/
theorem memberChars_cons (k : String) (v : Value) {ms : List (String × Value)} (hms : ms ≠ []) :
    memberChars ((k, v) :: ms) = writeText k ++ ':' :: v.chars ++ ',' :: memberChars ms := by
  rw [memberChars]
  exact hms

/-- The members of an object are read one after the other. -/
theorem readMembers_memberChars {members : List (String × Value)} (hne : members ≠ [])
    (h : ∀ m ∈ members, m.2.IsRead) {fuel : Nat} (hfuel : (memberChars members).length ≤ fuel)
    (r : List Char) :
    readMembers fuel (memberChars members ++ r) = (Doc.ofMembers members, none, some r) := by
  induction members generalizing fuel with
  | nil => exact absurd rfl hne
  | cons m ms ih =>
    obtain ⟨k, v⟩ := m
    obtain ⟨hv, hms⟩ : v.IsRead ∧ ∀ m ∈ ms, m.2.IsRead := List.forall_mem_cons.mp h
    by_cases hlast : ms = []
    · subst hlast
      rw [memberChars, List.length_append, List.length_append, List.length_cons,
        List.length_singleton] at hfuel
      obtain ⟨fuel, rfl⟩ : ∃ n, fuel = n + 1 := ⟨fuel - 1, by omega⟩
      have hread := hv.reads fuel ('\x7d' :: r) (by omega)
        ⟨rfl, by decide, by decide, by decide⟩
      obtain ⟨cs, hcs, hkey⟩ := readKey_writeText k (':' :: (v.chars ++ '\x7d' :: r))
      rw [memberChars, List.append_assoc, List.append_assoc, List.cons_append,
        List.singleton_append, hcs, readMembers, skipBlanks_cons (c := '"') rfl]
      simp only [hkey, skipBlanks_cons (c := ':') rfl, hread, skipBlanks_cons (c := '\x7d') rfl]
      rfl
    · rw [memberChars_cons k v hlast, List.length_append, List.length_append, List.length_cons,
        List.length_cons] at hfuel
      obtain ⟨fuel, rfl⟩ : ∃ n, fuel = n + 1 := ⟨fuel - 1, by omega⟩
      have hread := hv.reads fuel (',' :: (memberChars ms ++ r)) (by omega)
        ⟨rfl, by decide, by decide, by decide⟩
      have hrest := ih hlast hms (show (memberChars ms).length ≤ fuel by omega)
      obtain ⟨cs, hcs, hkey⟩ :=
        readKey_writeText k (':' :: (v.chars ++ ',' :: (memberChars ms ++ r)))
      rw [memberChars_cons k v hlast, List.append_assoc, List.append_assoc, List.cons_append,
        List.cons_append, hcs, readMembers, skipBlanks_cons (c := '"') rfl]
      simp only [hkey, skipBlanks_cons (c := ':') rfl, hread, skipBlanks_cons (c := ',') rfl, hrest]
      rfl

theorem isRead_object {members : List (String × Value)} (h : ∀ m ∈ members, m.2.IsRead) :
    IsRead (.object members) where
  begins := ⟨'\x7b', memberChars members, rfl, rfl, by decide⟩
  reads fuel r hfuel _ := by
    rw [chars, List.length_cons] at hfuel
    obtain ⟨fuel, rfl⟩ : ∃ n, fuel = n + 1 := ⟨fuel - 1, by omega⟩
    rw [chars, List.cons_append, readValue, skipBlanks_cons (c := '\x7b') rfl]
    by_cases hne : members = []
    · subst hne
      rfl
    · have hmembers := readMembers_memberChars hne h (Nat.le_of_succ_le_succ hfuel) r
      -- the first member begins with the quote of its name
      obtain ⟨cs, hcs⟩ : ∃ cs, memberChars members = '"' :: cs := by
        obtain ⟨⟨k, v⟩, ms, rfl⟩ := List.exists_cons_of_ne_nil hne
        by_cases hlast : ms = []
        · exact ⟨_, by rw [hlast, memberChars]; rfl⟩
        · exact ⟨_, by rw [memberChars_cons k v hlast]; rfl⟩
      rw [hcs, List.cons_append] at hmembers ⊢
      simp only [skipBlanks_cons (c := '"') rfl]
      split
      · rename_i hclose
        exact absurd (List.cons.inj hclose).1 (by decide)
      · rw [hmembers]
        rfl

/-- A value without doubles, with whole numbers of sixty-four bits, is read as it
was written. -/
theorem IsExact.isRead {v : Value} (hv : v.IsExact) : v.IsRead := by
  induction hv with
  | null => exact isRead_null
  | bool b => exact isRead_bool b
  | int hlow hhigh => exact isRead_int hlow hhigh
  | text s => exact isRead_text s
  | array _ ih => exact isRead_array ih
  | object _ ih => exact isRead_object ih

end Value

/-! ## Decoding -/

/-- Decoding the text of a value decodes the value. -/
theorem decodeText_write {α : Type} {v : Value} (hv : v.IsExact) (decode : Decoder α) :
    decodeText decode v.write = decode (.ofValue v) := by
  have hread : Doc.read v.chars = (.ofValue v, some []) := by
    have hwhole := hv.isRead.reads (2 * v.chars.length + 1) [] (by omega) trivial
    rwa [List.append_nil] at hwhole
  simp only [decodeText, Value.write, String.toList_ofList, hread]
  cases decode (.ofValue v) <;> rfl

/-- A natural number of so many bits is decoded. -/
theorem Decoder.natural_ofValue {bits n : Nat} (hn : n < Nat.pow 2 bits) :
    Decoder.natural bits (.ofValue (.int n)) = .ok n := by
  have hrange : 0 ≤ (n : Int) ∧ (n : Int) ≤ ((Nat.pow 2 bits - 1 : Nat) : Int) :=
    ⟨Int.natCast_nonneg n, Int.ofNat_le.mpr (Nat.le_sub_one_of_lt hn)⟩
  simp only [Doc.ofValue, Decoder.natural, Decoder.whole, hrange, and_self, if_true, Except.map,
    Int.toNat_natCast]

/-- A list is decoded if its items are. -/
theorem Decoder.list_ofItems {α : Type} {decode : Decoder α} {f : α → Value} {as : List α}
    (h : ∀ a ∈ as, decode (.ofValue (f a)) = .ok a) :
    Decoder.list decode (.ofValue (.array (as.map f))) = .ok as := by
  have hitems : Decoder.items decode (Doc.ofItems (as.map f)) = .ok as := by
    induction as with
    | nil => rfl
    | cons a as ih =>
      obtain ⟨ha, has⟩ := List.forall_mem_cons.mp h
      rw [List.map_cons, Doc.ofItems, Decoder.items, ha, ih has]
      rfl
  rw [Doc.ofValue, Decoder.list, hitems]
  rfl

/-- The text of a list is decoded if its items are. -/
theorem decodeText_write_array {α : Type} {decode : Decoder α} {f : α → Value} {as : List α}
    (hexact : ∀ a ∈ as, (f a).IsExact) (h : ∀ a ∈ as, decode (.ofValue (f a)) = .ok a) :
    decodeText (Decoder.list decode) (Value.array (as.map f)).write = .ok as := by
  rw [decodeText_write (.array (List.forall_mem_map.mpr hexact)), Decoder.list_ofItems h]

end CpuAlert.Json
