/-!
# Blank space

Every text that a person or another program supplies (tokens, addresses, chat
ids, environment variables) is trimmed before it is used. What counts as blank
is the White_Space property, which is wider than the ASCII blanks and does not
hold of the zero-width characters.

## Main definitions

* `Text.isBlank` — the White_Space property
* `Text.trimList` / `Text.trim` — a text without its outer blanks
* `Text.nonBlank?` — the trimmed text, if anything is left of it

## Main results

* `Text.trimList_eq_self_iff` — a text is its own trimming exactly if it neither
  begins nor ends with a blank
* `Text.trim_trim` — a trimmed text has nothing left to trim
-/

namespace CpuAlert.Text

/-- The White_Space property: the controls from tab to carriage return, the
space, next-line, the no-break space, and the spaces and line ends of general
punctuation and of the wide scripts. -/
def isBlank (c : Char) : Bool :=
  let n := c.toNat
  (9 ≤ n && n ≤ 13) || n == 0x20 || n == 0x85 || n == 0xA0 || n == 0x1680
    || (0x2000 ≤ n && n ≤ 0x200A) || n == 0x2028 || n == 0x2029 || n == 0x202F
    || n == 0x205F || n == 0x3000

/-- The characters of a text from the first that is not blank. -/
def trimStartList (cs : List Char) : List Char := cs.dropWhile isBlank

/-- The characters of a text up to the last that is not blank. -/
def trimEndList (cs : List Char) : List Char := (cs.reverse.dropWhile isBlank).reverse

/-- The characters of a text without the blanks at either end. -/
def trimList (cs : List Char) : List Char := trimEndList (trimStartList cs)

/-- A text without the blanks at either end. -/
def trim (s : String) : String := String.ofList (trimList s.toList)

/-- The trimmed text, unless nothing is left of it. -/
def nonBlank? (s : String) : Option String :=
  if trim s = "" then none else some (trim s)

@[simp] theorem toList_trim (s : String) : (trim s).toList = trimList s.toList := by
  simp [trim]

@[simp] theorem trimList_nil : trimList [] = [] := rfl

theorem dropWhile_isBlank_eq_self_iff {cs : List Char} :
    cs.dropWhile isBlank = cs ↔ ∀ c ∈ cs.head?, isBlank c = false := by
  cases cs with
  | nil => simp
  | cons c cs =>
    cases hc : isBlank c with
    | false => simp [hc]
    | true =>
      have hlen := (List.dropWhile_suffix (p := isBlank) (l := cs)).length_le
      simp only [List.dropWhile_cons, hc, if_true, List.head?_cons, Option.mem_def,
        Option.some.injEq, forall_eq', Bool.true_eq_false, iff_false]
      intro heq
      have := congrArg List.length heq
      simp at this
      omega

theorem trimEndList_eq_self_iff {cs : List Char} :
    trimEndList cs = cs ↔ ∀ c ∈ cs.getLast?, isBlank c = false := by
  rw [trimEndList, List.reverse_eq_iff, dropWhile_isBlank_eq_self_iff, List.head?_reverse]

/-- A text is its own trimming exactly if no blank stands at either end. -/
theorem trimList_eq_self_iff {cs : List Char} :
    trimList cs = cs ↔
      (∀ c ∈ cs.head?, isBlank c = false) ∧ ∀ c ∈ cs.getLast?, isBlank c = false := by
  constructor
  · intro h
    have hstart : trimStartList cs = cs := by
      have hle : (trimList cs).length ≤ (trimStartList cs).length := by
        have := (List.dropWhile_suffix (p := isBlank) (l := (trimStartList cs).reverse)).length_le
        simpa [trimList, trimEndList] using this
      have hsuf : trimStartList cs <:+ cs := List.dropWhile_suffix isBlank
      exact hsuf.eq_of_length (Nat.le_antisymm hsuf.length_le (by rwa [h] at hle))
    refine ⟨dropWhile_isBlank_eq_self_iff.1 hstart, trimEndList_eq_self_iff.1 ?_⟩
    rw [trimList, hstart] at h
    exact h
  · rintro ⟨hhead, hlast⟩
    rw [trimList, trimStartList, dropWhile_isBlank_eq_self_iff.2 hhead,
      trimEndList_eq_self_iff.2 hlast]

/-- What a text begins with after leaving out blanks is not blank. -/
theorem isBlank_of_mem_head?_dropWhile {cs : List Char} {c : Char}
    (h : c ∈ (cs.dropWhile isBlank).head?) : isBlank c = false := by
  induction cs with
  | nil => cases h
  | cons d cs ih =>
    cases hd : isBlank d with
    | true =>
      rw [List.dropWhile_cons_of_pos hd] at h
      exact ih h
    | false =>
      rw [List.dropWhile_cons_of_neg (by simp [hd])] at h
      exact Option.some.inj h ▸ hd

/-- A trimmed text neither begins nor ends with a blank. -/
theorem trimList_trimList (cs : List Char) : trimList (trimList cs) = trimList cs := by
  have hbegins : trimList cs <+: trimStartList cs := by
    rw [trimList, trimEndList, ← List.reverse_suffix, List.reverse_reverse]
    exact List.dropWhile_suffix isBlank
  refine trimList_eq_self_iff.mpr ⟨fun c hc => ?_, fun c hc => ?_⟩
  · obtain ⟨rest, hrest⟩ := hbegins
    have hhead : c ∈ (trimStartList cs).head? := by
      rw [← hrest, List.head?_append, hc]
      rfl
    exact isBlank_of_mem_head?_dropWhile hhead
  · rw [trimList, trimEndList, List.getLast?_reverse] at hc
    exact isBlank_of_mem_head?_dropWhile hc

@[simp] theorem trim_trim (s : String) : trim (trim s) = trim s := by
  rw [trim, toList_trim, trimList_trimList, trim]

/-- What is left of a text has no blanks around it. -/
theorem trim_of_nonBlank?_eq_some {s t : String} (h : nonBlank? s = some t) : trim t = t := by
  rw [nonBlank?] at h
  split at h
  · cases h
  · exact Option.some.inj h ▸ trim_trim s

end CpuAlert.Text
