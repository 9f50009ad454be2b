/-!
# Texts as bytes

## Main definitions

* `Text.toBytes` — the UTF-8 form of a text
* `Text.ofBytes?` — the text with this UTF-8 form, if there is one

## Main results

* `Text.ofBytes?_eq_some_iff` — a text is read exactly from its own bytes
-/

namespace CpuAlert.Text

/-- The UTF-8 form of a text. -/
def toBytes (s : String) : List UInt8 := s.toByteArray.data.toList

/-- The text with this UTF-8 form. -/
def ofBytes? (bytes : List UInt8) : Option String := String.fromUTF8? ⟨bytes.toArray⟩

/-- A text is read exactly from its own bytes. -/
theorem ofBytes?_eq_some_iff {bytes : List UInt8} {s : String} :
    ofBytes? bytes = some s ↔ bytes = toBytes s := by
  unfold ofBytes? toBytes String.fromUTF8?
  split
  · rename_i h
    rw [Option.some.injEq]
    constructor
    · rintro rfl; rfl
    · rintro rfl; rfl
  · rename_i h
    refine ⟨fun heq => by simp at heq, ?_⟩
    rintro rfl
    exact absurd s.isValidUTF8 h

end CpuAlert.Text
