import CpuAlert.Text.Blank

/-!
# Masked credentials

A credential is shown by a mask that keeps at most its last four characters.
One that is stored but could not be decrypted has a mask of its own.

## Main definitions

* `secretMask` — the mask

## Main results

* `secretMask_eq_of_tail` — the masks of two long credentials with the same
  last four characters are equal
-/

namespace CpuAlert

/-- The last characters that a mask may show. -/
def shownTail : Nat := 4

/-- The mask of a credential, empty if none is stored. -/
def secretMask (secret : String) (present : Bool) : String :=
  if !present then ""
  else
    let cs := Text.trimList secret.toList
    if cs.isEmpty then "********"
    else if cs.length ≤ shownTail then "****"
    else String.ofList ("****".toList ++ cs.drop (cs.length - shownTail))

/-- Two long credentials with the same last characters have the same mask. -/
theorem secretMask_eq_of_tail {s t : String}
    (hs : shownTail < (Text.trimList s.toList).length)
    (ht : shownTail < (Text.trimList t.toList).length)
    (htail : (Text.trimList s.toList).drop ((Text.trimList s.toList).length - shownTail)
      = (Text.trimList t.toList).drop ((Text.trimList t.toList).length - shownTail))
    (present : Bool) : secretMask s present = secretMask t present := by
  have hs' : Text.trimList s.toList ≠ [] := List.ne_nil_of_length_pos (by omega)
  have ht' : Text.trimList t.toList ≠ [] := List.ne_nil_of_length_pos (by omega)
  simp [secretMask, hs', ht', Nat.not_le.2 hs, Nat.not_le.2 ht, htail]

end CpuAlert
