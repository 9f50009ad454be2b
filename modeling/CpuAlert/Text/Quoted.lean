import CpuAlert.Text.Graphic

/-!
# Quoted texts

A text in double quotes for a person to read: quotes, backslashes and the
common controls are escaped by a letter, everything that has no shape of its
own by its code point in braces, and all else stands as it is.

## Main definitions

* `Text.escape` — how one character is shown
* `Text.quote` — a whole text in quotes
-/

namespace CpuAlert.Text

/-- The digits of a number to base sixteen, in lower case. -/
def hexDigits (n : Nat) : List Char := Nat.toDigits 16 n

/-- One character inside double quotes. -/
def escape (c : Char) : List Char :=
  if c = '\x00' then ['\\', '0']
  else if c = '\t' then ['\\', 't']
  else if c = '\r' then ['\\', 'r']
  else if c = '\n' then ['\\', 'n']
  else if c = '"' then ['\\', '"']
  else if c = '\\' then ['\\', '\\']
  else if isGraphic c then [c]
  else ['\\', 'u', '\x7b'] ++ hexDigits c.toNat ++ ['\x7d']

/-- A text in double quotes. -/
def quote (s : String) : String :=
  String.ofList ('"' :: s.toList.flatMap escape ++ ['"'])

end CpuAlert.Text
