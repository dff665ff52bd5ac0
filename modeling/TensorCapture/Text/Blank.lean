set_option autoImplicit false

/-! # Blank characters around a text

A setting is read without the blanks around it and without regard to the case of its ASCII
letters. Blank are the characters with the Unicode property White_Space.
-/

namespace TensorCapture.Text

/-- Whether the character has the property White_Space. -/
def isBlank (c : Char) : Bool :=
  let n := c.toNat
  (0x9 ≤ n && n ≤ 0xd) || n == 0x20 || n == 0x85 || n == 0xa0 || n == 0x1680 ||
    (0x2000 ≤ n && n ≤ 0x200a) || n == 0x2028 || n == 0x2029 || n == 0x202f ||
    n == 0x205f || n == 0x3000

/-- The characters between the blanks at both ends. -/
def trim (cs : List Char) : List Char :=
  ((cs.dropWhile isBlank).reverse.dropWhile isBlank).reverse

/-- The text with its ASCII capitals made small. -/
def lower (cs : List Char) : List Char := cs.map Char.toLower

example : isBlank ' ' ∧ isBlank '\n' ∧ ¬ isBlank 'a' := by decide

end TensorCapture.Text
