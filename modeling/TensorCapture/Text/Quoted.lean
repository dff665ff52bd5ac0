import TensorCapture.Text.Printable

set_option autoImplicit false

/-! # Quoted texts

A quoted text stands between double quotes. Inside it a quote and a backslash follow a
backslash, four control characters have letters of their own, and every other character that
cannot be seen standing alone is written as its number in hexadecimal digits.
-/

namespace TensorCapture.Text

/-- The hexadecimal digits of a number, in lower case. -/
def hexDigits (n : Nat) : List Char := Nat.toDigits 16 n

/-- One character inside a quoted text. -/
def escape (c : Char) : List Char :=
  match c with
  | '\x00' => ['\\', '0']
  | '\t' => ['\\', 't']
  | '\r' => ['\\', 'r']
  | '\n' => ['\\', 'n']
  | '"' => ['\\', '"']
  | '\\' => ['\\', '\\']
  | c => if isShown c then [c] else ['\\', 'u', '\x7b'] ++ hexDigits c.toNat ++ ['\x7d']

/-- The characters of a text, each escaped. -/
def escapeAll (cs : List Char) : List Char := cs.flatMap escape

/-- The text between quotes. -/
def quote (text : String) : String :=
  String.ofList ('"' :: escapeAll text.toList ++ ['"'])

theorem escape_quote : escape '"' = ['\\', '"'] := rfl

theorem escape_backslash : escape '\\' = ['\\', '\\'] := rfl

end TensorCapture.Text
