import TensorCapture.Decimal.Layout
import TensorCapture.Json.Basic

set_option autoImplicit false

/-! # Writing documents

A document is written on one line without blanks, or spread over lines with two blanks for
each level. Doubles are written in full, whole ones with `.0`; those that are no finite number
become null.
-/

namespace TensorCapture.Json

/-- Doubles in a document: positional from 10^-5 to below 10^16, otherwise with a signed
exponent; of two equally near decimals the even one. -/
def numberLayout : Decimal.Layout where
  positionalFrom := -5
  positionalTo := 15
  exponentMark := "e+"
  tie := .toEven
  nan := "null"
  infinity := "null"
  negativeInfinity := "null"

/-- One character inside a text. -/
def escapeChar (c : Char) : List Char :=
  match c with
  | '"' => ['\\', '"']
  | '\\' => ['\\', '\\']
  | '\x08' => ['\\', 'b']
  | '\x0c' => ['\\', 'f']
  | '\n' => ['\\', 'n']
  | '\r' => ['\\', 'r']
  | '\t' => ['\\', 't']
  | c =>
      if c.toNat < 0x20 then
        ['\\', 'u', '0', '0'] ++ [Nat.digitChar (c.toNat / 16), Nat.digitChar (c.toNat % 16)]
      else [c]

/-- A text between quotes. -/
def quoted (text : String) : String :=
  String.ofList ('"' :: text.toList.flatMap escapeChar ++ ['"'])

/-- Texts set between two marks and separated by a third. -/
def enclose (before after between : String) (parts : List String) : String :=
  before ++ between.intercalate parts ++ after

mutual

/-- A document on one line. -/
def compact : Json → String
  | .null => "null"
  | .bool true => "true"
  | .bool false => "false"
  | .integer n => toString n
  | .real x => numberLayout.render x
  | .text s => quoted s
  | .unreadable => "null"
  | .array items => enclose "[" "]" "," (compactItems items)
  | .object fields => enclose "\x7b" "\x7d" "," (compactFields fields)

/-- The items of an array, each on one line. -/
def compactItems : List Json → List String
  | [] => []
  | item :: rest => compact item :: compactItems rest

/-- The fields of an object, each on one line. -/
def compactFields : List (String × Json) → List String
  | [] => []
  | (name, value) :: rest => (quoted name ++ ":" ++ compact value) :: compactFields rest

end

/-- A new line at a level. -/
def newLine (level : Nat) : String :=
  String.ofList ('\n' :: List.replicate (2 * level) ' ')

/-- Parts on lines of their own, one level deeper than the marks around them. -/
def spread (before after : String) (level : Nat) (parts : List String) : String :=
  if parts.isEmpty then before ++ after
  else enclose (before ++ newLine (level + 1)) (newLine level ++ after)
    ("," ++ newLine (level + 1)) parts

mutual

/-- A document spread over lines, its first one at the given level. -/
def spreadOut (level : Nat) : Json → String
  | .array items => spread "[" "]" level (spreadItems (level + 1) items)
  | .object fields => spread "\x7b" "\x7d" level (spreadFields (level + 1) fields)
  | leaf => compact leaf

/-- The items of an array, spread over lines. -/
def spreadItems (level : Nat) : List Json → List String
  | [] => []
  | item :: rest => spreadOut level item :: spreadItems level rest

/-- The fields of an object, spread over lines. -/
def spreadFields (level : Nat) : List (String × Json) → List String
  | [] => []
  | (name, value) :: rest =>
      (quoted name ++ ": " ++ spreadOut level value) :: spreadFields level rest

end

end TensorCapture.Json
