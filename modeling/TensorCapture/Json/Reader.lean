import TensorCapture.Json.Numeral

set_option autoImplicit false

/-! # Reading documents

The grammar is the strict one: four blanks, no comments, no comma at the end, nothing behind
the document. Readers take the characters from the front and return the rest. The readers of
nested values are bounded by the number of characters, of which each value takes at least one.
-/

namespace TensorCapture.Json

/-- Whether the character separates tokens. -/
def isSeparator (c : Char) : Bool := c == ' ' || c == '\n' || c == '\t' || c == '\r'

/-- The characters after the separators at the front. -/
def skip (cs : List Char) : List Char := cs.dropWhile isSeparator

/-- The value of a hexadecimal digit. -/
def hexValue? (c : Char) : Option Nat :=
  if c.isDigit then some (c.toNat - '0'.toNat)
  else if 'a' ≤ c ∧ c ≤ 'f' then some (c.toNat - 'a'.toNat + 10)
  else if 'A' ≤ c ∧ c ≤ 'F' then some (c.toNat - 'A'.toNat + 10)
  else none

/-- Reads the four digits of a numbered unit. -/
def readUnit : List Char → Option (Nat × List Char)
  | a :: b :: c :: d :: rest => do
      let a ← hexValue? a
      let b ← hexValue? b
      let c ← hexValue? c
      let d ← hexValue? d
      some (((a * 16 + b) * 16 + c) * 16 + d, rest)
  | _ => none

/-- The character of a letter that may follow a backslash. -/
def escaped? : Char → Option Char
  | '"' => some '"'
  | '\\' => some '\\'
  | '/' => some '/'
  | 'b' => some '\x08'
  | 'f' => some '\x0c'
  | 'n' => some '\n'
  | 'r' => some '\r'
  | 't' => some '\t'
  | _ => none

/-- Reads one character of a text, or nothing where the unit is half of a pair. -/
def readNumbered (cs : List Char) : Option (Option Char × List Char) :=
  match readUnit cs with
  | none => none
  | some (unit, rest) =>
      if 0xdc00 ≤ unit ∧ unit ≤ 0xdfff then some (none, rest)
      else if 0xd800 ≤ unit ∧ unit ≤ 0xdbff then
        match rest with
        | '\\' :: 'u' :: after =>
            match readUnit after with
            | some (low, after) =>
                if 0xdc00 ≤ low ∧ low ≤ 0xdfff then
                  some (some (Char.ofNat (0x10000 + (unit - 0xd800) * 0x400 + (low - 0xdc00))),
                    after)
                else some (none, rest)
            | none => none
        | _ => some (none, rest)
      else some (some (Char.ofNat unit), rest)

/-- Reads the characters of a text up to its closing quote. The answer holds no text where one
of its characters has no value. -/
def readCharacters : Nat → Option (List Char) → List Char →
    Option (Option (List Char) × List Char)
  | 0, _, _ => none
  | _ + 1, _, [] => none
  | fuel + 1, seen, c :: rest =>
      if c = '"' then some (seen.map List.reverse, rest)
      else if c = '\\' then
        match rest with
        | 'u' :: rest =>
            match readNumbered rest with
            | some (some c, rest) => readCharacters fuel (seen.map (c :: ·)) rest
            | some (none, rest) => readCharacters fuel none rest
            | none => none
        | e :: rest =>
            match escaped? e with
            | some c => readCharacters fuel (seen.map (c :: ·)) rest
            | none => none
        | [] => none
      else if c.toNat < 0x20 then none
      else readCharacters fuel (seen.map (c :: ·)) rest

/-- Reads a text behind its opening quote. -/
def readText (cs : List Char) : Option (Option String × List Char) :=
  (readCharacters (cs.length + 1) (some []) cs).map fun (seen, rest) =>
    (seen.map String.ofList, rest)

/-- The object of these fields. It has no value where one of its names has none. -/
def ofFields (fields : List (Option String × Json)) : Json :=
  match fields.mapM fun (name, value) => name.map (·, value) with
  | some fields => .object fields
  | none => .unreadable

/-- The rest behind a fixed word. -/
def readWord (word : String) (value : Json) (cs : List Char) : Option (Json × List Char) :=
  if word.toList.isPrefixOf cs then some (value, cs.drop word.length) else none

mutual

/-- Reads a value from its first character on. -/
def readValue : Nat → List Char → Option (Json × List Char)
  | 0, _ => none
  | _ + 1, [] => none
  | fuel + 1, c :: rest =>
      if c = '"' then
        (readText rest).map fun (seen, rest) => ((seen.map Json.text).getD .unreadable, rest)
      else if c = '[' then
        match skip rest with
        | ']' :: rest => some (.array [], rest)
        | rest => (readItems fuel rest).map fun (items, rest) => (.array items, rest)
      else if c = '\x7b' then
        match skip rest with
        | '\x7d' :: rest => some (.object [], rest)
        | rest => (readFields fuel rest).map fun (fields, rest) => (ofFields fields, rest)
      else if c = 'n' then readWord "null" .null (c :: rest)
      else if c = 't' then readWord "true" (.bool true) (c :: rest)
      else if c = 'f' then readWord "false" (.bool false) (c :: rest)
      else readNumber (c :: rest)

/-- Reads the items of an array up to its closing bracket. -/
def readItems : Nat → List Char → Option (List Json × List Char)
  | 0, _ => none
  | fuel + 1, cs =>
      match readValue fuel cs with
      | none => none
      | some (item, rest) =>
          match skip rest with
          | ',' :: rest =>
              (readItems fuel (skip rest)).map fun (items, rest) => (item :: items, rest)
          | ']' :: rest => some ([item], rest)
          | _ => none

/-- Reads the fields of an object up to its closing brace. -/
def readFields : Nat → List Char → Option (List (Option String × Json) × List Char)
  | fuel + 1, '"' :: cs =>
      match readText cs with
      | some (name, rest) =>
          match skip rest with
          | ':' :: rest =>
              match readValue fuel (skip rest) with
              | none => none
              | some (value, rest) =>
                  match skip rest with
                  | ',' :: rest =>
                      (readFields fuel (skip rest)).map fun (fields, rest) =>
                        ((name, value) :: fields, rest)
                  | '\x7d' :: rest => some ([(name, value)], rest)
                  | _ => none
          | _ => none
      | none => none
  | _, _ => none

end

/-- Reads a text that holds one document and nothing else. -/
def read? (text : String) : Option Json :=
  let cs := skip text.toList
  match readValue (cs.length + 1) cs with
  | some (value, rest) => if (skip rest).isEmpty then some value else none
  | none => none

end TensorCapture.Json
