import Mathlib.Data.List.Basic
import Mathlib.Tactic.IntervalCases
import TensorCapture.Json.Reader
import TensorCapture.Text.Quoted

set_option autoImplicit false

/-! # Reading quoted texts

What a character is written as inside a quoted text can be read back, whatever follows it: a letter
after a backslash, a number between braces, or the character itself. So no two texts are quoted
alike.
-/

namespace TensorCapture.Text

/-! ## Hexadecimal digits -/

/-- The number that hexadecimal digits denote. -/
def readHex (digits : List Char) : Nat :=
  digits.foldl (fun n c => n * 16 + (Json.hexValue? c).getD 0) 0

theorem readHex_append_singleton (digits : List Char) (c : Char) :
    readHex (digits ++ [c]) = readHex digits * 16 + (Json.hexValue? c).getD 0 := by
  simp [readHex]

theorem hexValue?_digitChar {d : Nat} (h : d < 16) : Json.hexValue? d.digitChar = some d := by
  interval_cases d <;> decide

/-- The digits of a number are those of its sixteenth part and one more. -/
theorem hexDigits_of_le {n : Nat} (h : 16 ≤ n) :
    hexDigits n = hexDigits (n / 16) ++ [(n % 16).digitChar] :=
  Nat.toDigits_of_base_le (by decide) h

theorem hexDigits_of_lt {n : Nat} (h : n < 16) : hexDigits n = [n.digitChar] :=
  Nat.toDigits_of_lt_base h

theorem readHex_hexDigits (n : Nat) : readHex (hexDigits n) = n := by
  induction n using Nat.strong_induction_on with
  | h n ih =>
      by_cases hsmall : n < 16
      · rw [hexDigits_of_lt hsmall]
        show 0 * 16 + (Json.hexValue? n.digitChar).getD 0 = n
        rw [hexValue?_digitChar hsmall]
        exact Nat.zero_add n
      · have hlast : n % 16 < 16 := Nat.mod_lt n (by decide)
        have hfirst : readHex (hexDigits (n / 16)) = n / 16 := ih (n / 16) (by omega)
        rw [hexDigits_of_le (by omega), readHex_append_singleton, hfirst, hexValue?_digitChar hlast]
        exact Nat.div_add_mod' n 16

theorem ne_brace_of_mem_hexDigits {n : Nat} {c : Char} (h : c ∈ hexDigits n) : c ≠ '\x7d' := by
  induction n using Nat.strong_induction_on with
  | h n ih =>
      by_cases hsmall : n < 16
      · rw [hexDigits_of_lt hsmall, List.mem_singleton] at h
        rw [h]
        exact Nat.digitChar_ne '\x7d' rfl
      · rw [hexDigits_of_le (by omega), List.mem_append, List.mem_singleton] at h
        rcases h with hfirst | hlast
        · exact ih (n / 16) (by omega) hfirst
        · rw [hlast]
          exact Nat.digitChar_ne '\x7d' rfl

/-! ## Reading one character -/

/-- The character that a letter after a backslash stands for. -/
def readLetter (letter : Char) : Char :=
  match letter with
  | '0' => '\x00'
  | 't' => '\t'
  | 'r' => '\r'
  | 'n' => '\n'
  | other => other

/-- Reads the first character inside a quoted text, and leaves what follows it. -/
def readChar : List Char → Option (Char × List Char)
  | '\\' :: 'u' :: '\x7b' :: rest =>
      some (Char.ofNat (readHex (rest.takeWhile (· ≠ '\x7d'))),
        (rest.dropWhile (· ≠ '\x7d')).drop 1)
  | '\\' :: letter :: rest => some (readLetter letter, rest)
  | c :: rest => some (c, rest)
  | [] => none

theorem readChar_shown {c : Char} (h : c ≠ '\\') (rest : List Char) :
    readChar (c :: rest) = some (c, rest) := by
  unfold readChar
  simp [h]

/-- The number between braces ends at the first closing one, for no digit is one. -/
theorem readChar_numbered (n : Nat) (rest : List Char) :
    readChar ('\\' :: 'u' :: '\x7b' :: (hexDigits n ++ '\x7d' :: rest)) =
      some (Char.ofNat n, rest) := by
  have hdigits : ∀ c ∈ hexDigits n, (decide (c ≠ '\x7d')) = true := by
    intro c hc
    exact decide_eq_true (ne_brace_of_mem_hexDigits hc)
  have htake : (hexDigits n ++ '\x7d' :: rest).takeWhile (· ≠ '\x7d') = hexDigits n := by
    rw [List.takeWhile_append_of_pos hdigits]
    simp
  have hdrop : (hexDigits n ++ '\x7d' :: rest).dropWhile (· ≠ '\x7d') = '\x7d' :: rest := by
    rw [List.dropWhile_append_of_pos hdigits]
    simp
  show some (Char.ofNat (readHex (List.takeWhile _ _)), (List.dropWhile _ _).drop 1) = _
  rw [htake, hdrop, readHex_hexDigits]
  rfl

/-- What a character is written as is read as this character, whatever follows. -/
theorem readChar_escape (c : Char) (rest : List Char) :
    readChar (escape c ++ rest) = some (c, rest) := by
  unfold escape
  split
  · rfl
  · rfl
  · rfl
  · rfl
  · rfl
  · rfl
  · rename_i hslash
    by_cases hshown : isShown c = true
    · rw [if_pos hshown]
      exact readChar_shown hslash rest
    · rw [if_neg hshown, List.append_assoc]
      calc readChar ('\\' :: 'u' :: '\x7b' :: (hexDigits c.toNat ++ '\x7d' :: rest))
          = some (Char.ofNat c.toNat, rest) := readChar_numbered c.toNat rest
        _ = some (c, rest) := by rw [Char.ofNat_toNat]

/-! ## Whole texts -/

theorem escapeAll_cons (c : Char) (cs : List Char) :
    escapeAll (c :: cs) = escape c ++ escapeAll cs := rfl

theorem escapeAll_injective : Function.Injective escapeAll := by
  intro cs
  induction cs with
  | nil =>
      intro ds h
      cases ds with
      | nil => rfl
      | cons d ds =>
          have hread : readChar (escapeAll []) = readChar (escapeAll (d :: ds)) := by rw [h]
          rw [escapeAll_cons, readChar_escape] at hread
          cases hread
  | cons c cs ih =>
      intro ds h
      have hread : readChar (escapeAll (c :: cs)) = readChar (escapeAll ds) := by rw [h]
      rw [escapeAll_cons, readChar_escape] at hread
      cases ds with
      | nil => cases hread
      | cons d ds =>
          rw [escapeAll_cons, readChar_escape] at hread
          obtain ⟨rfl, hrest⟩ := Prod.mk.inj (Option.some.inj hread)
          rw [ih hrest]

/-- No two texts are quoted alike. -/
theorem quote_injective : Function.Injective quote := by
  intro a b h
  have hlists : '"' :: escapeAll a.toList ++ ['"'] = '"' :: escapeAll b.toList ++ ['"'] := by
    have htexts := congrArg String.toList h
    unfold quote at htexts
    rwa [String.toList_ofList, String.toList_ofList] at htexts
  have hescaped : escapeAll a.toList = escapeAll b.toList :=
    List.tail_eq_of_cons_eq (List.append_cancel_right hlists)
  exact String.toList_inj.mp (escapeAll_injective hescaped)

end TensorCapture.Text
