import Mathlib.Data.List.Basic
import TensorCapture.Json.Reader
import TensorCapture.Json.Writer
import TensorCapture.Proofs.Names.Quoted

set_option autoImplicit false

/-! # Numbers and texts are read back

What a whole number is written as can be read back where the document ends or a mark follows that
no number goes on with. What a text is written as can be read back whatever follows, since its last
quote is the first one without a backslash.
-/

namespace TensorCapture.Json

/-- What may follow a value in a document: nothing, or a mark between or behind values. -/
inductive Ends : List Char → Prop where
  | document : Ends []
  | comma (rest : List Char) : Ends (',' :: rest)
  | bracket (rest : List Char) : Ends (']' :: rest)
  | brace (rest : List Char) : Ends ('\x7d' :: rest)

variable {rest : List Char}

/-- A reader that has more steps than there are characters can make a step. -/
theorem exists_step {characters fuel : Nat} (h : characters < fuel) : ∃ steps, fuel = steps + 1 :=
  ⟨fuel - 1, by omega⟩

/-! ## Whole numbers -/

theorem digitValue?_of_isDigit {c : Char} (h : c.isDigit = true) :
    digitValue? c = some (c.toNat - '0'.toNat) := if_pos h

/-- More digits make no smaller number. -/
theorem le_ofDigitChars (digits : List Char) (value : Nat) :
    value ≤ Nat.ofDigitChars 10 digits value := by
  induction digits generalizing value with
  | nil => exact Nat.le_refl _
  | cons c digits ih =>
      rw [Nat.ofDigitChars_cons]
      have hrest := ih (10 * value + (c.toNat - '0'.toNat))
      omega

/-- Digits are collected in full where their number is a word. -/
theorem collectWhole_append {digits : List Char} (hdigits : ∀ c ∈ digits, c.isDigit = true)
    (value : Nat) (hfits : Nat.ofDigitChars 10 digits value < Word.bound) (hrest : Ends rest) :
    collectWhole value (digits ++ rest) = (⟨Nat.ofDigitChars 10 digits value, 0⟩, rest) := by
  induction digits generalizing value with
  | nil => cases hrest <;> rfl
  | cons c digits ih =>
      have hc : c.isDigit = true := hdigits c List.mem_cons_self
      rw [Nat.ofDigitChars_cons] at hfits ⊢
      rw [Nat.mul_comm] at hfits ⊢
      have hstep : value * 10 + (c.toNat - '0'.toNat) < Word.bound :=
        Nat.lt_of_le_of_lt (le_ofDigitChars digits _) hfits
      rw [List.cons_append, collectWhole, digitValue?_of_isDigit hc]
      simp only [hstep, if_true]
      exact ih (fun c hc => hdigits c (List.mem_cons_of_mem _ hc)) _ hfits

theorem readSuffix_of_ends (negative : Bool) (s : Significand) (hrest : Ends rest) :
    readSuffix negative true s rest = some (ofWhole negative s.value, rest) := by
  cases hrest <;> rfl

/-- Only zero is written with a zero in front. -/
theorem exists_first_digit {n : Nat} (hn : n ≠ 0) :
    ∃ c digits, Nat.toDigits 10 n = c :: digits ∧ c ≠ '0' := by
  induction n using Nat.strong_induction_on with
  | h n ih =>
      by_cases hsmall : n < 10
      · refine ⟨n.digitChar, [], Nat.toDigits_of_lt_base hsmall, ?_⟩
        interval_cases n <;> first | contradiction | decide
      · obtain ⟨c, digits, hdigits, hc⟩ := ih (n / 10) (by omega) (by omega)
        refine ⟨c, digits ++ [(n % 10).digitChar], ?_, hc⟩
        rw [Nat.toDigits_of_base_le (by decide) (by omega), hdigits]
        rfl

theorem isDigit_of_mem_toDigits {n : Nat} {c : Char} (h : c ∈ Nat.toDigits 10 n) :
    c.isDigit = true :=
  Nat.isDigit_of_mem_toDigits (by decide) (by decide) h

theorem exists_toDigits (n : Nat) :
    ∃ c digits, Nat.toDigits 10 n = c :: digits ∧ c.isDigit = true := by
  obtain ⟨c, digits, hsplit⟩ := List.exists_cons_of_ne_nil (Nat.toDigits_ne_nil (b := 10) (n := n))
  have hmem : c ∈ Nat.toDigits 10 n := by
    rw [hsplit]
    exact List.mem_cons_self
  exact ⟨c, digits, hsplit, isDigit_of_mem_toDigits hmem⟩

/-- A number without its sign is read from its digits. -/
theorem readMagnitude_toDigits (negative : Bool) {n : Nat} (hn : n < Word.bound)
    (hrest : Ends rest) :
    readMagnitude negative (Nat.toDigits 10 n ++ rest) = some (ofWhole negative n, rest) := by
  by_cases hzero : n = 0
  · subst hzero
    cases hrest <;> rfl
  · obtain ⟨c, digits, hsplit, hc⟩ := exists_first_digit hzero
    have hdigit : c.isDigit = true := by
      obtain ⟨c', _, hsplit', hdigit⟩ := exists_toDigits n
      rwa [(List.cons.inj (hsplit.symm.trans hsplit')).1]
    have hdigits : ∀ c ∈ Nat.toDigits 10 n, c.isDigit = true :=
      fun c hc => isDigit_of_mem_toDigits hc
    have hcollect := collectWhole_append hdigits 0 (by rwa [Nat.ofDigitChars_ten_toDigits]) hrest
    rw [Nat.ofDigitChars_ten_toDigits, hsplit] at hcollect
    rw [hsplit, List.cons_append, readMagnitude, if_pos hdigit, ← List.cons_append, hcollect]
    · exact readSuffix_of_ends negative ⟨n, 0⟩ hrest
    · exact fun h => hc h

/-- A whole number starts with a digit or with a sign. -/
theorem exists_first_of_integer (n : Int) :
    ∃ c digits, (toString n).toList = c :: digits ∧ (c.isDigit = true ∨ c = '-') := by
  cases n with
  | ofNat n =>
      have hdigits : (toString (Int.ofNat n)).toList = Nat.toDigits 10 n := Nat.toList_repr
      obtain ⟨c, digits, hsplit, hdigit⟩ := exists_toDigits n
      exact ⟨c, digits, hdigits.trans hsplit, .inl hdigit⟩
  | negSucc n => exact ⟨'-', _, String.toList_append, .inr rfl⟩

theorem readNumber_of_isDigit {c : Char} (h : c.isDigit = true) (cs : List Char) :
    readNumber (c :: cs) = readMagnitude false (c :: cs) := by
  have hsign : c ≠ '-' := by
    rintro rfl
    cases h
  unfold readNumber
  split
  · next heq => exact absurd (List.cons.inj heq).1 hsign
  · rfl

theorem ofWhole_negative {n : Nat} (hpos : 0 < n) (hle : n ≤ Word.signedBound) :
    ofWhole true n = .integer (-n) := by
  have hfits : ¬(n = 0 ∨ Word.signedBound < n) := by omega
  unfold ofWhole
  rw [if_pos rfl, if_neg hfits]

/-- A whole number is read back where it is a word, with or without a sign. -/
theorem readNumber_toString {n : Int} (hlow : -(Word.signedBound : Int) ≤ n)
    (hhigh : n < Word.bound) (hrest : Ends rest) :
    readNumber ((toString n).toList ++ rest) = some (.integer n, rest) := by
  cases n with
  | ofNat n =>
      have hdigits : (toString (Int.ofNat n)).toList = Nat.toDigits 10 n := Nat.toList_repr
      have hfits : n < Word.bound := Int.ofNat_lt.mp hhigh
      have hread := readMagnitude_toDigits false hfits hrest
      obtain ⟨c, digits, hsplit, hdigit⟩ := exists_toDigits n
      rw [hsplit, List.cons_append] at hread
      rw [hdigits, hsplit, List.cons_append, readNumber_of_isDigit hdigit]
      exact hread
  | negSucc n =>
      have hdigits : (toString (Int.negSucc n)).toList = '-' :: Nat.toDigits 10 (n + 1) := by
        show ("-" ++ Nat.repr (n + 1)).toList = _
        rw [String.toList_append, Nat.toList_repr]
        rfl
      have hle : n + 1 ≤ Word.signedBound := by omega
      have hfits : n + 1 < Word.bound := Nat.lt_of_le_of_lt hle (by decide)
      rw [hdigits]
      show readMagnitude true (Nat.toDigits 10 (n + 1) ++ rest) = _
      rw [readMagnitude_toDigits true hfits hrest, ofWhole_negative (Nat.succ_pos n) hle]
      rfl

/-! ## Texts -/

/-- The number of a character below the blank is read from the two digits that are written. -/
theorem readNumbered_control {c : Char} (h : c.toNat < 0x20) (rest : List Char) :
    readNumbered ('0' :: '0' :: (c.toNat / 16).digitChar :: (c.toNat % 16).digitChar :: rest) =
      some (some c, rest) := by
  have hhigh : hexValue? (c.toNat / 16).digitChar = some (c.toNat / 16) :=
    Text.hexValue?_digitChar (by omega)
  have hlow : hexValue? (c.toNat % 16).digitChar = some (c.toNat % 16) :=
    Text.hexValue?_digitChar (by omega)
  have hzero : hexValue? '0' = some 0 := by decide
  have hunit : ((0 * 16 + 0) * 16 + c.toNat / 16) * 16 + c.toNat % 16 = c.toNat := by omega
  have hread : readUnit
      ('0' :: '0' :: (c.toNat / 16).digitChar :: (c.toNat % 16).digitChar :: rest) =
        some (c.toNat, rest) := by
    simp only [readUnit, hzero, hhigh, hlow, Option.bind_eq_bind, Option.bind_some, hunit]
  have hpair : ¬(0xdc00 ≤ c.toNat ∧ c.toNat ≤ 0xdfff) := by omega
  have hpair' : ¬(0xd800 ≤ c.toNat ∧ c.toNat ≤ 0xdbff) := by omega
  simp only [readNumbered, hread, if_neg hpair, if_neg hpair', Char.ofNat_toNat]

theorem readCharacters_numbered {cs : List Char} {c : Char}
    (h : readNumbered cs = some (some c, rest)) (fuel : Nat) (seen : Option (List Char)) :
    readCharacters (fuel + 1) seen ('\\' :: 'u' :: cs) =
      readCharacters fuel (seen.map (c :: ·)) rest := by
  have hquote : ('\\' : Char) ≠ '"' := by decide
  rw [readCharacters.eq_def]
  simp only [if_neg hquote, if_true, h]

theorem readCharacters_shown {c : Char} (hquote : c ≠ '"') (hslash : c ≠ '\\')
    (hcontrol : ¬c.toNat < 0x20) (fuel : Nat) (seen : Option (List Char)) (rest : List Char) :
    readCharacters (fuel + 1) seen (c :: rest) = readCharacters fuel (seen.map (c :: ·)) rest := by
  rw [readCharacters.eq_def]
  simp only [if_neg hquote, if_neg hslash, if_neg hcontrol]

/-- What a character is written as is read as this character, whatever follows. -/
theorem readCharacters_escapeChar (fuel : Nat) (seen : Option (List Char)) (c : Char)
    (rest : List Char) :
    readCharacters (fuel + 1) seen (escapeChar c ++ rest) =
      readCharacters fuel (seen.map (c :: ·)) rest := by
  unfold escapeChar
  split
  · rfl
  · rfl
  · rfl
  · rfl
  · rfl
  · rfl
  · rfl
  · rename_i hquote hslash _ _ _ _ _
    by_cases hcontrol : c.toNat < 0x20
    · rw [if_pos hcontrol]
      exact readCharacters_numbered (readNumbered_control hcontrol rest) fuel seen
    · rw [if_neg hcontrol]
      exact readCharacters_shown hquote hslash hcontrol fuel seen rest

/-- What a text is written as is read up to the quote behind it. -/
theorem readCharacters_escaped (cs seen : List Char) {fuel : Nat} (hfuel : cs.length < fuel) :
    readCharacters fuel (some seen) (cs.flatMap escapeChar ++ '"' :: rest) =
      some (some (seen.reverse ++ cs), rest) := by
  induction cs generalizing seen fuel with
  | nil =>
      obtain ⟨fuel, rfl⟩ := exists_step hfuel
      simp [readCharacters]
  | cons c cs ih =>
      obtain ⟨fuel, rfl⟩ := exists_step hfuel
      have hrest := ih (c :: seen) (Nat.lt_of_succ_lt_succ hfuel)
      rw [List.flatMap_cons, List.append_assoc, readCharacters_escapeChar]
      simpa using hrest

theorem length_le_length_escaped (cs : List Char) : cs.length ≤ (cs.flatMap escapeChar).length := by
  induction cs with
  | nil => exact Nat.le_refl _
  | cons c cs ih =>
      have hone : 0 < (escapeChar c).length := by
        unfold escapeChar
        split <;> first | decide | (split <;> simp)
      simp only [List.flatMap_cons, List.length_append, List.length_cons]
      omega

/-- A text is read back, whatever follows its last quote. -/
theorem readText_escaped (text : String) (rest : List Char) :
    readText (text.toList.flatMap escapeChar ++ '"' :: rest) = some (some text, rest) := by
  have hfuel : text.toList.length < (text.toList.flatMap escapeChar ++ '"' :: rest).length + 1 := by
    have hlength := length_le_length_escaped text.toList
    simp only [List.length_append]
    omega
  unfold readText
  rw [readCharacters_escaped text.toList [] hfuel]
  simp

theorem toList_quoted (text : String) :
    (quoted text).toList = '"' :: (text.toList.flatMap escapeChar ++ ['"']) :=
  String.toList_ofList

end TensorCapture.Json
