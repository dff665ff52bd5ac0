import TensorCapture.Proofs.Written.Leaves

set_option autoImplicit false

/-! # Documents are read back

A document that is written on one line is read back as it was, as long as it has no doubles in it
and its whole numbers are words. A value is read up to where it ends, whatever mark follows it, and
so the items of an array and the fields of an object are read one after the other.

The reader counts its steps. Each step takes a character at least, so it never stops before the text
does; that is all that the lengths in the lemmas are for.
-/

namespace TensorCapture.Json

variable {d : Json} {items : List Json} {fields : List (String × Json)} {rest : List Char}

/-! ## What is written -/

/-- Documents of which no part is lost in writing: there are no doubles, and whole numbers are
words. -/
inductive Exact : Json → Prop where
  | null : Exact .null
  | bool (value : Bool) : Exact (.bool value)
  | integer {n : Int} (hlow : -(Word.signedBound : Int) ≤ n) (hhigh : n < Word.bound) :
      Exact (.integer n)
  | text (value : String) : Exact (.text value)
  | array {items : List Json} (h : ∀ item ∈ items, Exact item) : Exact (.array items)
  | object {fields : List (String × Json)} (h : ∀ field ∈ fields, Exact field.2) :
      Exact (.object fields)

theorem exact_natural {n : Nat} (h : n < Word.bound) : Exact (natural n) :=
  .integer (by omega) (Int.ofNat_lt.mpr h)

/-- The characters of a document on one line. -/
def written (d : Json) : List Char := (compact d).toList

/-- Parts with commas between them. -/
def listed (parts : List (List Char)) : List Char := [','].intercalate parts

theorem listed_singleton (part : List Char) : listed [part] = part :=
  List.intercalate_singleton

theorem listed_cons_cons (part next : List Char) (parts : List (List Char)) :
    listed (part :: next :: parts) = part ++ ',' :: listed (next :: parts) := by
  unfold listed
  rw [List.intercalate_cons_cons, List.append_assoc]
  rfl

/-- A list starts as its first part does. -/
theorem exists_listed (c : Char) (cs : List Char) (parts : List (List Char)) :
    ∃ cs', listed ((c :: cs) :: parts) = c :: cs' := by
  cases parts with
  | nil => exact ⟨cs, listed_singleton _⟩
  | cons next parts => exact ⟨_, listed_cons_cons (c :: cs) next parts⟩

/-- The characters of a field on one line. -/
def writtenField (field : String × Json) : List Char :=
  (quoted field.1).toList ++ ':' :: written field.2

theorem written_array (items : List Json) :
    written (.array items) = '[' :: (listed (items.map written) ++ [']']) := by
  have hitems : (compactItems items).map String.toList = items.map written := by
    induction items with
    | nil => rfl
    | cons item rest ih => exact congrArg (written item :: ·) ih
  simp [written, listed, compact, enclose, String.toList_intercalate, hitems]

theorem written_object (fields : List (String × Json)) :
    written (.object fields) =
      '\x7b' :: (listed (fields.map writtenField) ++ ['\x7d']) := by
  have hfields : (compactFields fields).map String.toList = fields.map writtenField := by
    induction fields with
    | nil => rfl
    | cons field rest ih =>
        have hfirst : (quoted field.1 ++ ":" ++ compact field.2).toList = writtenField field := by
          simp [writtenField, written]
        exact congrArg₂ List.cons hfirst ih
  simp [written, listed, compact, enclose, String.toList_intercalate, hfields]

theorem not_isSeparator_of_isDigit {c : Char} (h : c.isDigit = true) : isSeparator c = false := by
  have hne : c ≠ ' ' ∧ c ≠ '\n' ∧ c ≠ '\t' ∧ c ≠ '\r' := by
    refine ⟨?_, ?_, ?_, ?_⟩ <;> rintro rfl <;> cases h
  simp [isSeparator, hne]

/-- A document starts with a character that is neither a separator nor the end of an array. -/
theorem Exact.exists_first (h : Exact d) :
    ∃ c cs, written d = c :: cs ∧ isSeparator c = false ∧ c ≠ ']' := by
  cases h with
  | null => exact ⟨'n', _, rfl, rfl, by decide⟩
  | bool value => cases value <;> exact ⟨_, _, rfl, rfl, by decide⟩
  | integer hlow hhigh =>
      obtain ⟨c, digits, hsplit, hc⟩ := exists_first_of_integer _
      refine ⟨c, digits, hsplit, ?_⟩
      rcases hc with hdigit | rfl
      · exact ⟨not_isSeparator_of_isDigit hdigit, by rintro rfl; cases hdigit⟩
      · decide
  | text value => exact ⟨'"', _, toList_quoted value, rfl, by decide⟩
  | array h => exact ⟨'[', _, written_array _, rfl, by decide⟩
  | object h => exact ⟨'\x7b', _, written_object _, rfl, by decide⟩

/-! ## What is read -/

/-- The document is read from what is written, where a value may end. -/
def ReadBack (d : Json) : Prop :=
  ∀ fuel rest, (written d).length < fuel → Ends rest →
    readValue fuel (written d ++ rest) = some (d, rest)

theorem skip_of_first {c : Char} (h : isSeparator c = false) (cs : List Char) :
    skip (c :: cs) = c :: cs := by
  simp [skip, h]

theorem skip_of_ends (h : Ends rest) : skip rest = rest := by
  cases h with
  | document => rfl
  | comma rest | bracket rest | brace rest => exact skip_of_first (by decide) rest

theorem skip_listed {c : Char} (h : isSeparator c = false) (cs : List Char)
    (parts : List (List Char)) (rest : List Char) :
    skip (listed ((c :: cs) :: parts) ++ rest) = listed ((c :: cs) :: parts) ++ rest := by
  obtain ⟨cs', hlisted⟩ := exists_listed c cs parts
  rw [hlisted]
  exact skip_of_first h _

theorem Exact.skip_written (h : Exact d) (rest : List Char) :
    skip (written d ++ rest) = written d ++ rest := by
  obtain ⟨c, cs, hfirst, hseparator, -⟩ := h.exists_first
  rw [hfirst]
  exact skip_of_first hseparator _

/-! ## Arrays -/

theorem readItems_last {item : Json} (h : ReadBack item) {fuel : Nat}
    (hfuel : (written item).length < fuel) (rest : List Char) :
    readItems (fuel + 1) (written item ++ ']' :: rest) = some ([item], rest) := by
  rw [readItems, h fuel _ hfuel (.bracket rest)]
  simp only [skip_of_ends (.bracket rest)]

theorem readItems_more {item : Json} (h : ReadBack item) {fuel : Nat}
    (hfuel : (written item).length < fuel) {cs : List Char} (hcs : skip cs = cs)
    (hmore : readItems fuel cs = some (items, rest)) :
    readItems (fuel + 1) (written item ++ ',' :: cs) = some (item :: items, rest) := by
  rw [readItems, h fuel _ hfuel (.comma cs)]
  simp only [skip_of_ends (.comma cs), hcs, hmore, Option.map_some]

/-- The items are read one after the other, each up to where it ends. -/
theorem readItems_written (item : Json) (items : List Json)
    (h : ∀ d ∈ item :: items, Exact d ∧ ReadBack d) {fuel : Nat}
    (hfuel : (listed ((item :: items).map written)).length + 1 < fuel) (rest : List Char) :
    readItems fuel (listed ((item :: items).map written) ++ ']' :: rest) =
      some (item :: items, rest) := by
  obtain ⟨fuel, rfl⟩ := exists_step hfuel
  induction items generalizing item fuel with
  | nil =>
      have hitem := (h item List.mem_cons_self).2
      simp only [List.map_cons, List.map_nil, listed_singleton] at hfuel ⊢
      exact readItems_last hitem (by omega) rest
  | cons next items ih =>
      have hitem := (h item List.mem_cons_self).2
      have hnext : ∀ d ∈ next :: items, Exact d ∧ ReadBack d :=
        fun d hd => h d (List.mem_cons_of_mem item hd)
      obtain ⟨c, cs, hfirst, hseparator, -⟩ := (hnext next List.mem_cons_self).1.exists_first
      -- the comma is followed by an item, which starts with no separator
      have hskip : skip (listed ((next :: items).map written) ++ ']' :: rest) =
          listed ((next :: items).map written) ++ ']' :: rest := by
        rw [List.map_cons, hfirst]
        exact skip_listed hseparator cs _ _
      rw [List.map_cons, List.map_cons, listed_cons_cons, ← List.map_cons] at hfuel ⊢
      simp only [List.length_append, List.length_cons] at hfuel
      obtain ⟨fuel, rfl⟩ := exists_step (Nat.lt_of_succ_lt_succ hfuel)
      have hmore := ih next hnext fuel (by omega)
      rw [List.append_assoc]
      exact readItems_more hitem (by omega) hskip hmore

/-! ## Objects -/

theorem writtenField_append (field : String × Json) (rest : List Char) :
    writtenField field ++ rest =
      '"' :: (field.1.toList.flatMap escapeChar ++ '"' :: ':' :: (written field.2 ++ rest)) := by
  simp [writtenField, toList_quoted]

/-- What a field is read as: the name is known. -/
def readField (field : String × Json) : Option String × Json := (some field.1, field.2)

theorem readFields_last {field : String × Json} (hexact : Exact field.2)
    (h : ReadBack field.2) {fuel : Nat} (hfuel : (written field.2).length < fuel)
    (rest : List Char) :
    readFields (fuel + 1) (writtenField field ++ '\x7d' :: rest) =
      some ([readField field], rest) := by
  have hcolon (cs : List Char) : skip (':' :: cs) = ':' :: cs := skip_of_first (by decide) cs
  rw [writtenField_append, readFields, readText_escaped]
  simp only [hcolon, hexact.skip_written, h fuel _ hfuel (.brace rest), skip_of_ends (.brace rest)]
  rfl

theorem readFields_more {field : String × Json} (hexact : Exact field.2)
    (h : ReadBack field.2) {fuel : Nat} (hfuel : (written field.2).length < fuel)
    {cs : List Char} (hcs : skip cs = cs) {read : List (Option String × Json)}
    (hmore : readFields fuel cs = some (read, rest)) :
    readFields (fuel + 1) (writtenField field ++ ',' :: cs) =
      some (readField field :: read, rest) := by
  have hcolon (cs : List Char) : skip (':' :: cs) = ':' :: cs := skip_of_first (by decide) cs
  rw [writtenField_append, readFields, readText_escaped]
  simp only [hcolon, hexact.skip_written, h fuel _ hfuel (.comma cs), skip_of_ends (.comma cs), hcs,
    hmore, Option.map_some]
  rfl

theorem length_written_lt (field : String × Json) :
    (written field.2).length < (writtenField field).length := by
  simp only [writtenField, List.length_append, List.length_cons]
  omega

/-- The fields are read one after the other, each up to where its value ends. -/
theorem readFields_written (field : String × Json) (fields : List (String × Json))
    (h : ∀ f ∈ field :: fields, Exact f.2 ∧ ReadBack f.2) {fuel : Nat}
    (hfuel : (listed ((field :: fields).map writtenField)).length < fuel) (rest : List Char) :
    readFields fuel (listed ((field :: fields).map writtenField) ++ '\x7d' :: rest) =
      some ((field :: fields).map readField, rest) := by
  obtain ⟨fuel, rfl⟩ := exists_step hfuel
  induction fields generalizing field fuel with
  | nil =>
      obtain ⟨hexact, hfield⟩ := h field List.mem_cons_self
      have hlength := length_written_lt field
      simp only [List.map_cons, List.map_nil, listed_singleton] at hfuel ⊢
      exact readFields_last hexact hfield (by omega) rest
  | cons next fields ih =>
      obtain ⟨hexact, hfield⟩ := h field List.mem_cons_self
      have hlength := length_written_lt field
      have hnext : ∀ f ∈ next :: fields, Exact f.2 ∧ ReadBack f.2 :=
        fun f hf => h f (List.mem_cons_of_mem field hf)
      -- the comma is followed by a field, which starts with a quote
      have hskip : skip (listed ((next :: fields).map writtenField) ++ '\x7d' :: rest) =
          listed ((next :: fields).map writtenField) ++ '\x7d' :: rest := by
        have hfirst := writtenField_append next []
        rw [List.append_nil] at hfirst
        rw [List.map_cons, hfirst]
        exact skip_listed (by decide) _ _ _
      rw [List.map_cons, List.map_cons, listed_cons_cons, ← List.map_cons] at hfuel
      simp only [List.length_append, List.length_cons] at hfuel
      obtain ⟨fuel, rfl⟩ := exists_step (Nat.lt_of_succ_lt_succ hfuel)
      have hmore := ih next hnext fuel (by omega)
      rw [List.map_cons, List.map_cons, listed_cons_cons, ← List.map_cons, List.append_assoc]
      exact readFields_more hexact hfield (by omega) hskip hmore

theorem mapM_readField {f : Option String × Json → Option (String × Json)}
    (hf : ∀ field, f (readField field) = some field) (fields : List (String × Json)) :
    (fields.map readField).mapM f = some fields := by
  induction fields with
  | nil => rfl
  | cons field rest ih =>
      rw [List.map_cons, List.mapM_cons, hf, ih]
      rfl

theorem ofFields_readField (fields : List (String × Json)) :
    ofFields (fields.map readField) = .object fields := by
  unfold ofFields
  rw [mapM_readField]
  intro field
  rfl

/-! ## Documents -/

theorem readValue_number {c : Char} (h : c.isDigit = true ∨ c = '-') (fuel : Nat)
    (rest : List Char) : readValue (fuel + 1) (c :: rest) = readNumber (c :: rest) := by
  have hne : c ≠ '"' ∧ c ≠ '[' ∧ c ≠ '\x7b' ∧ c ≠ 'n' ∧ c ≠ 't' ∧ c ≠ 'f' := by
    refine ⟨?_, ?_, ?_, ?_, ?_, ?_⟩ <;> rintro rfl <;> revert h <;> decide
  obtain ⟨hquote, hbracket, hbrace, hn, ht, hf⟩ := hne
  simp only [readValue, hquote, hbracket, hbrace, hn, ht, hf, if_false]

/-- A document takes a character, so the reader can make a step. -/
theorem readBack_of_step (h : ∀ fuel rest, (written d).length ≤ fuel → Ends rest →
    readValue (fuel + 1) (written d ++ rest) = some (d, rest)) : ReadBack d := by
  intro fuel rest hfuel hrest
  obtain ⟨fuel, rfl⟩ := exists_step hfuel
  exact h fuel rest (by omega) hrest

theorem readBack_integer {n : Int} (hlow : -(Word.signedBound : Int) ≤ n)
    (hhigh : n < Word.bound) : ReadBack (.integer n) := by
  refine readBack_of_step fun fuel rest _ hrest => ?_
  obtain ⟨c, digits, hsplit, hc⟩ := exists_first_of_integer n
  have hwritten : written (.integer n) = c :: digits := hsplit
  have hread := readNumber_toString hlow hhigh hrest
  rw [hsplit, List.cons_append] at hread
  rw [hwritten, List.cons_append, readValue_number hc]
  exact hread

theorem readBack_text (value : String) : ReadBack (.text value) := by
  refine readBack_of_step fun fuel rest _ _ => ?_
  have hwritten : written (.text value) = '"' :: (value.toList.flatMap escapeChar ++ ['"']) :=
    toList_quoted value
  rw [hwritten, List.cons_append, List.append_assoc, readValue, if_pos rfl]
  simp [readText_escaped]

theorem readValue_items {c : Char} (hseparator : isSeparator c = false) (hbracket : c ≠ ']')
    {fuel : Nat} {cs : List Char} (hread : readItems fuel (c :: cs) = some (items, rest)) :
    readValue (fuel + 1) ('[' :: c :: cs) = some (.array items, rest) := by
  rw [readValue, if_neg (by decide), if_pos rfl, skip_of_first hseparator]
  split
  · next heq => exact absurd (List.cons.inj heq).1 hbracket
  · rw [hread]
    rfl

theorem readBack_array (h : ∀ item ∈ items, Exact item ∧ ReadBack item) :
    ReadBack (.array items) := by
  refine readBack_of_step fun fuel rest hfuel _ => ?_
  rw [written_array] at hfuel ⊢
  simp only [List.length_cons, List.length_append, List.length_nil] at hfuel
  cases items with
  | nil => rfl
  | cons item items =>
      obtain ⟨c, cs, hfirst, hseparator, hbracket⟩ := (h item List.mem_cons_self).1.exists_first
      obtain ⟨cs', hlisted⟩ := exists_listed c cs (items.map written)
      have hcharacters : (listed ((item :: items).map written)).length + 1 < fuel := by omega
      have hread := readItems_written item items h hcharacters rest
      rw [List.cons_append, List.append_assoc]
      rw [List.map_cons, hfirst, hlisted] at hread ⊢
      exact readValue_items hseparator hbracket hread

theorem readValue_fields {fuel : Nat} {cs : List Char}
    (hread : readFields fuel ('"' :: cs) = some (fields.map readField, rest)) :
    readValue (fuel + 1) ('\x7b' :: '"' :: cs) = some (.object fields, rest) := by
  rw [readValue, if_neg (by decide), if_neg (by decide), if_pos rfl,
    skip_of_first (by decide)]
  split
  · next heq => exact absurd (List.cons.inj heq).1 (by decide)
  · rw [hread, ← ofFields_readField]
    rfl

theorem readBack_object (h : ∀ field ∈ fields, Exact field.2 ∧ ReadBack field.2) :
    ReadBack (.object fields) := by
  refine readBack_of_step fun fuel rest hfuel _ => ?_
  rw [written_object] at hfuel ⊢
  simp only [List.length_cons, List.length_append, List.length_nil] at hfuel
  cases fields with
  | nil => rfl
  | cons field fields =>
      have hfirst := writtenField_append field []
      rw [List.append_nil] at hfirst
      obtain ⟨cs', hlisted⟩ := exists_listed '"' _ (fields.map writtenField)
      have hcharacters : (listed ((field :: fields).map writtenField)).length < fuel := by omega
      have hread := readFields_written field fields h hcharacters rest
      rw [List.cons_append, List.append_assoc]
      rw [List.map_cons, hfirst, hlisted] at hread ⊢
      exact readValue_fields hread

/-- A document without doubles is read from what is written, where a value may end. -/
theorem Exact.readBack (h : Exact d) : ReadBack d := by
  induction h with
  | null => exact readBack_of_step fun _ _ _ _ => rfl
  | bool value =>
      cases value with
      | true => exact readBack_of_step fun _ _ _ _ => rfl
      | false => exact readBack_of_step fun _ _ _ _ => rfl
  | integer hlow hhigh => exact readBack_integer hlow hhigh
  | text value => exact readBack_text value
  | array h ih => exact readBack_array fun item hitem => ⟨h item hitem, ih item hitem⟩
  | object h ih => exact readBack_object fun field hfield => ⟨h field hfield, ih field hfield⟩

/-- A text that is written for a document without doubles holds this document. -/
theorem read?_compact (h : Exact d) : read? (compact d) = some d := by
  have hread := h.readBack ((written d).length + 1) [] (Nat.lt_succ_self _) .document
  have hskip := h.skip_written []
  rw [List.append_nil] at hread hskip
  have htext : (compact d).toList = written d := rfl
  unfold read?
  simp only [htext, hskip, hread]
  rfl

end TensorCapture.Json
