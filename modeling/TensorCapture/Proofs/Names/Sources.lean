import TensorCapture.Graph.Summary
import TensorCapture.Proofs.Names.Quoted

set_option autoImplicit false

/-! # Names of sources

The name of a source is an expression without any marks of where its parts begin. It is read from
its right end. A bracket ends the name of a global or of an item, and what stands before it is a
quote or a digit. Else the name is that of a member if there is a dot in it, and that of a local
otherwise. The last dot, or the last opening bracket, ends the name of the base. So no two sources
have one name, as long as locals and members have identifiers for names. Whatever stands in the
quoted name of a global does no harm.
-/

namespace TensorCapture

/-! ## Identifiers -/

namespace Text

/-- Whether an identifier can start with the character, which is a letter or an underscore. All
characters beyond ASCII count as letters. -/
def isNameStart (c : Char) : Bool := c.isAlpha || c == '_' || 0x80 ≤ c.toNat

/-- Whether an identifier can go on with the character. -/
def isNamePart (c : Char) : Bool := isNameStart c || c.isDigit

/-- Whether the text is an identifier. -/
def isIdentifier (text : String) : Bool :=
  match text.toList with
  | [] => false
  | c :: rest => isNameStart c && rest.all isNamePart

variable {text : String}

theorem isNamePart_of_mem (h : isIdentifier text = true) {c : Char} (hc : c ∈ text.toList) :
    isNamePart c = true := by
  unfold isIdentifier at h
  cases hlist : text.toList with
  | nil =>
      rw [hlist] at hc
      cases hc
  | cons first rest =>
      rw [hlist] at h hc
      obtain ⟨hfirst, hrest⟩ := Bool.and_eq_true_iff.mp h
      rcases List.mem_cons.mp hc with rfl | hc
      · unfold isNamePart
        rw [hfirst]
        rfl
      · exact List.all_eq_true.mp hrest c hc

/-- A character that no identifier goes on with is in none. -/
theorem notMem_of_isIdentifier (h : isIdentifier text = true) {c : Char}
    (hc : isNamePart c = false) : c ∉ text.toList := by
  intro hmem
  rw [isNamePart_of_mem h hmem] at hc
  cases hc

/-- An identifier has a last character. -/
theorem exists_last_of_isIdentifier (h : isIdentifier text = true) :
    ∃ init last, text.toList = init ++ [last] ∧ isNamePart last = true := by
  have hne : text.toList ≠ [] := by
    intro hnil
    unfold isIdentifier at h
    rw [hnil] at h
    cases h
  have hsplit := List.dropLast_append_getLast hne
  exact ⟨_, _, hsplit.symm, isNamePart_of_mem h (List.getLast_mem hne)⟩

/-- Texts with the same separator last in them agree before it and behind it. -/
theorem eq_of_append_cons {xs ys zs ws : List Char} {c : Char} (hzs : c ∉ zs) (hws : c ∉ ws)
    (h : xs ++ c :: zs = ys ++ c :: ws) : xs = ys ∧ zs = ws := by
  rcases List.append_eq_append_iff.mp h with ⟨between, rfl, hbetween⟩ | ⟨between, rfl, hbetween⟩
  · cases between with
    | nil => exact ⟨(List.append_nil xs).symm, (List.cons.inj hbetween).2⟩
    | cons b between =>
        obtain ⟨rfl, rfl⟩ := List.cons.inj hbetween
        exact absurd (List.mem_append_right between List.mem_cons_self) hzs
  · cases between with
    | nil => exact ⟨List.append_nil ys, (List.cons.inj hbetween).2.symm⟩
    | cons b between =>
        obtain ⟨rfl, rfl⟩ := List.cons.inj hbetween
        exact absurd (List.mem_append_right between List.mem_cons_self) hws

end Text

/-! ## Forms of a name -/

namespace Source

/-- The locals and the members in the source have identifiers for names. -/
def usesIdentifiers : Source → Bool
  | .local name => Text.isIdentifier name
  | .global _ => true
  | .member base name => base.usesIdentifiers && Text.isIdentifier name
  | .item base _ => base.usesIdentifiers

/-- What a source is the last step of. -/
inductive Form where
  | local
  | global
  | member
  | item
  deriving DecidableEq, Repr

/-- The form of a source. -/
def form : Source → Form
  | .local _ => .local
  | .global _ => .global
  | .member _ _ => .member
  | .item _ _ => .item

/-- The form of the source with this name, as it shows at the right end. -/
def formOf (name : List Char) : Form :=
  if name.getLast? = some ']' then
    if name.dropLast.getLast? = some '"' then .global else .item
  else if '.' ∈ name then .member
  else .local

variable {s t : Source}

theorem toList_name_global (text : String) :
    (Source.global text).name.toList =
      ('G' :: '[' :: '"' :: Text.escapeAll text.toList) ++ ['"'] ++ [']'] := by
  simp [name, Text.quote]

theorem toList_name_member (base : Source) (text : String) :
    (base.member text).name.toList = base.name.toList ++ '.' :: text.toList := by
  simp [name]

theorem toList_name_item (base : Source) (index : Nat) :
    (base.item index).name.toList = base.name.toList ++ '[' :: Nat.toDigits 10 index ++ [']'] := by
  simp [name]

theorem notMem_toDigits {c : Char} (hc : c.isDigit = false) (index : Nat) :
    c ∉ Nat.toDigits 10 index := by
  intro hmem
  rw [Nat.isDigit_of_mem_toDigits (by decide) (by decide) hmem] at hc
  cases hc

/-- What does not end with a bracket is the name of a member or of a local. -/
theorem formOf_append_namePart (init : List Char) {last : Char} (h : Text.isNamePart last = true) :
    formOf (init ++ [last]) = if '.' ∈ init ++ [last] then .member else .local := by
  have hne : (init ++ [last]).getLast? ≠ some ']' := by
    intro hbracket
    rw [List.getLast?_concat] at hbracket
    cases hbracket
    revert h
    decide
  exact if_neg hne

theorem formOf_append_bracket (init : List Char) (c : Char) :
    formOf (init ++ [c] ++ [']']) = if c = '"' then .global else .item := by
  unfold formOf
  rw [if_pos (List.getLast?_concat ..), List.dropLast_concat, List.getLast?_concat]
  simp

/-- The name of a source shows what its last step is. -/
theorem formOf_name (h : s.usesIdentifiers = true) : formOf s.name.toList = s.form := by
  cases s with
  | «local» text =>
      have hname : (Source.local text).name.toList = text.toList := rfl
      obtain ⟨init, last, hsplit, hlast⟩ := Text.exists_last_of_isIdentifier h
      have hdot : '.' ∉ text.toList := Text.notMem_of_isIdentifier h (by decide)
      rw [hsplit] at hdot
      rw [hname, hsplit, formOf_append_namePart init hlast, if_neg hdot]
      rfl
  | global text =>
      rw [toList_name_global, formOf_append_bracket, if_pos rfl]
      rfl
  | member base text =>
      have hidentifier := (Bool.and_eq_true_iff.mp h).2
      obtain ⟨init, last, hsplit, hlast⟩ := Text.exists_last_of_isIdentifier hidentifier
      have hname : (base.member text).name.toList =
          (base.name.toList ++ '.' :: init) ++ [last] := by
        rw [toList_name_member, hsplit, List.append_assoc, List.cons_append]
      have hdot : '.' ∈ (base.name.toList ++ '.' :: init) ++ [last] := by simp
      rw [hname, formOf_append_namePart _ hlast, if_pos hdot]
      rfl
  | item base index =>
      have hne : Nat.toDigits 10 index ≠ [] := Nat.toDigits_ne_nil
      have hsplit := List.dropLast_append_getLast hne
      have hlast : (Nat.toDigits 10 index).getLast hne ≠ '"' := by
        intro hquote
        have hmem := List.getLast_mem hne
        rw [hquote] at hmem
        exact notMem_toDigits (by decide) index hmem
      rw [toList_name_item, ← hsplit, ← List.cons_append, ← List.append_assoc,
        formOf_append_bracket, if_neg hlast]
      rfl

/-- The number of an item can be read from its digits. -/
theorem toDigits_injective : Function.Injective (Nat.toDigits 10) := by
  intro m n h
  calc m = Nat.ofDigitChars 10 (Nat.toDigits 10 m) 0 := Nat.ofDigitChars_ten_toDigits.symm
    _ = Nat.ofDigitChars 10 (Nat.toDigits 10 n) 0 := by rw [h]
    _ = n := Nat.ofDigitChars_ten_toDigits

/-- The last dot of the name of a member stands behind the name of its base. -/
theorem name_member_inj {base base' : Source} {text text' : String}
    (h : Text.isIdentifier text = true) (h' : Text.isIdentifier text' = true)
    (hname : (base.member text).name = (base'.member text').name) :
    base.name = base'.name ∧ text = text' := by
  have hlists := congrArg String.toList hname
  rw [toList_name_member, toList_name_member] at hlists
  have hdot : Text.isNamePart '.' = false := by decide
  obtain ⟨hbase, htext⟩ := Text.eq_of_append_cons (Text.notMem_of_isIdentifier h hdot)
    (Text.notMem_of_isIdentifier h' hdot) hlists
  exact ⟨String.toList_inj.mp hbase, String.toList_inj.mp htext⟩

/-- The last opening bracket of the name of an item stands behind the name of its base. -/
theorem name_item_inj {base base' : Source} {index index' : Nat}
    (hname : (base.item index).name = (base'.item index').name) :
    base.name = base'.name ∧ index = index' := by
  have hlists := congrArg String.toList hname
  rw [toList_name_item, toList_name_item] at hlists
  have hbracket : '['.isDigit = false := by decide
  obtain ⟨hbase, hdigits⟩ := Text.eq_of_append_cons (notMem_toDigits hbracket index)
    (notMem_toDigits hbracket index') (List.append_cancel_right hlists)
  exact ⟨String.toList_inj.mp hbase, toDigits_injective hdigits⟩

/-- Between its brackets the name of a global has the quoted text. -/
theorem name_global_inj {text text' : String}
    (hname : (Source.global text).name = (Source.global text').name) : text = text' := by
  have hlists := congrArg String.toList hname
  have hquoted (text : String) : (Source.global text).name.toList =
      ['G', '['] ++ (Text.quote text).toList ++ [']'] := by simp [name]
  rw [hquoted, hquoted] at hlists
  have hquotes := List.append_cancel_left (List.append_cancel_right hlists)
  exact Text.quote_injective (String.toList_inj.mp hquotes)

/-- Sources with one name have one form. -/
theorem form_eq_of_name_eq (hs : s.usesIdentifiers = true) (ht : t.usesIdentifiers = true)
    (h : s.name = t.name) : s.form = t.form := by
  calc s.form = formOf s.name.toList := (formOf_name hs).symm
    _ = formOf t.name.toList := by rw [h]
    _ = t.form := formOf_name ht

/-- Sources with one name are one source: they have the same form, what their last steps add to the
name is the same, and so are the names of their bases. -/
theorem eq_of_name_eq (hs : s.usesIdentifiers = true) (ht : t.usesIdentifiers = true)
    (h : s.name = t.name) : s = t := by
  -- the form leaves one constructor for `t`, and the bases have one name again
  induction s generalizing t with
  | «local» text =>
      have hform := form_eq_of_name_eq hs ht h
      cases t with
      | «local» text' => exact congrArg Source.local h
      | global _ | member _ _ | item _ _ => cases hform
  | global text =>
      have hform := form_eq_of_name_eq hs ht h
      cases t with
      | global text' => exact congrArg Source.global (name_global_inj h)
      | «local» _ | member _ _ | item _ _ => cases hform
  | member base text ih =>
      have hform := form_eq_of_name_eq hs ht h
      cases t with
      | member base' text' =>
          obtain ⟨hbase, htext⟩ := Bool.and_eq_true_iff.mp hs
          obtain ⟨hbase', htext'⟩ := Bool.and_eq_true_iff.mp ht
          obtain ⟨hname, rfl⟩ := name_member_inj htext htext' h
          have heq : base = base' := ih hbase hbase' hname
          rw [heq]
      | «local» _ | global _ | item _ _ => cases hform
  | item base index ih =>
      have hform := form_eq_of_name_eq hs ht h
      cases t with
      | item base' index' =>
          obtain ⟨hname, rfl⟩ := name_item_inj h
          have hbase : base = base' := ih hs ht hname
          rw [hbase]
      | «local» _ | global _ | member _ _ => cases hform

end Source

/-! ## Guards and inputs -/

/-- The entry at this position of the inputs in the summary has this name, and is for the input from
this source. -/
def Graph.ListsInput (g : Graph) (position : Nat) (name : String) (source : Source) : Prop :=
  ∃ nodes guards entries node input,
    g.summary = .object [("nodes", nodes), ("inputs", .array entries), ("guards", guards)] ∧
    entries[position]? = some (.array [.text name, node]) ∧
    g.liveInputs[position]? = some input ∧ input.source = source

/-- Each needed input is listed under the name of its source, and under no other. -/
theorem Graph.listsInput_iff {g : Graph} {position : Nat} {name : String} {source : Source} :
    g.ListsInput position name source ↔
      (∃ input, g.liveInputs[position]? = some input ∧ input.source = source) ∧
        name = source.name := by
  constructor
  · rintro ⟨nodes, guards, entries, node, input, hsummary, hentry, hinput, rfl⟩
    have hentries : entries = g.liveInputs.map GraphInput.summary := by
      unfold summary at hsummary
      injection hsummary with hfields
      injection hfields with _ hfields
      injection hfields with hinputs _
      injection hinputs with _ hinputs
      injection hinputs with hinputs
      exact hinputs.symm
    rw [hentries, List.getElem?_map, hinput] at hentry
    refine ⟨⟨input, hinput, rfl⟩, ?_⟩
    injection hentry with hentry
    injection hentry with hitems
    injection hitems with hname _
    injection hname with hname
    exact hname.symm
  · rintro ⟨⟨input, hinput, rfl⟩, rfl⟩
    refine ⟨_, _, g.liveInputs.map GraphInput.summary, input.node.toJson, input, rfl, ?_, hinput,
      rfl⟩
    rw [List.getElem?_map, hinput]
    rfl

/-- **The names of sources identify them.** Two sources whose locals and members have identifiers
for names have the same name only if they are the same, however deep they are and whatever the names
of globals are. So guards with one expression check one source. A summary lists each needed input
under the name of its source, and inputs that it lists under one name are from one source. -/
theorem name_identifies_source :
    (∀ s t : Source, s.usesIdentifiers = true → t.usesIdentifiers = true →
      (s.name = t.name ↔ s = t)) ∧
    (∀ g h : Guard, g.source.usesIdentifiers = true → h.source.usesIdentifiers = true →
      (g.name = h.name ↔ g.source = h.source)) ∧
    (∀ g : Graph, (∀ input ∈ g.liveInputs, input.source.usesIdentifiers = true) →
      (∀ k input, g.liveInputs[k]? = some input →
        g.ListsInput k input.source.name input.source) ∧
      ∀ k l name s t, g.ListsInput k name s → g.ListsInput l name t → s = t) := by
  have hsources : ∀ s t : Source, s.usesIdentifiers = true → t.usesIdentifiers = true →
      (s.name = t.name ↔ s = t) := by
    intro s t hs ht
    constructor
    · exact Source.eq_of_name_eq hs ht
    · intro heq
      rw [heq]
  refine ⟨hsources, fun g h => hsources g.source h.source, ?_⟩
  intro g hinputs
  constructor
  · intro k input hinput
    exact Graph.listsInput_iff.mpr ⟨⟨input, hinput, rfl⟩, rfl⟩
  · intro k l name s t hs ht
    obtain ⟨⟨i, hi, rfl⟩, hname⟩ := Graph.listsInput_iff.mp hs
    obtain ⟨⟨j, hj, rfl⟩, hname'⟩ := Graph.listsInput_iff.mp ht
    have huses := hinputs i (List.mem_of_getElem? hi)
    have huses' := hinputs j (List.mem_of_getElem? hj)
    exact (hsources i.source j.source huses huses').mp (hname.symm.trans hname')

/-- Locals that are no identifiers can be taken for members. -/
example : (Source.local "x.weight").name = ((Source.local "x").member "weight").name := by decide

/-- An item of a member is not a global whose text reads like the item, and a summary that lists
both has two names. -/
theorem name_item_ne_name_global :
    let s := ((Source.local "x").member "weight").item 0
    let t := Source.global "x.weight[0]"
    let g := { Graph.empty with inputs := [⟨s, ⟨0⟩, false⟩, ⟨t, ⟨1⟩, false⟩] }
    s.usesIdentifiers = true ∧ t.usesIdentifiers = true ∧ s.name ≠ t.name ∧
      g.ListsInput 0 s.name s ∧ g.ListsInput 1 t.name t := by
  intro s t g
  have hs : s.usesIdentifiers = true := by decide
  have ht : t.usesIdentifiers = true := by decide
  have hinputs : ∀ input ∈ g.liveInputs, input.source.usesIdentifiers = true := by
    intro input hinput
    rcases List.mem_pair.mp hinput with rfl | rfl
    · exact hs
    · exact ht
  obtain ⟨hsources, -, hgraphs⟩ := name_identifies_source
  have hlists := (hgraphs g hinputs).1
  refine ⟨hs, ht, ?_, hlists 0 _ rfl, hlists 1 _ rfl⟩
  intro hname
  have hne : s ≠ t := by decide
  exact hne ((hsources s t hs ht).mp hname)

end TensorCapture
