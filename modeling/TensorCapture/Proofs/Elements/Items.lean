import TensorCapture.Proofs.Elements.Rows

set_option autoImplicit false

/-! # Lengths and subscripts

The length of a value and its items are told by two kernels, and each decides for itself which
values have any. They agree on numbers, texts and other values without items, which both refuse, and
on tuples, lists, sizes and tensors: an index selects an item exactly if it counts from the front or
from the end to one of so many. On a record they do not agree. A subscript treats it as the tuple of
its items, but it has no length.

A tensor with elements has one exception more. A subscript forms the size of a row, and where this
leaves the words the run ends, whatever the length is.
-/

namespace TensorCapture

open Word (position InRange)

/-! ## Items -/

namespace Value

/-- The number of items that a subscript selects from. -/
def itemCount? : Value → Option Nat
  | tuple items => some items.length
  | list items => some items.length
  | record _ items => some items.length
  | size extents => some extents.length
  | tensor x => x.size.head?
  | _ => Option.none

/-- The item at a position: an item of a sequence, an extent of a size, or a row of a tensor. -/
def itemAt? (mode : Mode) (v : Value) (position : Nat) : Option Value :=
  match v with
  | tuple items => items[position]?
  | list items => items[position]?
  | record _ items => items[position]?
  | size extents => extents[position]?.map fun n => int (Word.signed n)
  | tensor x => x.size.head?.bind fun first =>
      if position < first then some (tensor (x.row mode position)) else Option.none
  | _ => Option.none

/-- The value is a record that has items. -/
def HasFields (v : Value) : Prop := ∃ type items, v = record type items ∧ items ≠ []

/-- A tensor of which a row is read has a row size, unless only its shape is asked for. -/
def RowsFormed (mode : Mode) (v : Value) : Prop :=
  ∀ x first rest, v = tensor x → x.size = first :: rest → 0 < first →
    mode.erases [x] = false → ∃ row, Word.product? rest = some row

/-- The value has so many items, a signed word, and each can be selected: a tensor is well formed
and its rows have a size. -/
structure Indexed (mode : Mode) (v : Value) (n : Nat) : Prop where
  count : v.itemCount? = some n
  fits : n < Word.signedBound
  wellFormed : ∀ x, v = tensor x → x.WellFormed
  rows : v.RowsFormed mode

variable {mode : Mode} {v : Value} {n k : Nat}

/-- The items of a record are as many as there are. -/
theorem indexed_record {type : RecordType} {items : List Value}
    (h : items.length < Word.signedBound) : (record type items).Indexed mode items.length := by
  refine ⟨rfl, h, ?_, ?_⟩
  · intro x hx
    cases hx
  · intro x first rest hx
    cases hx

/-- There is an item at each position below the number of items, and nowhere else. -/
theorem isSome_itemAt?_iff (mode : Mode) (hcount : v.itemCount? = some n) :
    (v.itemAt? mode k).isSome ↔ k < n := by
  cases v with
  | tuple items | list items | record _ items | size extents =>
      cases hcount
      simp [itemAt?]
  | tensor x =>
      have hhead : x.size.head? = some n := hcount
      simp [itemAt?, hhead]
  | none | bool _ | int _ | float _ | text _ | elementType _ | device _ | memoryFormat _ =>
      cases hcount

end Value

namespace Word

/-- Where a product is formed, so is that of the first factors. -/
theorem product?_of_append {xs ys : List Nat} {n : Nat} (h : product? (xs ++ ys) = some n) :
    ∃ m, product? xs = some m := by
  unfold product? at h ⊢
  rw [List.foldlM_append] at h
  obtain ⟨m, hm, -⟩ := Option.bind_eq_some_iff.mp h
  exact ⟨m, hm⟩

/-- Where the number of positions is a word, so is the size of a row. -/
theorem product?_tail {first n : Nat} {rest : List Nat} (hfirst : 0 < first)
    (h : product? (first :: rest) = some n) : ∃ row, product? rest = some row := by
  refine ⟨_, product?_eq_some ?_⟩
  rintro outer ⟨inner, rfl⟩
  obtain ⟨m, hm⟩ : ∃ m, product? (first :: outer) = some m := product?_of_append h
  have hvolume : m = first * Shape.volume outer := eq_volume_of_product? hm
  calc Shape.volume outer ≤ first * Shape.volume outer := Nat.le_mul_of_pos_left _ hfirst
    _ = m := hvolume.symm
    _ < bound := lt_bound_of_product? hm

end Word

/-- Where the positions of a tensor can be counted, its rows can be read. -/
theorem Value.rowsFormed_of_numel? {mode : Mode} {v : Value}
    (h : ∀ x, v = .tensor x → ∃ count, x.numel? = some count) : v.RowsFormed mode := by
  intro x first rest hv hsize hfirst _
  obtain ⟨count, hcount⟩ := h x hv
  unfold Tensor.numel? Shape.size? at hcount
  rw [hsize] at hcount
  exact Word.product?_tail hfirst hcount

/-! ## The two kernels -/

namespace Kernel

variable {mode : Mode} {v : Value} {n : Nat}

/-- What is done with an index within the bounds is done with its position. -/
theorem resolveIndex_bind_eq {α : Type} (hn : n < Word.signedBound) (index : Int64)
    (read : Nat → Kernel α) :
    (resolveIndex index n >>= read) =
      if InRange index n then read (position index n).toNat
      else fail (.indexOutOfBounds index.toInt n) := by
  rw [resolveIndex_eq hn]
  by_cases hrange : InRange index n
  · rw [if_pos hrange, if_pos hrange]
    rfl
  · rw [if_neg hrange, if_neg hrange]
    rfl

/-- A subscript gives the item at the position that the index denotes, and any other index is
reported with the number of items. -/
theorem subscript_eq (h : v.Indexed mode n) (index : Int64) :
    subscript mode v (.int index) =
      if InRange index n then Outcome.ofBounded (v.itemAt? mode (position index n).toNat)
      else fail (.indexOutOfBounds index.toInt n) := by
  obtain ⟨hcount, hn, hwell, hrows⟩ := h
  cases v with
  | tuple items | list items | record _ items =>
      cases hcount
      exact resolveIndex_bind_eq hn index _
  | size extents =>
      cases hcount
      refine (resolveIndex_bind_eq hn index _).trans ?_
      congr 1
      show _ = Outcome.ofBounded (extents[(position index extents.length).toNat]?.map _)
      cases extents[(position index extents.length).toNat]? with
      | none => rfl
      | some extent => rfl
  | tensor x =>
      obtain ⟨rest, hsize⟩ := List.head?_eq_some_iff.mp hcount
      rw [subscript_tensor mode hsize, resolveIndex_bind_eq hn]
      by_cases hrange : InRange index n
      · have hposition : (position index n).toNat < n := hrange.toNat_lt
        have hfirst : 0 < n := Nat.zero_lt_of_lt hposition
        have hitem : Value.itemAt? mode (.tensor x) (position index n).toNat =
            some (.tensor (x.row mode (position index n).toNat)) := by
          simp [Value.itemAt?, hsize, hposition]
        rw [if_pos hrange, if_pos hrange, hitem]
        exact readRow_eq (hwell x rfl) hsize (hrows x n rest rfl hsize hfirst) hposition
      · rw [if_neg hrange, if_neg hrange]
  | none | bool _ | int _ | float _ | text _ | elementType _ | device _ | memoryFormat _ =>
      cases hcount

/-- Where the size of a row cannot be formed, an index within the bounds ends the run. -/
theorem subscript_eq_abort {x : Tensor} {rest : List Nat} (hsize : x.size = n :: rest)
    (hn : n < Word.signedBound) (hdense : mode.erases [x] = false)
    (hrow : Word.product? rest = none) {index : Int64} (hrange : InRange index n) :
    subscript mode (.tensor x) (.int index) = .error .abort := by
  rw [subscript_tensor mode hsize, resolveIndex_bind_eq hn, if_pos hrange, hdense, hrow]
  rfl

theorem length_tensor {x : Tensor} {rest : List Nat} (hsize : x.size = n :: rest) :
    length (.tensor x) = .ok (.int (Word.signed n)) := by
  unfold length
  simp only [hsize]

/-- The length is the number of items, unless they are those of a record. -/
theorem length_eq (hcount : v.itemCount? = some n)
    (hrecord : ∀ type items, v ≠ .record type items) : length v = .ok (.int (Word.signed n)) := by
  cases v with
  | tuple items | list items | size extents =>
      cases hcount
      rfl
  | record type items => exact absurd rfl (hrecord type items)
  | tensor x =>
      obtain ⟨rest, hsize⟩ := List.head?_eq_some_iff.mp hcount
      exact length_tensor hsize
  | none | bool _ | int _ | float _ | text _ | elementType _ | device _ | memoryFormat _ =>
      cases hcount

/-- A value without items has neither a length nor subscripts. -/
theorem refuses_of_itemCount? (hcount : v.itemCount? = none) :
    (∃ failure, length v = fail failure) ∧
      ∀ index, ∃ failure, subscript mode v (.int index) = fail failure := by
  cases v with
  | tuple _ | list _ | size _ | record _ _ => cases hcount
  | tensor x =>
      have hsize : x.size = [] := List.head?_eq_none_iff.mp hcount
      constructor
      · refine ⟨.lengthOfScalar, ?_⟩
        unfold length
        simp only [hsize]
      · intro index
        refine ⟨.subscriptOfScalar, ?_⟩
        unfold subscript
        simp only [hsize]
        rfl
  | none | bool _ | int _ | float _ | text _ | elementType _ | device _ | memoryFormat _ =>
      exact ⟨⟨_, rfl⟩, fun _ => ⟨_, rfl⟩⟩

end Kernel

/-! ## Agreement -/

/-- The operation reported an error. -/
def Outcome.Reports {ε α : Type} (outcome : Outcome ε α) : Prop := ∃ e, outcome = fail e

namespace Library

/-- What the library says of the length of a value. -/
def lengthOf (lib : Library) (v : Value) (kwargs : Named Value) : Kernel Value :=
  (lib.callFunction (.builtin .len) [v] kwargs).1

/-- What the library says of the item at an index. -/
def subscriptOf (lib : Library) (v : Value) (index : Int64) (kwargs : Named Value) : Kernel Value :=
  (lib.callFunction (.builtin .getItem) [v, .int index] kwargs).1

/-- Either the value has neither a length nor any item, or its length says which indices select an
item, and a negative index selects the item at the sum of the index and the length. -/
def LengthAgrees (lib : Library) (v : Value) (kwargs : Named Value) : Prop :=
  (lib.lengthOf v kwargs).Reports ∧ (∀ index, (lib.subscriptOf v index kwargs).Reports) ∨
    ∃ n : Int64, lib.lengthOf v kwargs = .ok (.int n) ∧
      (∀ index, (∃ item, lib.subscriptOf v index kwargs = .ok item) ↔
        -n.toInt ≤ index.toInt ∧ index.toInt < n.toInt) ∧
      ∀ index counted : Int64, -n.toInt ≤ index.toInt → index < 0 →
        counted.toInt = index.toInt + n.toInt →
        lib.subscriptOf v index kwargs = lib.subscriptOf v counted kwargs

variable {lib : Library} {v : Value} {n : Nat} (kwargs : Named Value)

/-- An index within the bounds selects the item at the position that it denotes. -/
theorem subscriptOf_eq_ok (h : v.Indexed lib.mode n) {index : Int64} (hrange : InRange index n) :
    ∃ item, v.itemAt? lib.mode (position index n).toNat = some item ∧
      lib.subscriptOf v index kwargs = .ok item := by
  obtain ⟨item, hitem⟩ := Option.isSome_iff_exists.mp
    ((Value.isSome_itemAt?_iff lib.mode h.count).mpr hrange.toNat_lt)
  refine ⟨item, hitem, ?_⟩
  show Kernel.subscript lib.mode v (.int index) = .ok item
  rw [Kernel.subscript_eq h, if_pos hrange, hitem]
  rfl

/-- Any other index is reported, with the number of items. -/
theorem subscriptOf_eq_fail (h : v.Indexed lib.mode n) {index : Int64}
    (hrange : ¬InRange index n) :
    lib.subscriptOf v index kwargs = Kernel.fail (.indexOutOfBounds index.toInt n) := by
  show Kernel.subscript lib.mode v (.int index) = _
  rw [Kernel.subscript_eq h, if_neg hrange]

/-- Indices that differ by the length select the same item. -/
theorem subscriptOf_congr (h : v.Indexed lib.mode n) {index counted : Int64}
    (hrange : InRange index n) (hrange' : InRange counted n)
    (hsum : counted.toInt = index.toInt + n) :
    lib.subscriptOf v index kwargs = lib.subscriptOf v counted kwargs := by
  have hposition : position index n = position counted n := by
    rw [Word.position_eq_emod hrange, Word.position_eq_emod hrange', hsum, Int.add_emod_right]
  obtain ⟨item, hat, hitem⟩ := subscriptOf_eq_ok kwargs h hrange
  obtain ⟨item', hat', hitem'⟩ := subscriptOf_eq_ok kwargs h hrange'
  rw [hposition, hat'] at hat
  rw [hitem, hitem', Option.some.inj hat]

/-- A value with items that is no record has a length that agrees with its subscripts. -/
theorem lengthAgrees_of_indexed (h : v.Indexed lib.mode n)
    (hrecord : ∀ type items, v ≠ .record type items) : lib.LengthAgrees v kwargs := by
  have hword : (Word.signed n).toInt = n := Kernel.toInt_signed h.fits
  refine .inr ⟨Word.signed n, Kernel.length_eq h.count hrecord, ?_, ?_⟩
  · intro index
    rw [hword, ← Word.inRange_iff]
    constructor
    · rintro ⟨item, hitem⟩
      by_contra hrange
      rw [subscriptOf_eq_fail kwargs h hrange] at hitem
      cases hitem
    · intro hrange
      obtain ⟨item, -, hitem⟩ := subscriptOf_eq_ok kwargs h hrange
      exact ⟨item, hitem⟩
  · intro index counted hlower hnegative hsum
    rw [hword] at hlower hsum
    have hbelow : index.toInt < 0 := Int64.lt_iff_toInt_lt.mp hnegative
    apply subscriptOf_congr kwargs h _ _ hsum
    · exact Word.inRange_iff.mpr ⟨by omega, by omega⟩
    · exact Word.inRange_iff.mpr ⟨by omega, by omega⟩

/-- A value without items has neither a length nor subscripts. -/
theorem lengthAgrees_of_itemCount? (hcount : v.itemCount? = none) : lib.LengthAgrees v kwargs := by
  obtain ⟨⟨failure, hlength⟩, hsubscript⟩ := Kernel.refuses_of_itemCount? hcount
  refine .inl ⟨⟨_, hlength⟩, ?_⟩
  intro index
  obtain ⟨failure', hfail⟩ := hsubscript index
  exact ⟨_, hfail⟩

/-- An empty record has no length, and no index is within its bounds. -/
theorem lengthAgrees_record_nil (type : RecordType) :
    lib.LengthAgrees (.record type []) kwargs := by
  refine .inl ⟨⟨_, rfl⟩, ?_⟩
  intro index
  exact ⟨_, subscriptOf_eq_fail kwargs (Value.indexed_record (by decide))
    (Word.not_inRange_zero index)⟩

/-- Where rows have a size, length and subscripts agree on everything but records with items. -/
theorem lengthAgrees_of_rowsFormed (hwell : ∀ x, v = .tensor x → x.WellFormed)
    (hfits : ∀ n, v.itemCount? = some n → n < Word.signedBound) (hfields : ¬v.HasFields)
    (hrows : v.RowsFormed lib.mode) : lib.LengthAgrees v kwargs := by
  cases hcount : v.itemCount? with
  | none => exact lengthAgrees_of_itemCount? kwargs hcount
  | some n =>
      by_cases hrecord : ∃ type items, v = .record type items
      · obtain ⟨type, items, rfl⟩ := hrecord
        obtain rfl : items = [] := by_contra fun hitems => hfields ⟨type, items, rfl, hitems⟩
        exact lengthAgrees_record_nil kwargs type
      · apply lengthAgrees_of_indexed kwargs ⟨hcount, hfits n hcount, hwell, hrows⟩
        intro type items h
        exact hrecord ⟨type, items, h⟩

variable {kwargs : Named Value}

/-- Where the length is refused, so is every index. -/
theorem LengthAgrees.reports (h : lib.LengthAgrees v kwargs) {failure : Failure}
    (hlength : lib.lengthOf v kwargs = Kernel.fail failure) (index : Int64) :
    (lib.subscriptOf v index kwargs).Reports := by
  rcases h with ⟨-, hreports⟩ | ⟨n, hanswer, -⟩
  · exact hreports index
  · rw [hlength] at hanswer
    cases hanswer

/-- Where the length is some number, it says which indices select an item. -/
theorem LengthAgrees.selects (h : lib.LengthAgrees v kwargs) {n : Int64}
    (hlength : lib.lengthOf v kwargs = .ok (.int n)) (index : Int64) :
    (∃ item, lib.subscriptOf v index kwargs = .ok item) ↔
      -n.toInt ≤ index.toInt ∧ index.toInt < n.toInt := by
  rcases h with ⟨⟨e, hreports⟩, -⟩ | ⟨n', hanswer, hselects, -⟩
  · rw [hlength] at hreports
    cases hreports
  · rw [hlength] at hanswer
    cases hanswer
    exact hselects index

/-- The first index selects an item of a record, but the record has no length. -/
theorem not_lengthAgrees_record {type : RecordType} {items : List Value} (hitems : items ≠ [])
    (hn : items.length < Word.signedBound) : ¬lib.LengthAgrees (.record type items) kwargs := by
  intro hagrees
  have hrange : InRange 0 items.length :=
    ⟨le_refl 0, Int.natCast_pos.mpr (List.length_pos_iff.mpr hitems)⟩
  obtain ⟨item, -, hitem⟩ := subscriptOf_eq_ok kwargs (Value.indexed_record hn) hrange
  obtain ⟨e, hreport⟩ := hagrees.reports rfl 0
  rw [hitem] at hreport
  cases hreport

/-- The first index ends the run, but the tensor has a length that is not zero. -/
theorem not_lengthAgrees_tensor {x : Tensor} {first : Nat} {rest : List Nat}
    (hsize : x.size = first :: rest) (hpos : 0 < first) (hfirst : first < Word.signedBound)
    (hdense : lib.mode.erases [x] = false) (hrow : Word.product? rest = none) :
    ¬lib.LengthAgrees (.tensor x) kwargs := by
  intro hagrees
  have hrange : InRange 0 first := ⟨le_refl 0, Int.natCast_pos.mpr hpos⟩
  have habort : lib.subscriptOf (.tensor x) 0 kwargs = .error .abort :=
    Kernel.subscript_eq_abort hsize hfirst hdense hrow hrange
  have hlength : lib.lengthOf (.tensor x) kwargs = .ok (.int (Word.signed first)) :=
    Kernel.length_tensor hsize
  have hinside : -(Word.signed first).toInt ≤ (0 : Int64).toInt ∧
      (0 : Int64).toInt < (Word.signed first).toInt := by
    rw [Kernel.toInt_signed hfirst]
    exact Word.inRange_iff.mp hrange
  obtain ⟨item, hitem⟩ := (hagrees.selects hlength 0).mpr hinside
  rw [habort] at hitem
  cases hitem

end Library

/-- **Length and subscripts agree on all values but records with items, and tensors whose rows have
no size.** The length of a value, where it has one, is the number of its items, and an index selects
an item exactly if it counts to one from the front or from the end. The length of a record is
refused, while its subscripts are those of the tuple of its items. A tensor whose positions can be
counted has rows of some size. -/
theorem length_agrees (lib : Library) (v : Value) (kwargs : Named Value)
    (hwell : ∀ x, v = .tensor x → x.WellFormed)
    (hfits : ∀ n, v.itemCount? = some n → n < Word.signedBound) :
    (lib.LengthAgrees v kwargs ↔ ¬v.HasFields ∧ v.RowsFormed lib.mode) ∧
      (v.RowsFormed lib.mode → ∀ n, v.itemCount? = some n → ∀ index,
        (InRange index n → ∃ item, v.itemAt? lib.mode (position index n).toNat = some item ∧
          lib.subscriptOf v index kwargs = .ok item) ∧
        (¬InRange index n →
          lib.subscriptOf v index kwargs = Kernel.fail (.indexOutOfBounds index.toInt n))) ∧
      (∀ type items, v = .record type items →
        lib.lengthOf v kwargs = Kernel.fail (.noLength type.name) ∧
          ∀ index, lib.subscriptOf v index kwargs = lib.subscriptOf (.tuple items) index kwargs) ∧
      ((∀ x, v = .tensor x → ∃ count, x.numel? = some count) → v.RowsFormed lib.mode) := by
  refine ⟨⟨fun hagrees => ⟨?_, ?_⟩, ?_⟩, ?_, ?_, Value.rowsFormed_of_numel?⟩
  · rintro ⟨type, items, rfl, hitems⟩
    exact Library.not_lengthAgrees_record hitems (hfits _ rfl) hagrees
  · rintro x first rest rfl hsize hpos hdense
    have hfirst : first < Word.signedBound := by
      apply hfits
      show x.size.head? = some first
      rw [hsize]
      rfl
    cases hrow : Word.product? rest with
    | some row => exact ⟨row, rfl⟩
    | none =>
        exact absurd hagrees (Library.not_lengthAgrees_tensor hsize hpos hfirst hdense hrow)
  · rintro ⟨hfields, hrows⟩
    exact Library.lengthAgrees_of_rowsFormed kwargs hwell hfits hfields hrows
  · intro hrows n hcount index
    have hindexed : v.Indexed lib.mode n := ⟨hcount, hfits n hcount, hwell, hrows⟩
    exact ⟨Library.subscriptOf_eq_ok kwargs hindexed, Library.subscriptOf_eq_fail kwargs hindexed⟩
  · rintro type items rfl
    exact ⟨rfl, fun index => rfl⟩

/-- A tensor of two elements. The index `-1` selects the second. -/
theorem length_agrees_pair :
    let lib := Library.ofSeed 0
    let x := Tensor.ofElements [2] #[1.0, 2.0] .f32
    (∀ y, Value.tensor x = .tensor y → y.WellFormed) ∧
      (∀ n, Value.itemCount? (.tensor x) = some n → n < Word.signedBound) ∧
      lib.LengthAgrees (.tensor x) [] ∧
      lib.subscriptOf (.tensor x) (-1) [] = .ok (.tensor (x.row .eager 1)) := by
  intro lib x
  have hwell : ∀ y, Value.tensor x = .tensor y → y.WellFormed := by
    rintro y ⟨⟩
    exact ⟨rfl, rfl⟩
  have hfits : ∀ n, Value.itemCount? (.tensor x) = some n → n < Word.signedBound := by
    rintro n ⟨⟩
    decide
  obtain ⟨hagrees, hselects, -, hrows⟩ := length_agrees lib (.tensor x) [] hwell hfits
  have hformed : Value.RowsFormed lib.mode (.tensor x) := by
    apply hrows
    rintro y ⟨⟩
    exact ⟨2, by decide⟩
  obtain ⟨item, hat, hitem⟩ := (hselects hformed 2 rfl (-1)).1 (by decide)
  obtain rfl : Value.tensor (x.row .eager 1) = item := Option.some.inj hat
  have hfields : ¬Value.HasFields (.tensor x) := by
    rintro ⟨type, items, h, -⟩
    cases h
  exact ⟨hwell, hfits, hagrees.mpr ⟨hfields, hformed⟩, hitem⟩

/-- The first item of a record of two can be selected, but the record has no length. -/
theorem not_lengthAgrees_pair :
    ¬(Library.ofSeed 0).LengthAgrees (.record ⟨"pair", ["first", "second"]⟩ [.int 1, .int 2]) [] :=
  Library.not_lengthAgrees_record (List.cons_ne_nil _ _) (by decide)

end TensorCapture
