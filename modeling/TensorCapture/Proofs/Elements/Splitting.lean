import TensorCapture.Proofs.Elements.Pieces
import TensorCapture.Proofs.Elements.Unpacked

set_option autoImplicit false

/-! # Splitting a tensor along its first axis

Pieces, subscripts and unpacking take rows out of a tensor by three paths. They agree on what a row
is, and none loses or repeats one. Only the size of a row is formed in different places: pieces form
it for every tensor, subscripts for tensors with elements. Where it overflows before a zero extent
is reached, a placeholder has rows but cannot be cut into pieces.
-/

namespace TensorCapture

open Capture

theorem of_getElem?_map_range {α : Type} {f : Nat → α} {n k : Nat} {a : α}
    (h : ((List.range n).map f)[k]? = some a) : k < n ∧ f k = a := by
  have hk : k < n := by simpa using (List.getElem?_eq_some_iff.mp h).1
  rw [List.getElem?_map, List.getElem?_range hk] at h
  exact ⟨hk, Option.some.inj h⟩

theorem mapIdx_map_range {α β : Type} (f : Nat → α) (g : Nat → α → β) (n : Nat) :
    ((List.range n).map f).mapIdx g = (List.range n).map fun k => g k (f k) := by
  refine List.ext_getElem? fun i => ?_
  by_cases hi : i < n
  · simp [hi]
  · simp [hi]

namespace Library

/-- The answer to a subscript of a tensor with an integer. -/
def itemAt (lib : Library) (x : Tensor) (index : Int64) : Kernel Value :=
  (lib.callFunction (.builtin .getItem) [.tensor x, .int index] []).1

/-- The tensors are the rows of another one, in order, and hold its elements once each. -/
structure Rows (lib : Library) (x : Tensor) (first : Nat) (items : List Tensor) : Prop where
  length : items.length = first
  item : ∀ k item, items[k]? = some item → lib.itemAt x (Word.signed k) = .ok (.tensor item)
  values : lib.mode = .eager → ∀ elements, x.storage = .dense elements →
    items.flatMap (fun item => item.storage.values) = elements.toList

/-- The tensors are pieces of another one, at most `count` of them. None is empty, and all but the
last have `step` rows. Their rows are those of the tensor, and they hold its elements once each. -/
structure Pieces (lib : Library) (x : Tensor) (first : Nat) (rest : List Nat) (step count : Nat)
    (pieces : List Tensor) : Prop where
  length : pieces.length ≤ count
  total : (pieces.map fun piece => piece.size.headD 0).sum = first
  piece : ∀ k piece, pieces[k]? = some piece → ∃ rows, piece.size = rows :: rest ∧
    0 < rows ∧ rows ≤ step ∧ (k + 1 < pieces.length → rows = step) ∧
    ∀ r < rows, ∃ item, lib.itemAt piece (Word.signed r) = .ok (.tensor item) ∧
      lib.itemAt x (Word.signed (k * step + r)) = .ok (.tensor item)
  values : lib.mode = .eager → ∀ elements, x.storage = .dense elements →
    pieces.flatMap (fun piece => piece.storage.values) = elements.toList

variable {lib : Library} {x : Tensor} {first : Nat} {rest : List Nat}

theorem itemAt_eq (lib : Library) (x : Tensor) (index : Int64) :
    lib.itemAt x index = Kernel.subscript lib.mode (.tensor x) (.int index) := rfl

/-- The elements as the library reads them are the elements of a tensor that has some. -/
theorem values_read {elements : Array Float} (hmode : lib.mode = .eager)
    (hdense : x.storage = .dense elements) : (x.read lib.mode).values = elements.toList := by
  rw [hmode]
  unfold Tensor.read
  simp only [hdense]
  rfl

/-- Subscripts with the positions in order give the rows. -/
theorem rows_map_row (h : x.WellFormed) (hsize : x.size = first :: rest)
    (hfirst : first < Word.signedBound)
    (hrow : lib.mode.erases [x] = false → ∃ row, Word.product? rest = some row) :
    lib.Rows x first ((List.range first).map fun k => x.row lib.mode k) where
  length := by simp
  item := by
    intro k item hitem
    obtain ⟨hk, rfl⟩ := of_getElem?_map_range hitem
    exact Kernel.subscript_signed_eq h hsize hfirst hrow hk
  values := by
    intro hmode elements hdense
    rw [List.flatMap_map, Tensor.flatMap_rows h hsize]
    exact values_read hmode hdense

/-- An index within the bounds gives the row at its remainder, and any other is reported. -/
theorem itemAt_of_inRange (h : x.WellFormed) (hsize : x.size = first :: rest)
    (hfirst : first < Word.signedBound)
    (hrow : lib.mode.erases [x] = false → ∃ row, Word.product? rest = some row) {index : Int64}
    (hindex : Word.InRange index first) :
    ∃ item, lib.itemAt x index = .ok (.tensor item) ∧
      lib.itemAt x (Int64.ofInt (index.toInt % first)) = .ok (.tensor item) := by
  have hposition := Word.position_eq_emod hindex
  have hremainder : Int64.ofInt (index.toInt % first) =
      Word.signed (Word.position index first).toNat := by
    obtain ⟨n, hn⟩ := Int.eq_ofNat_of_zero_le hindex.1
    rw [← hposition, hn, Int.toNat_natCast]
    exact Int64.ofInt_eq_ofNat
  refine ⟨x.row lib.mode (Word.position index first).toNat, ?_, ?_⟩
  · rw [itemAt_eq, Kernel.subscript_tensor_eq h hsize hfirst hrow, if_pos hindex]
  · rw [hremainder]
    exact Kernel.subscript_signed_eq h hsize hfirst hrow hindex.toNat_lt

open Kernel in
/-- The cuts are pieces. -/
theorem pieces_map_pieceAt (h : x.WellFormed) (hsize : x.size = first :: rest)
    (hfirst : first < Word.signedBound)
    (hrow : ∃ row, Word.product? rest = some row) {asked : Int64} (hasked : 0 < asked) :
    lib.Pieces x first rest (first ⌈/⌉ asked.toInt.toNat) asked.toInt.toNat
      ((List.range (first ⌈/⌉ rowsPerPiece first asked)).map fun k =>
        pieceAt lib.mode x (rowsPerPiece first asked) first k) where
  length := by
    have hcount : 0 < asked.toInt := Int64.lt_iff_toInt_lt.mp hasked
    rw [List.length_map, List.length_range]
    exact ceilDiv_ceilDiv_le (by omega)
  total := by
    rw [List.map_map]
    calc _ = cutAt (rowsPerPiece first asked) first (first ⌈/⌉ rowsPerPiece first asked) :=
          sum_cutAt ..
      _ = first := cutAt_last (rowsPerPiece_pos first asked)
  piece := by
    intro k piece hpiece
    obtain ⟨hk, rfl⟩ := of_getElem?_map_range hpiece
    have hstep := rowsPerPiece_pos first asked
    have hinside : k * rowsPerPiece first asked < first := (lt_ceilDiv_iff hstep).mp hk
    have hquotient : rowsPerPiece first asked = first ⌈/⌉ asked.toInt.toNat :=
      rowsPerPiece_of_pos (by omega) hasked
    obtain ⟨hsome, hfew, hwhole⟩ := cutAt_succ_sub hstep hk
    rw [← hquotient]
    refine ⟨_, size_pieceAt hsize _ k, hsome, hfew, ?_, ?_⟩
    · intro hmore
      rw [List.length_map, List.length_range] at hmore
      exact hwhole hmore
    · intro r hr
      have hstart := cutAt_of_lt hstep hk
      have hstop : cutAt (rowsPerPiece first asked) first (k + 1) ≤ first := Nat.min_le_right _ _
      -- the subscript of the piece and that of the tensor meet in one row of the tensor
      refine ⟨x.row lib.mode (k * rowsPerPiece first asked + r), ?_, ?_⟩
      · have hformed : (pieceAt lib.mode x (rowsPerPiece first asked) first k).WellFormed :=
          wellFormed_pieceAt h hsize _ k
        rw [itemAt_eq, subscript_signed_eq hformed (size_pieceAt hsize _ k) (by omega)
          (fun _ => hrow) hr, row_pieceAt hstep hk hr]
      · rw [itemAt_eq, subscript_signed_eq h hsize hfirst (fun _ => hrow) (by omega)]
  values := by
    intro hmode elements hdense
    have hfirstCut : cutAt (rowsPerPiece first asked) first 0 = 0 := by simp [cutAt]
    rw [List.flatMap_map]
    calc _ = (x.readRows lib.mode (cutAt (rowsPerPiece first asked) first 0)
            (cutAt (rowsPerPiece first asked) first
              (first ⌈/⌉ rowsPerPiece first asked))).values :=
          Tensor.flatMap_readRows (monotone_cutAt _ _) _
      _ = (x.readRows lib.mode 0 first).values := by
          rw [hfirstCut, cutAt_last (rowsPerPiece_pos first asked)]
      _ = (x.read lib.mode).values := by rw [Tensor.readRows_all h hsize]
      _ = elements.toList := values_read hmode hdense

end Library

open Library

/-- **Splitting a tensor along its first axis loses and repeats nothing.** Where the size of a row
can be formed, there are as many pieces as were asked for or fewer. None is empty, all but the last
have the rounded quotient of the rows, together they have all rows, and row `r` of piece `k` is the
row of the tensor that many rows behind the `k` pieces before it, also where there are no elements.
Where elements are computed, the pieces hold those of the tensor in order, and so do its rows. The
index counts from the end where it is negative, and outside of the bounds it is reported. A trace
that unpacks the tensor records a subscript for each row, with the row as its example. -/
theorem pieces_and_rows_keep_elements :
    ∀ (x : Tensor) (first : Nat) (rest : List Nat), x.WellFormed → x.size = first :: rest →
      first < Word.signedBound →
      (∀ (lib : Library) (asked : Int64) (kwargs : Named Value), 0 < asked →
        (∀ row, Word.product? rest = some row → ∃ pieces,
          lib.callMethod "chunk" (.tensor x) [.int asked] kwargs =
            .ok (.tuple (pieces.map Value.tensor)) ∧
          lib.Pieces x first rest (first ⌈/⌉ asked.toInt.toNat) asked.toInt.toNat pieces) ∧
        (Word.product? rest = none →
          lib.callMethod "chunk" (.tensor x) [.int asked] kwargs = .error .abort)) ∧
      (∀ lib : Library, (lib.mode.erases [x] = false → ∃ row, Word.product? rest = some row) →
        (∀ index : Int64, -(first : Int) ≤ index.toInt ∧ index.toInt < first →
          ∃ item, lib.itemAt x index = .ok (.tensor item) ∧
            lib.itemAt x (Int64.ofInt (index.toInt % first)) = .ok (.tensor item)) ∧
        (∀ index : Int64, ¬(-(first : Int) ≤ index.toInt ∧ index.toInt < first) →
          lib.itemAt x index = Kernel.fail (.indexOutOfBounds index.toInt first)) ∧
        ∃ items, lib.Rows x first items) ∧
      (∀ (t : Trace) (v : SymbolicTensor) (row : Nat), Word.product? rest = some row →
        (∀ c, v.role ≠ .symbolicNumber c) → v.size? = some (first :: rest) →
        t.config.dynamicPropagation = true → t.graph.stored? v.node = some (.tensor x) →
        ∃ items vs u,
          (t.running t.config.placeholderPropagation).Rows
            (x.called t.config.placeholderPropagation) first items ∧
          (unpack v).outcome t = (.ok vs, u) ∧
          vs = items.mapIdx (fun k item => .tensor ⟨⟨t.graph.nodes.size + k⟩,
            some (item.captured t.config), none, .plain, v.propagated⟩) ∧
          u.graph.nodes.toList = t.graph.nodes.toList ++ items.mapIdx fun k item =>
            .subscript ⟨t.graph.nodes.size + k⟩ v.node k (some (.tensor item))) := by
  intro x first rest h hsize hfirst
  refine ⟨fun lib asked kwargs hasked => ⟨fun row hrow => ?_, fun hrow => ?_⟩,
    fun lib hrow => ⟨fun index hindex => ?_, fun index hindex => ?_, ?_⟩,
    fun t v row hrow hrole hextents hdynamic hstored => ?_⟩
  · refine ⟨_, ?_, pieces_map_pieceAt h hsize hfirst ⟨row, hrow⟩ hasked⟩
    rw [List.map_map]
    exact Kernel.pieces_eq h hsize hfirst hrow hasked
  · exact Kernel.pieces_eq_abort hsize hrow hasked
  · exact itemAt_of_inRange h hsize hfirst hrow (Word.inRange_iff.mpr hindex)
  · rw [itemAt_eq, Kernel.subscript_tensor_eq h hsize hfirst hrow,
      if_neg (Word.inRange_iff.not.mpr hindex)]
  · exact ⟨_, rows_map_row h hsize hfirst hrow⟩
  · have hsame : (x.called t.config.placeholderPropagation).size = first :: rest :=
      (Tensor.size_called _ x).trans hsize
    have hrows : (t.running t.config.placeholderPropagation).Rows
        (x.called t.config.placeholderPropagation) first
        ((List.range first).map (unpackedRow t x)) :=
      rows_map_row (Tensor.wellFormed_called h _) hsame hfirst fun _ => ⟨row, hrow⟩
    have hunpack :=
      answersIff_unpack hrole hextents hdynamic hstored h hsize hfirst hrow
    rcases hunpack with ⟨-, vs, u, hout, rfl, hadds⟩ | ⟨hfalse, -⟩
    · refine ⟨_, _, u, hrows, hout, ?_, ?_⟩
      · rw [mapIdx_map_range]
      · rw [mapIdx_map_range]
        exact hadds.nodes_eq
    · exact absurd trivial hfalse

/-- Three rows of two, in two pieces and unpacked by a trace. -/
theorem pieces_and_rows_keep_elements_three :
    ∃ (x : Tensor) (t : Trace) (v : SymbolicTensor),
      x = .ofElements [3, 2] #[0, 1, 2, 3, 4, 5] .f32 ∧ x.WellFormed ∧ 3 < Word.signedBound ∧
      Word.product? [2] = some 2 ∧ (∀ c, v.role ≠ .symbolicNumber c) ∧ v.size? = some [3, 2] ∧
      t.config.dynamicPropagation = true ∧ t.graph.stored? v.node = some (.tensor x) ∧
      (∃ pieces, (Library.ofSeed 0).callMethod "chunk" (.tensor x) [.int 2] [] =
          .ok (.tuple (pieces.map Value.tensor)) ∧
        (Library.ofSeed 0).Pieces x 3 [2] 2 2 pieces) ∧
      (∃ item, (Library.ofSeed 0).itemAt x (-1) = .ok (.tensor item) ∧
        (Library.ofSeed 0).itemAt x 2 = .ok (.tensor item)) ∧
      (Library.ofSeed 0).itemAt x 3 = Kernel.fail (.indexOutOfBounds 3 3) ∧
      (∃ items, (Library.ofSeed 0).Rows x 3 items) ∧
      ∃ vs u, (unpack v).outcome t = (.ok vs, u) ∧
        u.graph.nodes.size = t.graph.nodes.size + 3 := by
  let x : Tensor := .ofElements [3, 2] #[0, 1, 2, 3, 4, 5] .f32
  let start : Trace := { Trace.ofInput "x" with config := ⟨false, false, false, true⟩ }
  let t : Trace := ((create ⟨0⟩ (some (.tensor x)) none .plain .none).outcome start).2
  let v : SymbolicTensor := ⟨⟨0⟩, some (x.specialize start.config), none, .plain, .none⟩
  have h : x.WellFormed := ⟨rfl, rfl⟩
  have hfirst : 3 < Word.signedBound := by decide
  have hrow : Word.product? [2] = some 2 := by decide
  have hrole : ∀ c, v.role ≠ .symbolicNumber c := by
    intro c hc
    cases hc
  have hstored : t.graph.stored? v.node = some (.tensor x) := rfl
  obtain ⟨hpieces, hitems, hunpack⟩ := pieces_and_rows_keep_elements x 3 [2] h rfl hfirst
  obtain ⟨hinside, houtside, hrows⟩ := hitems (Library.ofSeed 0) fun _ => ⟨2, hrow⟩
  obtain ⟨items, vs, u, hitems', hout, -, hnodes⟩ :=
    hunpack t v 2 hrow hrole rfl rfl hstored
  refine ⟨x, t, v, rfl, h, hfirst, hrow, hrole, rfl, rfl, hstored,
    (hpieces (Library.ofSeed 0) 2 [] (by decide)).1 2 hrow, hinside (-1) (by decide),
    houtside 3 (by decide), hrows, vs, u, hout, ?_⟩
  have hlength := congrArg List.length hnodes
  simpa [hitems'.length] using hlength

/-- A placeholder whose rows have no elements is not cut into pieces, though it has rows. -/
theorem exists_placeholder_not_cut :
    (Tensor.placeholder [1, 1099511627776, 1099511627776, 0] .f32).WellFormed ∧
      Shape.volume [1099511627776, 1099511627776, 0] < Word.bound ∧
      (Library.ofSeed 0).callMethod "chunk"
        (.tensor (.placeholder [1, 1099511627776, 1099511627776, 0] .f32)) [.int 1] [] =
          .error .abort ∧
      (Library.ofSeed 0).itemAt (.placeholder [1, 1099511627776, 1099511627776, 0] .f32) 0 =
        .ok (.tensor (.placeholder [1099511627776, 1099511627776, 0] .f32)) := by
  have hrow : Word.product? [1099511627776, 1099511627776, 0] = none := by decide
  have hasked : (0 : Int64) < 1 := by decide
  have habort : Kernel.pieces .eager
      (.placeholder [1, 1099511627776, 1099511627776, 0] .f32) 1 = .error .abort :=
    Kernel.pieces_eq_abort rfl hrow hasked
  exact ⟨⟨rfl, trivial⟩, by decide, habort, rfl⟩

end TensorCapture
