import TensorCapture.Module.Linear
import TensorCapture.Proofs.Bounds.Moving
import TensorCapture.Proofs.Elements.Transposes

set_option autoImplicit false

/-! # What a linear layer computes

A layer counts the rows of its input by the elements, cuts rows out of the input and out of the
weight, and lays out its outputs, each with its own arithmetic. Where inputs have a width, the
three agree at every rank: the outputs are those of a product with the transposed weight, with the
bias added. Where the width is zero, an input has no elements to count rows by, and the layer gives
no outputs, though the size of its result asks for some.
-/

namespace TensorCapture

/-! ## Values in order -/

namespace Kernel

theorem getElem?_eq_getD {a : Array Float} {i : Nat} (h : i < a.size) :
    a[i]? = some (a.getD i 0.0) := by
  rw [Array.getElem?_eq_getElem h, Array.getD_eq_getD_getElem?, Array.getElem?_eq_getElem h]
  rfl

/-- Values that are found at every number below a bound are found in order. -/
theorem mapM_range_eq {α : Type} {f : Nat → Option α} {g : Nat → α} {count : Nat}
    (h : ∀ i < count, f i = some (g i)) :
    (List.range count).mapM f = some ((List.range count).map g) := by
  obtain ⟨found, hfound, hlength, hget⟩ := exists_mapM_range fun i hi => ⟨g i, h i hi⟩
  rw [hfound]
  congr 1
  refine List.ext_getElem? fun i => ?_
  by_cases hi : i < count
  · rw [hget i hi, h i hi, List.getElem?_map, List.getElem?_range hi, Option.map_some]
  · rw [List.getElem?_eq_none (by omega), List.getElem?_eq_none (by simp; omega)]

end Kernel

namespace Linear

open Kernel

/-! ## One output -/

/-- Row `row` of one matrix times row `column` of another, summed from the left. -/
def dot (x w : Array Float) (inputs row column : Nat) : Float :=
  sum ((List.range inputs).map fun i =>
    x.getD (row * inputs + i) 0.0 * w.getD (column * inputs + i) 0.0)

/-- What the bias adds to the outputs of a column, zero where there is none. -/
def offset (bias : Option (Array Float)) (column : Nat) : Float :=
  match bias with
  | some b => b.getD column 0.0
  | none => 0.0

variable {x w : Array Float} {bias : Option (Array Float)} {inputs outputs rows : Nat}

/-- A row of the input and a column of a matrix that holds the rows of the weight. -/
theorem products_eq {right : Nat → Option Float} {row column : Nat} (hx : x.size = rows * inputs)
    (hw : w.size = outputs * inputs) (hrow : row < rows) (hcolumn : column < outputs)
    (hright : ∀ i < inputs, right i = w[column * inputs + i]?) :
    ((List.range inputs).mapM fun i => do
      let a ← x[row * inputs + i]?
      let b ← right i
      some (a * b)) =
      some ((List.range inputs).map fun i =>
        x.getD (row * inputs + i) 0.0 * w.getD (column * inputs + i) 0.0) := by
  refine mapM_range_eq fun i hi => ?_
  have hleft : row * inputs + i < x.size := hx ▸ Shape.row_add_lt hrow hi
  have hbelow : column * inputs + i < w.size := hw ▸ Shape.row_add_lt hcolumn hi
  rw [hright i hi, getElem?_eq_getD hleft, getElem?_eq_getD hbelow]
  rfl

theorem output?_eq {row column : Nat} (hx : x.size = rows * inputs)
    (hw : w.size = outputs * inputs) (hbias : ∀ b, bias = some b → b.size = outputs)
    (hrow : row < rows) (hcolumn : column < outputs) :
    output? x w bias inputs row column =
      some (dot x w inputs row column + offset bias column) := by
  unfold output?
  rw [products_eq hx hw hrow hcolumn fun i _ => rfl]
  cases bias with
  | none => rfl
  | some b =>
      have hbelow : column < b.size := (hbias b rfl).symm ▸ hcolumn
      simp only [getElem?_eq_getD hbelow]
      rfl

/-! ## All outputs -/

/-- The elements of an input with a width count its rows. Without a width there is none to count
them by. -/
theorem rows_counted (hx : x.size = rows * inputs) :
    x.size / max inputs 1 = if inputs = 0 then 0 else rows := by
  by_cases hzero : inputs = 0
  · rw [if_pos hzero, hx, hzero, Nat.mul_zero, Nat.zero_div]
  · rw [if_neg hzero, hx, Nat.max_eq_left (Nat.pos_of_ne_zero hzero)]
    exact Nat.mul_div_cancel _ (Nat.pos_of_ne_zero hzero)

theorem outputs?_eq (hx : x.size = rows * inputs) (hw : w.size = outputs * inputs)
    (hbias : ∀ b, bias = some b → b.size = outputs) (hfits : rows * outputs ≤ Word.allocatable) :
    ∃ elements, outputs? x w bias inputs outputs = some elements ∧
      elements.size = (if inputs = 0 then 0 else rows * outputs) ∧
      (0 < inputs → ∀ row < rows, ∀ column < outputs,
        elements[row * outputs + column]? =
          some (dot x w inputs row column + offset bias column)) := by
  have hbound : Word.allocatable < Word.bound := by decide
  by_cases hzero : inputs = 0
  · have hcount : Word.mul? (x.size / max inputs 1) outputs = some 0 := by
      rw [rows_counted hx, if_pos hzero]
      exact Word.mul?_eq_some_iff.mpr ⟨Nat.zero_mul outputs, by decide⟩
    refine ⟨#[], ?_, by rw [if_pos hzero]; rfl, fun hpos => absurd hzero (by omega)⟩
    unfold outputs?
    rw [hcount]
    rfl
  · have hcount : Word.mul? (x.size / max inputs 1) outputs = some (rows * outputs) := by
      rw [rows_counted hx, if_neg hzero]
      exact Word.mul?_eq_some_iff.mpr ⟨rfl, by omega⟩
    have houtput : ∀ flat < rows * outputs, ∃ y,
        output? x w bias inputs (flat / outputs) (flat % outputs) = some y := by
      intro flat hflat
      obtain ⟨hrow, hcolumn⟩ := Shape.div_lt_and_mod_lt hflat
      exact ⟨_, output?_eq hx hw hbias hrow hcolumn⟩
    obtain ⟨elements, hgather, hsize, hget⟩ := exists_gather? houtput
    refine ⟨elements, ?_, by rw [if_neg hzero, hsize], fun _ row hrow column hcolumn => ?_⟩
    · unfold outputs?
      rw [hcount, Option.bind_some, if_pos hfits]
      exact hgather
    · rw [hget _ (Shape.row_add_lt hrow hcolumn), Shape.row_add_div row hcolumn,
        Shape.row_add_mod row hcolumn]
      exact output?_eq hx hw hbias hrow hcolumn

/-! ## The product with the transposed weight -/

/-- The transpose of a dense matrix: each element is found in the other row and column. -/
theorem exists_transpose {weight : Tensor} (h : weight.WellFormed)
    (hsize : weight.size = [outputs, inputs]) (hw : weight.storage = .dense w)
    (hfits : outputs * inputs ≤ Word.allocatable) :
    ∃ turned elements, transpose weight = .ok (.tensor turned) ∧
      turned.size = [inputs, outputs] ∧ turned.storage = .dense elements ∧
      elements.size = inputs * outputs ∧
      ∀ i < inputs, ∀ column < outputs,
        elements[i * outputs + column]? = w[column * inputs + i]? := by
  have hbound : Word.allocatable < Word.bound := by decide
  have hdense := Tensor.isPlaceholder_of_dense hw
  obtain ⟨turned, hturned, hswapped⟩ :=
    exists_transposedAs h hsize fun _ => hfits.trans_lt hbound
  obtain ⟨elements, helements⟩ := Tensor.exists_dense (hswapped.isPlaceholder.trans hdense)
  refine ⟨turned, elements, hturned, hswapped.size, helements, ?_, fun i hi column hcolumn => ?_⟩
  · rw [Tensor.size_elements hswapped.wellFormed helements, hswapped.size]
    simp
  · obtain ⟨v, hv, hmoved⟩ := hswapped.entry hdense column hcolumn i hi
    rw [Tensor.at?_of_dense hw, hsize, Shape.rank_pair] at hv
    rw [Tensor.at?_of_dense helements, hswapped.size, Shape.rank_pair] at hmoved
    rw [hmoved, hv]

/-- An entry of the product of an input and the transpose is a sum that the layer forms. -/
theorem entry?_transposed {turned : Array Float} {row column : Nat} (hx : x.size = rows * inputs)
    (hw : w.size = outputs * inputs) (hrow : row < rows) (hcolumn : column < outputs)
    (hturned : ∀ i < inputs, ∀ column < outputs,
      turned[i * outputs + column]? = w[column * inputs + i]?) :
    entry? x turned inputs outputs row column = some (dot x w inputs row column) := by
  unfold entry?
  rw [products_eq hx hw hrow hcolumn fun i hi => hturned i hi column hcolumn]
  rfl

theorem exists_matmul {input turned : Tensor} {y : Array Float}
    (hsize : input.size = [rows, inputs]) (hx : input.storage = .dense x)
    (hsize' : turned.size = [inputs, outputs]) (hy : turned.storage = .dense y)
    (hrows : x.size = rows * inputs) (hw : w.size = outputs * inputs)
    (hfits : rows * outputs ≤ Word.allocatable)
    (hturned : ∀ i < inputs, ∀ column < outputs,
      y[i * outputs + column]? = w[column * inputs + i]?) :
    ∃ product sums, matmul .eager (.tensor input) (.tensor turned) = .ok (.tensor product) ∧
      product.size = [rows, outputs] ∧ product.storage = .dense sums ∧
      sums.size = rows * outputs ∧
      ∀ row < rows, ∀ column < outputs,
        sums[row * outputs + column]? = some (dot x w inputs row column) := by
  have hentry : ∀ flat < rows * outputs, ∃ e,
      entry? x y inputs outputs (flat / outputs) (flat % outputs) = some e := by
    intro flat hflat
    obtain ⟨hrow, hcolumn⟩ := Shape.div_lt_and_mod_lt hflat
    exact ⟨_, entry?_transposed hrows hw hrow hcolumn hturned⟩
  obtain ⟨sums, hgather, hlength, hget⟩ := exists_gather? hentry
  have hbound : Word.allocatable < Word.bound := by decide
  have hmul : Word.mul? rows outputs = some (rows * outputs) :=
    Word.mul?_eq_some_iff.mpr ⟨rfl, by omega⟩
  refine ⟨{ input.derive [rows, outputs] (.dense sums) with
    requiresGrad := input.requiresGrad || turned.requiresGrad }, sums, ?_, rfl, rfl, hlength,
    fun row hrow column hcolumn => ?_⟩
  · have herases : Mode.eager.erases [input, turned] = false := by
      simp [Mode.erases, Tensor.isPlaceholder, hx, hy]
    have hallocate : allocate (Word.mul? rows outputs) = .ok (rows * outputs) := by
      unfold allocate
      rw [hmul, Option.bind_some, if_pos hfits]
      rfl
    unfold matmul
    simp only [tensorOf, Value.toTensor?, orFail, bind, Except.bind, hsize, hsize']
    rw [if_neg (not_not.mpr rfl), herases, elementsOf_eq_ok hx]
    simp only [elementsOf_eq_ok hy, hallocate, hgather]
    rfl
  · rw [hget _ (Shape.row_add_lt hrow hcolumn), Shape.row_add_div row hcolumn,
      Shape.row_add_mod row hcolumn]
    exact entry?_transposed hrows hw hrow hcolumn hturned

/-! ## The layer -/

/-- The parameters of the layer are dense and well formed, with these extents, and the weight is
one that memory holds. -/
structure IsDense (l : Linear) (inputs outputs : Nat) (w : Array Float) : Prop where
  weight : l.weight.WellFormed
  size_eq : l.weight.size = [outputs, inputs]
  storage_eq : l.weight.storage = .dense w
  stored : outputs * inputs ≤ Word.allocatable
  bias : ∀ b, l.bias = some b → b.WellFormed ∧ b.size = [outputs] ∧ b.isPlaceholder = false

variable {l : Linear} {input : Tensor} {batch : List Nat}

theorem IsDense.size_weight (h : l.IsDense inputs outputs w) : w.size = outputs * inputs := by
  have hfills := (Tensor.wellFormed_iff.mp h.weight).2
  rw [h.size_eq, h.storage_eq] at hfills
  simpa [Storage.Fills] using hfills

theorem IsDense.size_bias (h : l.IsDense inputs outputs w) :
    ∀ b, l.bias.bind Tensor.elements? = some b → b.size = outputs := by
  intro b hb
  obtain ⟨t, ht, helements⟩ := Option.bind_eq_some_iff.mp hb
  obtain ⟨hwell, hsize, -⟩ := h.bias t ht
  have hfills := (Tensor.wellFormed_iff.mp hwell).2
  have hstorage : t.storage = .dense b := by
    unfold Tensor.elements? at helements
    cases hs : t.storage with
    | placeholder => simp [hs] at helements
    | dense elements => simpa [hs] using helements
  rw [hsize, hstorage] at hfills
  simpa [Storage.Fills] using hfills

theorem size_input (h : input.WellFormed) (hsize : input.size = batch ++ [inputs])
    (hx : input.storage = .dense x) : x.size = Shape.volume batch * inputs := by
  have hfills := (Tensor.wellFormed_iff.mp h).2
  rw [hsize, hx] at hfills
  have hvolume : x.size = Shape.volume (batch ++ [inputs]) := hfills
  rw [hvolume, Shape.volume_append, Shape.volume_cons, Shape.volume_nil, Nat.mul_one]

theorem apply_eq (hl : l.IsDense inputs outputs w) (hsize : input.size = batch ++ [inputs])
    (hx : input.storage = .dense x) {elements : Array Float}
    (helements : outputs? x w (l.bias.bind Tensor.elements?) inputs outputs = some elements) :
    l.apply input = .ok { input.derive (batch ++ [outputs]) (.dense elements) with
      requiresGrad := true } := by
  have hread : input.elements? = some x := by
    unfold Tensor.elements?
    rw [hx]
  have hread' : l.weight.elements? = some w := by
    unfold Tensor.elements?
    rw [hl.storage_eq]
  unfold apply
  rw [hl.size_eq, hsize]
  simp only [List.getLast?_concat, List.dropLast_concat, ne_eq, not_true_eq_false, if_false, hread,
    hread', helements]
  rfl

end Linear

open Kernel Linear

/-- **A linear layer computes the product with the transposed weight.** On a dense input of any
rank whose last extent is the width, and for as many outputs as can be allocated, the result takes
the batch extents from the input and the last one from the weight. Its elements are, row after row,
the sums of products from the left, started from negative zero, each with the bias of its column
added, or zero. In a matrix they are the entries of the product with the transposed weight, with
the same addition.

Without a width there are no elements to count rows by: the result holds none at all, whatever the
number of positions its size has, though the product has a sum for each. -/
theorem linear_forward {l : Linear} {inputs outputs : Nat} {w : Array Float}
    (hl : l.IsDense inputs outputs w) {input : Tensor} {batch : List Nat} {x : Array Float}
    (hinput : input.WellFormed) (hsize : input.size = batch ++ [inputs])
    (hx : input.storage = .dense x)
    (hfits : Shape.volume batch * outputs ≤ Word.allocatable) :
    ∃ elements,
      l.forward [.tensor input] =
        .ok (.tensor { input.derive (batch ++ [outputs]) (.dense elements) with
          requiresGrad := true }) ∧
      elements.size = (if inputs = 0 then 0 else Shape.volume batch * outputs) ∧
      (0 < inputs → ∀ row < Shape.volume batch, ∀ column < outputs,
        elements[row * outputs + column]? =
          some (dot x w inputs row column + offset (l.bias.bind Tensor.elements?) column)) ∧
      ∀ rows, batch = [rows] → ∃ turned product sums,
        transpose l.weight = .ok (.tensor turned) ∧
        matmul .eager (.tensor input) (.tensor turned) = .ok (.tensor product) ∧
        product.size = [rows, outputs] ∧ product.storage = .dense sums ∧
        sums.size = rows * outputs ∧
        (0 < inputs → ∀ i : Nat,
          elements[i]? =
            sums[i]?.map (· + offset (l.bias.bind Tensor.elements?) (i % outputs))) := by
  have hrows : x.size = Shape.volume batch * inputs := size_input hinput hsize hx
  obtain ⟨elements, houtputs, hcount, helements⟩ :=
    outputs?_eq hrows hl.size_weight hl.size_bias hfits
  refine ⟨elements, ?_, hcount, helements, fun rows hbatch => ?_⟩
  · unfold forward
    dsimp only
    rw [apply_eq hl hsize hx houtputs]
    rfl
  · subst hbatch
    have hvolume : Shape.volume [rows] = rows := by simp
    rw [hvolume] at hrows hfits hcount helements
    obtain ⟨turned, y, hturned, hsize', hy, -, hentries⟩ :=
      exists_transpose hl.weight hl.size_eq hl.storage_eq hl.stored
    obtain ⟨product, sums, hproduct, hshape, hsums, hlength, hget⟩ :=
      exists_matmul hsize hx hsize' hy hrows hl.size_weight hfits hentries
    refine ⟨turned, product, sums, hturned, hproduct, hshape, hsums, hlength, fun hpos i => ?_⟩
    rw [if_neg (by omega)] at hcount
    by_cases hi : i < rows * outputs
    · obtain ⟨hrow, hcolumn⟩ := Shape.div_lt_and_mod_lt hi
      have hposition : i / outputs * outputs + i % outputs = i := Nat.div_add_mod' i outputs
      have helement := helements hpos _ hrow _ hcolumn
      have hsum := hget _ hrow _ hcolumn
      rw [hposition] at helement hsum
      rw [helement, hsum]
      rfl
    · rw [Array.getElem?_eq_none (by omega), Array.getElem?_eq_none (by omega)]
      rfl

/-- A layer of three inputs and two outputs, on a stack of two rows. -/
def Linear.threeToTwo : Linear :=
  ofTensors "layer" (Tensor.ofElements [2, 3] #[1.0, 2.0, 3.0, 4.0, 5.0, 6.0] .f32)
    (some (Tensor.ofElements [2] #[0.5, 0.25] .f32))

/-- Two rows of three inputs, in a batch of one. -/
def Tensor.twoRows : Tensor := ofElements [1, 2, 3] #[1.0, 0.0, 0.0, 0.0, 1.0, 0.0] .f32

theorem linear_forward_rows :
    threeToTwo.IsDense 3 2 #[1.0, 2.0, 3.0, 4.0, 5.0, 6.0] ∧ Tensor.twoRows.WellFormed ∧
      ∃ elements, threeToTwo.forward [.tensor .twoRows] =
          .ok (.tensor { Tensor.twoRows.derive [1, 2, 2] (.dense elements) with
            requiresGrad := true }) ∧
        elements.size = 4 := by
  have hlayer : threeToTwo.IsDense 3 2 #[1.0, 2.0, 3.0, 4.0, 5.0, 6.0] := by
    refine ⟨⟨rfl, rfl⟩, rfl, rfl, by decide, fun b hb => ?_⟩
    cases hb
    exact ⟨⟨rfl, rfl⟩, rfl, rfl⟩
  have hinput : Tensor.twoRows.WellFormed := ⟨rfl, rfl⟩
  have hsize : Tensor.twoRows.size = [1, 2] ++ [3] := rfl
  obtain ⟨elements, hforward, hsize, -⟩ := linear_forward hlayer hinput hsize rfl (by decide)
  exact ⟨hlayer, hinput, elements, hforward, hsize⟩

/-- Three rows of no inputs should give six outputs, and they give none. -/
theorem exists_outputs_missing :
    ¬∀ (l : Linear) (inputs outputs : Nat) (w : Array Float), l.IsDense inputs outputs w →
      ∀ (input : Tensor) (batch : List Nat) (x : Array Float), input.WellFormed →
        input.size = batch ++ [inputs] → input.storage = .dense x →
        Shape.volume batch * outputs ≤ Word.allocatable →
        ∃ result elements, l.forward [.tensor input] = .ok (.tensor result) ∧
          result.size = batch ++ [outputs] ∧ result.storage = .dense elements ∧
          elements.size = Shape.volume batch * outputs := by
  intro h
  have hlayer : (ofTensors "m" (Tensor.ofElements [2, 0] #[] .f32) none).IsDense 0 2 #[] :=
    ⟨⟨rfl, rfl⟩, rfl, rfl, by decide, fun b hb => by cases hb⟩
  obtain ⟨result, elements, hforward, -, hstorage, hsize⟩ :=
    h _ 0 2 #[] hlayer (Tensor.ofElements [3, 0] #[] .f32) [3] #[] ⟨rfl, rfl⟩ rfl rfl (by decide)
  cases hforward
  cases hstorage
  cases hsize

end TensorCapture
