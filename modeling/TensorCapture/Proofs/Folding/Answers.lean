import TensorCapture.Proofs.Operands.Usable
import TensorCapture.Proofs.Folding.Positions

set_option autoImplicit false

/-! # Answers from the metadata and answers of the library

A method that asks for the metadata of a tensor is answered by a constant, and the trace stays as
it is. The library answers with a value. The two can be compared: a literal is a value, and a size
is compared extent by extent.

Along an axis both select a number from a list of numbers, the trace as an item of the constant and
the library by its own count of axes. For a tensor that has axes they select the same one, or none.
A tensor without axes has none to select, and there the trace refuses the question.
-/

namespace TensorCapture

open Capture Trace
open Word (position InRange)

/-! ## Constants and values -/

/-- The literal is the value. Sizes are compared extent by extent, as integers. -/
def Literal.Denotes (literal : Literal) : Value → Prop
  | .size extents => ∃ words : List Int64, literal = .tuple (words.map .int) ∧
      words.map Int64.toInt = extents.map Int.ofNat
  | value => value = .ofLiteral literal

/-- The variable is a constant, and its literal is the value. -/
def Variable.Denotes (v : Variable) (value : Value) : Prop :=
  ∃ literal, v.toLiteral = .ok literal ∧ literal.Denotes value

/-- A literal is the value that it stands for. -/
theorem Literal.denotes_ofLiteral (literal : Literal) : literal.Denotes (.ofLiteral literal) := by
  cases literal <;> rfl

/-- The literals of extents are their tuple. -/
theorem Variable.toLiteral_ofExtents (kind : ContainerKind) (extents : List Nat) (p : Provenance) :
    (Variable.ofExtents kind extents p).toLiteral = .ok (.ofExtents extents) := by
  have hitems : toLiterals (extents.map fun n => constant (.int (Word.signed n)) .none) =
      .ok (extents.map fun n => .int (Word.signed n)) := by
    induction extents with
    | nil => rfl
    | cons n rest ih =>
        rw [List.map_cons, toLiterals, ih]
        rfl
  unfold ofExtents toLiteral
  rw [hitems]
  rfl

/-- A tuple of extents is the size if and only if the extents are signed words. -/
theorem Literal.denotes_ofExtents_iff {extents : List Nat} :
    (Literal.ofExtents extents).Denotes (.size extents) ↔ ∀ n ∈ extents, n < Word.signedBound := by
  constructor
  · rintro ⟨words, hwords, hextents⟩ n hn
    have hliterals : words.map Literal.int = (extents.map Word.signed).map Literal.int := by
      rw [← Literal.tuple.inj hwords, List.map_map]
      rfl
    obtain rfl := (List.map_inj_right fun _ _ => Literal.int.inj).mp hliterals
    rw [List.map_map] at hextents
    have hsame : (Word.signed n).toInt = n := List.map_inj_left.mp hextents n hn
    have hlt := (Word.signed n).toInt_lt
    unfold Word.signedBound
    omega
  · intro h
    refine ⟨extents.map Word.signed, ?_, ?_⟩
    · rw [List.map_map]
      rfl
    · rw [List.map_map]
      exact List.map_congr_left fun n hn => Kernel.toInt_signed (h n hn)

/-! ## The two answers -/

namespace SymbolicTensor

/-- A constant answers the call, the trace stays as it is, and the library gives the same. -/
def Folds (x : SymbolicTensor) (name : String) (args : List Variable) (t : Trace)
    (answer : Kernel Value) : Prop :=
  ∃ v value, (callMethod x name args []).outcome t = (.ok v, t) ∧ answer = .ok value ∧
    v.Denotes value

/-- The call is refused, the trace stays as it is, and the library reports an error. -/
def Refuses (x : SymbolicTensor) (name : String) (args : List Variable) (t : Trace)
    (answer : Kernel Value) : Prop :=
  ∃ reason failure, (callMethod x name args []).outcome t =
      (.error (.error (.unsupported reason)), t) ∧
    answer = .error (.error failure)

/-- What the trace answers along an axis is what the library answers. A tensor without axes has no
answer along any. -/
structure AgreesAlong (x : SymbolicTensor) (name : String) (t : Trace) (lib : Library)
    (e : Tensor) : Prop where
  found {literal : Literal} {index : Int64} (hindex : literal.toInt? = some index) (p : Provenance)
    (haxes : 0 < e.ndim) (hrange : InRange index e.ndim) :
    x.Folds name [.constant literal p] t
      (lib.callMethod name (.tensor e) [.ofLiteral literal] [])
  refused {literal : Literal} {index : Int64} (hindex : literal.toInt? = some index)
    (p : Provenance) (haxes : 0 < e.ndim) (hrange : ¬InRange index e.ndim) :
    x.Refuses name [.constant literal p] t
      (lib.callMethod name (.tensor e) [.ofLiteral literal] [])
  noAxes {literal : Literal} {index : Int64} (hindex : literal.toInt? = some index) (p : Provenance)
    (haxes : e.ndim = 0) :
    (∃ reason, (callMethod x name [.constant literal p] []).outcome t =
        (.error (.error (.unsupported reason)), t)) ∧
      ∀ value, lib.callMethod name (.tensor e) [.ofLiteral literal] [] ≠ .ok value

/-! ## Answers as a whole -/

/-- A query that the metadata answer is decided by its arguments alone. -/
theorem outcome_callMethod {x : SymbolicTensor} {name : String} {answer : Provenance → Variable}
    (h : ∀ p, x.query? name p = some (.ok (answer p))) (args : List Variable) (t : Trace) :
    ∃ p, (callMethod x name args []).outcome t =
      (ofExcept ((answer p).indexed args p)).outcome t := by
  have hkeywords : (Variable.unansweredKeywords name []).isEmpty = true := by
    unfold Variable.unansweredKeywords
    split
    · rename_i hformat
      cases hformat
    · rfl
  refine ⟨.propagate (.tensor x :: args ++ Named.values []), ?_⟩
  unfold callMethod
  dsimp only
  rw [h]
  dsimp only
  rw [if_pos hkeywords]

/-- A constant that answers the query as a whole. -/
theorem folds_of_query {x : SymbolicTensor} {name : String} {answer : Provenance → Variable}
    (h : ∀ p, x.query? name p = some (.ok (answer p))) (t : Trace) {value : Value}
    (hvalue : ∀ p, (answer p).Denotes value) {known : Kernel Value} (hknown : known = .ok value) :
    x.Folds name [] t known := by
  obtain ⟨p, hout⟩ := outcome_callMethod h [] t
  exact ⟨answer p, value, hout, hknown, hvalue p⟩

/-- The length of a tensor that has axes is its first extent. -/
theorem folds_length {x : SymbolicTensor} {e : Tensor} (hsize : x.size? = some e.size)
    (haxes : e.size ≠ []) (t : Trace) (lib : Library) :
    x.Folds "__len__" [] t (lib.callFunction (.builtin .len) [.tensor e] []).1 := by
  obtain ⟨first, rest, hextents⟩ := List.exists_cons_of_ne_nil haxes
  have hlibrary : (lib.callFunction (.builtin .len) [.tensor e] []).1 =
      .ok (.int (Word.signed first)) := by
    show Kernel.length (.tensor e) = _
    unfold Kernel.length
    dsimp only
    rw [hextents]
  refine ⟨.constant (.int (Word.signed first)) (.propagate [.tensor x]), _, ?_, hlibrary, ?_⟩
  · show (length x (.propagate [.tensor x])).outcome t = _
    unfold length
    rw [hsize, hextents]
    rfl
  · exact ⟨_, rfl, rfl⟩

end SymbolicTensor

/-! ## Answers along an axis -/

/-- The items of the variable at constant indices are the numbers, as signed words. -/
structure Variable.Lists (v : Variable) (numbers : List Nat) : Prop where
  found {index : Variable} {position : Nat}
    (h : resolveIndex index numbers.length = .ok position) :
    ∃ item, v.itemAt index = .ok item ∧
      item.toLiteral = .ok (.int (Word.signed (numbers.getD position 0)))
  refused {index : Variable} {e : CaptureError}
    (h : resolveIndex index numbers.length = .error e) : v.itemAt index = .error e

namespace Variable

/-- A tuple of literals lists them. -/
theorem lists_constant (numbers : List Nat) (p : Provenance) :
    (Variable.constant (.ofExtents numbers) p).Lists numbers := by
  have hlength : (numbers.map fun n => Literal.int (Word.signed n)).length = numbers.length :=
    List.length_map ..
  constructor
  · intro index position h
    have hlt := lt_of_resolveIndex h
    unfold Variable.itemAt Literal.ofExtents
    dsimp only
    rw [hlength, h]
    refine ⟨_, rfl, ?_⟩
    simp [toLiteral, hlt]
  · intro index e h
    unfold Variable.itemAt Literal.ofExtents
    dsimp only
    rw [hlength, h]
    rfl

/-- A size lists its extents. -/
theorem lists_ofExtents (kind : ContainerKind) (numbers : List Nat) (p : Provenance) :
    (Variable.ofExtents kind numbers p).Lists numbers := by
  have hlength : (numbers.map fun n => Variable.constant (.int (Word.signed n)) .none).length =
      numbers.length := List.length_map ..
  constructor
  · intro index position h
    have hlt := lt_of_resolveIndex h
    unfold Variable.itemAt ofExtents
    dsimp only
    rw [hlength, h]
    refine ⟨_, rfl, ?_⟩
    simp [hlt, Variable.addGuards, withProvenance, toLiteral]
  · intro index e h
    unfold Variable.itemAt ofExtents
    dsimp only
    rw [hlength, h]
    rfl

end Variable

namespace Library

variable {e : Tensor} {numbers : List Nat} {literal : Literal} {index : Int64}

/-- The argument is read as the integer that the literal counts as. -/
theorem integerOf_ofLiteral (hindex : literal.toInt? = some index) :
    Kernel.integerOf (.ofLiteral literal) = .ok index := by
  cases literal <;> cases hindex <;> rfl

/-- One argument asks for the number along the axis that it counts to. -/
theorem axisQuery_integer (name : String) (all : Value) (hindex : literal.toInt? = some index) :
    axisQuery name e numbers all [.ofLiteral literal] = (do
      let axis ← Kernel.resolveAxis index e.ndim
      let n ← Outcome.ofBounded numbers[axis]?
      .ok (.int (Word.signed n))) := by
  show (do
    let axis ← Kernel.integerOf (.ofLiteral literal)
    let axis ← Kernel.resolveAxis axis e.ndim
    let n ← Outcome.ofBounded numbers[axis]?
    .ok (.int (Word.signed n)) : Kernel Value) = _
  rw [integerOf_ofLiteral hindex]
  rfl

/-- The number along an axis, for a tensor that has axes. -/
theorem axisQuery_eq (name : String) (all : Value) (haxes : 0 < e.ndim)
    (hrank : e.ndim < Word.signedBound) (hnumbers : numbers.length = e.ndim)
    (hindex : literal.toInt? = some index) :
    axisQuery name e numbers all [.ofLiteral literal] =
      if InRange index e.ndim then
        .ok (.int (Word.signed (numbers.getD (position index e.ndim).toNat 0)))
      else Kernel.fail (.axisOutOfRange index.toInt e.ndim) := by
  rw [axisQuery_integer name all hindex, Kernel.resolveAxis_eq haxes hrank]
  by_cases hrange : InRange index e.ndim
  · have hlt : (position index e.ndim).toNat < numbers.length := by
      rw [hnumbers]
      exact hrange.toNat_lt
    rw [if_pos hrange, if_pos hrange]
    show (do
      let n ← Outcome.ofBounded numbers[(position index e.ndim).toNat]?
      .ok (.int (Word.signed n)) : Kernel Value) = _
    rw [List.getD_eq_getElem?_getD, List.getElem?_eq_getElem hlt]
    rfl
  · rw [if_neg hrange, if_neg hrange]
    rfl

/-- A tensor without axes has no number along any. -/
theorem axisQuery_nil_ne_ok (name : String) (all : Value) (hindex : literal.toInt? = some index)
    (value : Value) : axisQuery name e [] all [.ofLiteral literal] ≠ .ok value := by
  rw [axisQuery_integer name all hindex]
  cases Kernel.resolveAxis index e.ndim with
  | error fault => exact nofun
  | ok axis => exact nofun

end Library

namespace SymbolicTensor

section Along

variable {x : SymbolicTensor} {name : String} {answer : Provenance → Variable}
  {numbers : List Nat} (hquery : ∀ p, x.query? name p = some (.ok (answer p)))
  (hlists : ∀ p, (answer p).Lists numbers)

include hquery hlists

/-- Within the numbers the query is answered by one of them. -/
theorem found_of_lists {literal : Literal} {index : Int64} (hindex : literal.toInt? = some index)
    (p : Provenance) (t : Trace) (hrange : InRange index numbers.length) :
    ∃ v, (callMethod x name [.constant literal p] []).outcome t = (.ok v, t) ∧
      v.toLiteral =
        .ok (.int (Word.signed (numbers.getD (position index numbers.length).toNat 0))) := by
  have hresolve := Variable.resolveIndex_eq (v := .constant literal p) rfl hindex numbers.length
  rw [if_pos hrange] at hresolve
  obtain ⟨q, hout⟩ := outcome_callMethod hquery [.constant literal p] t
  obtain ⟨item, hitem, hliteral⟩ := (hlists q).found hresolve
  refine ⟨item, ?_, hliteral⟩
  rw [hout]
  show (ofExcept ((answer q).itemAt (.constant literal p))).outcome t = _
  rw [hitem]
  rfl

/-- Outside of the numbers it is refused. -/
theorem refused_of_lists {literal : Literal} {index : Int64} (hindex : literal.toInt? = some index)
    (p : Provenance) (t : Trace) (hrange : ¬InRange index numbers.length) :
    ∃ reason, (callMethod x name [.constant literal p] []).outcome t =
      (.error (.error (.unsupported reason)), t) := by
  have hresolve := Variable.resolveIndex_eq (v := .constant literal p) rfl hindex numbers.length
  rw [if_neg hrange] at hresolve
  obtain ⟨q, hout⟩ := outcome_callMethod hquery [.constant literal p] t
  refine ⟨.indexOutOfRange index.toInt numbers.length, ?_⟩
  rw [hout]
  show (ofExcept ((answer q).itemAt (.constant literal p))).outcome t = _
  rw [(hlists q).refused hresolve]
  rfl

/-- A query whose answer lists the numbers that the library counts along the axes is answered along
an axis as the library answers it. -/
theorem agreesAlong_of_lists {e : Tensor} {lib : Library} (t : Trace)
    (hnumbers : numbers.length = e.ndim) (hrank : e.ndim < Word.signedBound) (all : Value)
    (hlibrary : ∀ arg, lib.callMethod name (.tensor e) [arg] [] =
      Library.axisQuery name e numbers all [arg]) : x.AgreesAlong name t lib e where
  found hindex p haxes hrange := by
    have hanswer := Library.axisQuery_eq name all haxes hrank hnumbers hindex
    rw [if_pos hrange, ← hnumbers] at hanswer
    rw [← hnumbers] at hrange
    obtain ⟨v, hout, hliteral⟩ := found_of_lists hquery hlists hindex p t hrange
    exact ⟨v, _, hout, (hlibrary _).trans hanswer, _, hliteral, rfl⟩
  refused hindex p haxes hrange := by
    have hanswer := Library.axisQuery_eq name all haxes hrank hnumbers hindex
    rw [if_neg hrange] at hanswer
    rw [← hnumbers] at hrange
    obtain ⟨reason, hout⟩ := refused_of_lists hquery hlists hindex p t hrange
    exact ⟨reason, _, hout, (hlibrary _).trans hanswer⟩
  noAxes hindex p haxes := by
    have hnone : numbers = [] := List.length_eq_zero_iff.mp (hnumbers.trans haxes)
    subst hnone
    refine ⟨refused_of_lists hquery hlists hindex p t (Word.not_inRange_zero _), fun value => ?_⟩
    rw [hlibrary]
    exact Library.axisQuery_nil_ne_ok name all hindex value

end Along

end SymbolicTensor

end TensorCapture
