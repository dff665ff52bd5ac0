import TensorCapture.Proofs.Created.Within
import TensorCapture.Proofs.Folding.Answers

set_option autoImplicit false

/-! # What the metadata answer is what the library answers

The trace remembers the metadata of the example that the node of a tensor has, now and at any
later time. So what a method asks of the metadata can be compared with what the library says of
the example. The answers are the same, whatever state the library is in, and where an axis is asked
for that the tensor does not have, the trace refuses the question and the library reports an error.

One answer may differ. The extents of a size are numbers without a bound in the library and signed
words in the trace, so an extent that is no signed word comes out as another number.
-/

namespace TensorCapture

open Capture Trace

/-! ## Questions -/

/-- What the trace answers about the tensor is what the library answers about the example: without
arguments, for the length, and along an axis. A tensor without axes has no answer along any. -/
structure SymbolicTensor.AgreesWith (x : SymbolicTensor) (t : Trace) (lib : Library)
    (e : Tensor) : Prop where
  /-- Sizes are the same exactly where all extents are signed words. -/
  size : x.Folds "size" [] t (lib.callMethod "size" (.tensor e) [] []) ↔
    ∀ n ∈ e.size, n < Word.signedBound
  stride : x.Folds "stride" [] t (lib.callMethod "stride" (.tensor e) [] [])
  numel (h : e.numel?.isSome = true) :
    x.Folds "numel" [] t (lib.callMethod "numel" (.tensor e) [] [])
  dim : x.Folds "dim" [] t (lib.callMethod "dim" (.tensor e) [] [])
  ndimension : x.Folds "ndimension" [] t (lib.callMethod "ndimension" (.tensor e) [] [])
  isFloatingPoint :
    x.Folds "is_floating_point" [] t (lib.callMethod "is_floating_point" (.tensor e) [] [])
  isContiguous : x.Folds "is_contiguous" [] t (lib.callMethod "is_contiguous" (.tensor e) [] [])
  length (h : 0 < e.ndim) :
    x.Folds "__len__" [] t (lib.callFunction (.builtin .len) [.tensor e] []).1
  sizeAlong (hrank : e.ndim < Word.signedBound) : x.AgreesAlong "size" t lib e
  /-- There is one stride for each axis. -/
  strideAlong (hrank : e.ndim < Word.signedBound) (hstride : e.stride.length = e.ndim) :
    x.AgreesAlong "stride" t lib e

/-! ## Remembered metadata -/

namespace SymbolicTensor

variable {x : SymbolicTensor} {e : Tensor} {config : Config}

/-- The class apart, what is remembered is the metadata. -/
theorem captured_eq (e : Tensor) (config : Config) :
    ∃ c, e.captured config = { e.specialize config with runtimeClass := c } := by
  unfold Tensor.captured
  split
  · exact ⟨_, rfl⟩
  · exact ⟨(e.specialize config).runtimeClass, rfl⟩

/-- Where shapes are static the layout of the example is remembered. -/
theorem layout?_of_captured (hmetadata : x.metadata = some (e.captured config)) :
    x.layout? = if config.dynamicShapes then none else some ⟨e.size, e.stride, e.isContiguous⟩ := by
  obtain ⟨c, hcaptured⟩ := captured_eq e config
  unfold layout?
  rw [hmetadata, hcaptured]
  rfl

/-- The literal that a query comes to is the value that the library gives. -/
theorem folds_of_literal {name : String} (literal : Literal)
    (hquery : ∀ p, x.query? name p = some (literalAnswer p literal)) (t : Trace)
    {answer : Kernel Value} (hanswer : answer = .ok (.ofLiteral literal)) :
    x.Folds name [] t answer :=
  folds_of_query hquery t (fun _ => ⟨literal, rfl, literal.denotes_ofLiteral⟩) hanswer

/-- A tuple of literal numbers is the tuple of integers that the library makes of strides. -/
theorem ofLiteral_ofExtents (numbers : List Nat) :
    Value.ofLiteral (.ofExtents numbers) =
      .tuple (numbers.map fun n => .int (Word.signed n)) := by
  unfold Literal.ofExtents Value.ofLiteral
  rw [Value.ofLiterals_eq_map, List.map_map]
  rfl

/-- Metadata that are those of a tensor answer as the library answers about the tensor. -/
theorem agreesWith_of_captured (hmetadata : x.metadata = some (e.captured config))
    (hstatic : config.dynamicShapes = false) (t : Trace) (lib : Library) :
    x.AgreesWith t lib e := by
  obtain ⟨c, hcaptured⟩ := captured_eq e config
  have hlayout : x.layout? = some ⟨e.size, e.stride, e.isContiguous⟩ := by
    rw [layout?_of_captured hmetadata, hstatic]
    rfl
  have hsize (p : Provenance) : x.query? "size" p = some (.ok (.ofExtents .size e.size p)) := by
    simp [query?, hlayout]
  have hstride (p : Provenance) :
      x.query? "stride" p = some (literalAnswer p (.ofExtents e.stride)) := by
    simp [query?, hlayout]
  constructor
  case size =>
    constructor
    · rintro ⟨v, value, hout, hanswer, literal, hliteral, hdenotes⟩
      obtain ⟨p, hquery⟩ := outcome_callMethod hsize [] t
      rw [hquery] at hout
      cases hout
      cases hanswer
      rw [Variable.toLiteral_ofExtents] at hliteral
      cases hliteral
      exact Literal.denotes_ofExtents_iff.mp hdenotes
    · intro hextents
      refine folds_of_query hsize t (fun p => ?_) rfl
      exact ⟨_, Variable.toLiteral_ofExtents .size e.size p,
        Literal.denotes_ofExtents_iff.mpr hextents⟩
  case stride =>
    refine folds_of_literal _ hstride t ?_
    rw [ofLiteral_ofExtents]
    rfl
  case numel =>
    intro hnumel
    obtain ⟨n, hn⟩ := Option.isSome_iff_exists.mp hnumel
    have hproduct : Word.product? e.size = some n := hn
    refine folds_of_literal (.int (Word.signed n)) (fun p => ?_) t ?_
    · simp [query?, hlayout, numel, hproduct, literalAnswer, Except.map]
    · show (Outcome.ofBounded e.numel?).map _ = _
      rw [hn]
      rfl
  case dim =>
    refine folds_of_literal (.int (Word.signed e.ndim)) (fun p => ?_) t rfl
    simp [query?, hmetadata, hcaptured]
    rfl
  case ndimension =>
    refine folds_of_literal (.int (Word.signed e.ndim)) (fun p => ?_) t rfl
    simp [query?, hmetadata, hcaptured]
    rfl
  case isFloatingPoint =>
    refine folds_of_literal (.bool e.elementType.isFloating) (fun p => ?_) t rfl
    simp [query?, hmetadata, hcaptured]
    rfl
  case isContiguous =>
    refine folds_of_literal (.bool e.isContiguous) (fun p => ?_) t rfl
    simp [query?, hlayout]
  case length =>
    intro haxes
    have hextents : x.size? = some e.size := by simp [size?, hlayout]
    exact folds_length hextents (List.ne_nil_of_length_pos haxes) t lib
  case sizeAlong =>
    intro hrank
    exact agreesAlong_of_lists hsize (Variable.lists_ofExtents .size e.size) t rfl hrank
      (.size e.size) fun _ => rfl
  case strideAlong =>
    intro hrank hlength
    exact agreesAlong_of_lists hstride (Variable.lists_constant e.stride) t hlength hrank
      (.ofLiteral (.ofExtents e.stride)) fun _ => rfl

end SymbolicTensor

/-! ## The theorem -/

/-- Of a tensor that occurs in what classification made, the trace remembers the metadata of the
example of its node, now and at any later time, and the layout where shapes are static. What it
answers from these metadata is what the library answers about the example. -/
theorem folding_agrees {t u : Trace} {id : NodeId} {supplied : Option Value} {module? : Option Nat}
    {role : TensorRole} {p : Provenance} {v : Variable} {x : SymbolicTensor}
    (hdynamic : t.config.dynamicPropagation = true)
    (hcreate : (create id supplied module? role p).outcome t = (.ok v, u))
    (hwithin : (Variable.tensor x).Within v) (hrole : ∀ c, x.role ≠ .symbolicNumber c) :
    ∃ e, ∀ past w, Trace.Runs Trace.Advances u past w →
      w.graph.stored? x.node = some (.tensor e) ∧ x.metadata = some (e.captured w.config) ∧
      (x.layout?.isSome = true ↔ w.config.dynamicShapes = false) ∧
      (x.layout?.isSome = true → ∀ lib, x.AgreesWith w lib e) := by
  have hmade : v.Made u.Remembers p := makes_create id supplied module? role hcreate
  have hreaches : Reaches (fun _ => True) t ((create id supplied module? role p).outcome t).2 :=
    reaches_parts.create id supplied module? role trivial t
  rw [hcreate] at hreaches
  rw [← hreaches.config_eq] at hdynamic
  obtain ⟨e, hstored, hmetadata⟩ := hmade.known_within hwithin hrole hdynamic
  refine ⟨e, fun past w hrun => ?_⟩
  have hlater : u.Advances w := (chronicle_backs.runs (fun _ _ h => h.backs) hrun).1
  rw [← hlater.1] at hmetadata
  have hlayout : x.layout?.isSome = true ↔ w.config.dynamicShapes = false := by
    rw [SymbolicTensor.layout?_of_captured hmetadata]
    cases w.config.dynamicShapes <;> simp
  refine ⟨hlater.2.stored hstored, hmetadata, hlayout, fun hknown lib => ?_⟩
  exact SymbolicTensor.agreesWith_of_captured hmetadata (hlayout.mp hknown) w lib

/-- The tensor variable of an example with two axes. -/
def SymbolicTensor.table : SymbolicTensor where
  node := ⟨0⟩
  metadata := some ((Tensor.placeholder [2, 3] .f32).captured .standard)
  parameter := none
  role := .plain
  provenance := .none

/-- After another node was recorded, the extent along the last axis is still that of the example,
and a third axis is refused. -/
theorem folding_agrees_table :
    ∃ u past w, (create ⟨0⟩ (some (.tensor (.placeholder [2, 3] .f32))) none .plain .none).outcome
        (.ofInput "x") = (.ok (.tensor .table), u) ∧
      Trace.Runs Trace.Advances u past w ∧ w.graph.nodes.size = 2 ∧
      ∀ lib : Library,
        SymbolicTensor.table.Folds "size" [.constant (.int (-1)) .none] w
          (lib.callMethod "size" (.tensor (.placeholder [2, 3] .f32)) [.int (-1)] []) ∧
        SymbolicTensor.table.Refuses "stride" [.constant (.int 2) .none] w
          (lib.callMethod "stride" (.tensor (.placeholder [2, 3] .f32)) [.int 2] []) := by
  obtain ⟨u, hcreate, hgiven⟩ : ∃ u,
      (create ⟨0⟩ (some (.tensor (.placeholder [2, 3] .f32))) none .plain .none).outcome
        (.ofInput "x") = (.ok (.tensor .table), u) ∧
      u = ((create ⟨0⟩ (some (.tensor (.placeholder [2, 3] .f32))) none .plain .none).outcome
        (.ofInput "x")).2 := ⟨_, rfl, rfl⟩
  obtain ⟨e, hagrees⟩ := folding_agrees rfl hcreate .self nofun
  have hrun : Trace.Runs Trace.Advances u _ _ :=
    .perform .start (.record (.method "neg") [.node ⟨0⟩] [])
  obtain ⟨hstored, -, -, hanswers⟩ := hagrees _ _ hrun
  have he : e = .placeholder [2, 3] .f32 := by
    rw [hgiven] at hstored
    exact (Value.tensor.inj (Option.some.inj hstored)).symm
  subst he
  refine ⟨u, _, _, hcreate, hrun, by rw [hgiven]; rfl, fun lib => ?_⟩
  have hagreement := hanswers rfl lib
  have hlast : (Literal.int (-1)).toInt? = some (-1) := rfl
  have hthird : (Literal.int 2).toInt? = some 2 := rfl
  exact ⟨(hagreement.sizeAlong (by decide)).found hlast .none (by decide) (by decide),
    (hagreement.strideAlong (by decide) rfl).refused hthird .none (by decide) (by decide)⟩

/-- The tensor variable of an example without elements, one of whose extents is no signed word. -/
def SymbolicTensor.vast : SymbolicTensor where
  node := ⟨0⟩
  metadata := some ((Tensor.placeholder [Word.signedBound, 0] .f32).captured .standard)
  parameter := none
  role := .plain
  provenance := .none

/-- What the trace answers for a size is not what the library answers where an extent is no signed
word. -/
theorem exists_size_not_folded :
    ∃ u, (create ⟨0⟩ (some (.tensor (.placeholder [Word.signedBound, 0] .f32))) none .plain
        .none).outcome (.ofInput "x") = (.ok (.tensor .vast), u) ∧
      u.graph.stored? ⟨0⟩ = some (.tensor (.placeholder [Word.signedBound, 0] .f32)) ∧
      ∀ lib : Library, ¬SymbolicTensor.vast.Folds "size" [] u
        (lib.callMethod "size" (.tensor (.placeholder [Word.signedBound, 0] .f32)) [] []) := by
  obtain ⟨u, hcreate, hstored⟩ : ∃ u,
      (create ⟨0⟩ (some (.tensor (.placeholder [Word.signedBound, 0] .f32))) none .plain
        .none).outcome (.ofInput "x") = (.ok (.tensor .vast), u) ∧
      u.graph.stored? ⟨0⟩ = some (.tensor (.placeholder [Word.signedBound, 0] .f32)) :=
    ⟨_, rfl, rfl⟩
  refine ⟨u, hcreate, hstored, fun lib hfolds => ?_⟩
  have hagreement := SymbolicTensor.agreesWith_of_captured (x := .vast) rfl rfl u lib
  have hextents := hagreement.size.mp hfolds Word.signedBound (List.mem_cons_self ..)
  exact absurd hextents (Nat.lt_irrefl _)

end TensorCapture
