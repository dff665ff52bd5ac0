import TensorCapture.Proofs.Extents.Asked
import TensorCapture.Proofs.Modulo.Floored

set_option autoImplicit false

/-! # Recorded remainders

A trace records the remainder of two integers as a node, and classifying the node runs the operator
on the integers that its operands have. Integers have no elements, so placeholders change nothing,
and an integer that this operator gives is taken for a symbolic one whether or not shapes are
symbolic. The node then has the remainder as its example. Where the library ends the run, the run
ends here too.
-/

namespace TensorCapture

open Capture Trace
open Word (ModuloFits floorMod)

/-- The node is to give the remainder of these integers: it calls the operator on operands that
have them, it was not classified before, and operations are run. -/
structure Trace.TakesModulo (t : Trace) (id : NodeId) (a b : Int64) : Prop where
  dynamic : t.config.dynamicPropagation = true
  node : ∃ n, t.graph.nodes[id.index]? = some n ∧ n.target = .builtin .mod ∧ n.example? = none ∧
    ∃ kwargs, t.graph.resolveOperands n = .ok ([.int a, .int b], kwargs)

/-- Whether shapes are symbolic or not, an integer that the operator gives stays symbolic. -/
theorem Rule.first?_modulo (config : Config) (i : Int64) :
    first? config (.builtin .mod) (.int i) =
      some (if config.dynamicShapes then .dynamicScalar else .nondeterministicInteger) := by
  obtain ⟨dynamicShapes, captureScalarOutputs, placeholders, dynamicPropagation⟩ := config
  cases dynamicShapes <;> rfl

namespace Library

/-- What the operator comes to on two integers. The state of the library stays as it is. -/
theorem callFunction_mod (lib : Library) (a b : Int64) (kwargs : Named Value) :
    lib.callFunction (.builtin .mod) [.int a, .int b] kwargs =
      ((integerMod a b).map Value.int, lib) := rfl

end Library

namespace Capture

variable {t : Trace} {id : NodeId} {a b : Int64} (role : TensorRole) (p : Provenance)

/-- An integer is written as the example of its node, and a symbolic number stands for it. -/
theorem answersIff_classify_modulo (hlacks : t.graph.Lacks id) (supplied : Option Tensor)
    (erased : Bool) (i : Int64) :
    AnswersIff True (classify role p id (.builtin .mod) supplied erased (.int i)) t fun v u =>
      v = symbolicNumber id .int p ∧ t.Fills id (.int i) [] u := by
  refine answersIff_after (answersIff_config t) fun config u hconfig => ?_
  obtain ⟨rfl, rfl⟩ := hconfig
  rw [Rule.first?_modulo]
  refine answersIff_after (answersIff_say t _ _ _) fun _ u hu => ?_
  have hset := answersIff_setExample (lacks_after hu hlacks) (.int i)
  have hbuilt : AnswersIff True (buildSymbolicNumber p id (.int i) (.int i)) u fun v w =>
      v = symbolicNumber id .int p ∧ u.Fills id (.int i) [] w :=
    answersIff_after hset fun _ w hw => answersIff_pure ⟨rfl, hw⟩
  -- both rules build the same variable
  have hrules : AnswersIff True (buildAs role p id (.builtin .mod) supplied erased (.int i)
      (pure []) (if t.config.dynamicShapes then .dynamicScalar else .nondeterministicInteger)) u
      fun v w => v = symbolicNumber id .int p ∧ u.Fills id (.int i) [] w := by
    by_cases hshapes : t.config.dynamicShapes = true
    · rw [if_pos hshapes]
      exact hbuilt
    · rw [if_neg hshapes]
      exact hbuilt
  refine answersIff_imp hrules fun v w h => ?_
  obtain ⟨hv, hfills⟩ := h
  have hnodes : u.graph.nodes = t.graph.nodes := Array.toList_inj.mp (by simpa using hu.nodes_eq)
  refine ⟨hv, hfills.config_eq.trans hu.config_eq, ?_⟩
  rw [hfills.nodes_eq, Graph.nodesWith, Graph.nodesWith, hnodes]

/-- Where the operation of a node ends the run, getting the example value does. -/
theorem exampleValue_eq_abort {n : Node} (hnode : t.graph.node? id = .ok n) {args : List Value}
    {kwargs : Named Value} (hoperands : t.graph.resolveOperands n = .ok (args, kwargs))
    (hkernel : t.kernel? n.target (args.map (prepared t.config.placeholderPropagation))
      (kwargs.mapValues (prepared t.config.placeholderPropagation))
      t.config.placeholderPropagation = some (.error .abort)) :
    ((exampleValue id none none).outcome t).1 = .error .abort := by
  show ((runNode id none).outcome t).1 = .error .abort
  rw [outcome_runNode hnode hoperands none]
  have hcall := answer_callTarget hkernel
  rw [outcome_bind_error (Prod.ext hcall rfl)]

/-- Integers are the same without elements, so the operator is called on them as they are. -/
theorem kernel?_modulo (t : Trace) (a b : Int64) (kwargs : Named Value) (placeholders : Bool) :
    t.kernel? (.builtin .mod) ([.int a, .int b].map (prepared placeholders))
      (kwargs.mapValues (prepared placeholders)) placeholders =
      some ((Library.integerMod a b).map Value.int) := by
  cases placeholders <;> rfl

/-- Classifying the node makes a symbolic integer whose example is the remainder. -/
theorem create_modulo (h : t.TakesModulo id a b) (hb : b ≠ 0) (hfits : ModuloFits a b) :
    ∃ u, (create id none none role p).outcome t = (.ok (symbolicNumber id .int p), u) ∧
      u.graph.stored? id = some (.int (floorMod a b)) := by
  obtain ⟨hdynamic, n, hnode, htarget, hexample, kwargs, hoperands⟩ := h
  have hsame : t.graph.KeepsExamples (t.merging p).graph := Graph.keepsExamples_of_nodes_eq rfl
  have hgot : ((exampleValue id none none).outcome (t.merging p)).1 =
      .ok (.int (floorMod a b)) := by
    apply exampleValue_of_kernel (node?_merging hnode p) (hsame.resolveOperands rfl rfl hoperands)
    rw [htarget, kernel?_modulo, Library.integerMod_eq_ok hb hfits]
    rfl
  obtain ⟨u, hadds, hout⟩ : ∃ u, t.Adds [] u ∧ (create id none none role p).outcome t =
      (classify role p id n.target none false (.int (floorMod a b))).outcome u :=
    outcome_create_of_example hdynamic hnode hexample hgot
  rw [htarget] at hout
  have hlacks : u.graph.Lacks id := lacks_after hadds ⟨n, hnode, hexample⟩
  rcases answersIff_classify_modulo role p hlacks none false (floorMod a b) with
    ⟨-, v, w, hclassify, rfl, hfills⟩ | ⟨hfalse, -⟩
  · refine ⟨w, hout.trans hclassify, stored_of_fills ?_ hfills⟩
    obtain ⟨m, hm, -⟩ := hlacks
    exact (Array.getElem?_eq_some_iff.mp hm).1
  · exact absurd trivial hfalse

/-- Where the remainder cannot be formed, classifying the node ends the run. -/
theorem create_modulo_eq_abort (h : t.TakesModulo id a b) (hb : b ≠ 0) (hfits : ¬ModuloFits a b) :
    ∃ u, (create id none none role p).outcome t = (.error .abort, u) := by
  obtain ⟨hdynamic, n, hnode, htarget, hexample, kwargs, hoperands⟩ := h
  have hsame : t.graph.KeepsExamples (t.merging p).graph := Graph.keepsExamples_of_nodes_eq rfl
  have habort : ((exampleValue id none none).outcome (t.merging p)).1 = .error .abort := by
    apply exampleValue_eq_abort (node?_merging hnode p) (hsame.resolveOperands rfl rfl hoperands)
    rw [htarget, kernel?_modulo, Library.integerMod_eq_abort hb hfits]
    rfl
  rw [outcome_create hdynamic hnode hexample, outcome_bind_error (Prod.ext habort rfl)]
  exact ⟨_, rfl⟩

end Capture

/-- **The remainder of two integers is that of flooring division, where it can be formed.** For
every divisor but zero there is exactly one such remainder, and it is a signed word. The library
gives it, and a trace gives the node that asks for it this example, exactly where the sum of the
truncating remainder and the divisor is a signed word and the least word is not divided by `-1`.
Elsewhere the run ends, in the library and in the trace. No dividend but the least word overflows if
and only if the divisor has at most half the magnitude of a signed word. -/
theorem modulo_floored :
    ∀ a b : Int64, b ≠ 0 → ∃ r : Int64,
      FlooredRemainder a.toInt b.toInt r.toInt ∧
      (∀ s : Int, FlooredRemainder a.toInt b.toInt s → s = r.toInt) ∧
      (∀ (lib : Library) (kwargs : Named Value),
        (ModuloFits a b →
          lib.callFunction (.builtin .mod) [.int a, .int b] kwargs = (.ok (.int r), lib)) ∧
        (¬ModuloFits a b →
          lib.callFunction (.builtin .mod) [.int a, .int b] kwargs = (.error .abort, lib))) ∧
      (∀ (t : Trace) (id : NodeId) (role : TensorRole) (p : Provenance), t.TakesModulo id a b →
        (ModuloFits a b → ∃ u,
          (create id none none role p).outcome t = (.ok (symbolicNumber id .int p), u) ∧
          u.graph.stored? id = some (.int r)) ∧
        (¬ModuloFits a b → ∃ u, (create id none none role p).outcome t = (.error .abort, u))) ∧
      (b.toInt.natAbs ≤ 2 ^ 62 ↔ ∀ c, c ≠ Int64.minValue → ModuloFits c b) := by
  intro a b hb
  have hremainder := Word.flooredRemainder_floorMod a hb
  refine ⟨floorMod a b, hremainder, fun s hs => hs.unique hremainder, fun lib kwargs => ?_,
    fun t id role p h => ?_, Word.natAbs_le_iff_moduloFits hb⟩
  · rw [Library.callFunction_mod]
    constructor
    · intro hfits
      rw [Library.integerMod_eq_ok hb hfits]
      rfl
    · intro hfits
      rw [Library.integerMod_eq_abort hb hfits]
      rfl
  · exact ⟨create_modulo role p h hb, create_modulo_eq_abort role p h hb⟩

/-- A trace whose one node is to give the remainder of two literals. -/
def Trace.ofModulo (a b : Int64) : Trace :=
  ((record (.builtin .mod) [.literal (.int a), .literal (.int b)] []).outcome
    (.start "modulo" ⟨true, false, true, true⟩ (.ofSeed 0))).2

/-- The remainder of `-7` by `3` is `2`, in the library and as the example of a node. -/
theorem modulo_floored_seven :
    (3 : Int64) ≠ 0 ∧ ModuloFits (-7) 3 ∧ (Trace.ofModulo (-7) 3).TakesModulo ⟨0⟩ (-7) 3 ∧
      (Library.ofSeed 0).callFunction (.builtin .mod) [.int (-7), .int 3] [] =
        (.ok (.int 2), .ofSeed 0) ∧
      ∃ u, (create ⟨0⟩ none none .plain .none).outcome (Trace.ofModulo (-7) 3) =
          (.ok (symbolicNumber ⟨0⟩ .int .none), u) ∧
        u.graph.stored? ⟨0⟩ = some (.int 2) := by
  have hb : (3 : Int64) ≠ 0 := by decide
  have hfits : ModuloFits (-7) 3 := ⟨by decide, by decide⟩
  have htakes : (Trace.ofModulo (-7) 3).TakesModulo ⟨0⟩ (-7) 3 :=
    ⟨rfl, _, rfl, rfl, rfl, [], rfl⟩
  obtain ⟨r, -, hunique, hlibrary, htrace, -⟩ := modulo_floored (-7) 3 hb
  have htwo : FlooredRemainder (-7 : Int64).toInt (3 : Int64).toInt (2 : Int64).toInt :=
    ⟨by decide, by decide, by decide⟩
  obtain rfl : 2 = r := Int64.toInt_inj.mp (hunique _ htwo)
  exact ⟨hb, hfits, htakes, (hlibrary (.ofSeed 0) []).1 hfits,
    (htrace _ ⟨0⟩ .plain .none htakes).1 hfits⟩

/-- The largest word but one is its own remainder by the largest word, but the run ends. -/
theorem exists_remainder_not_formed :
    (9223372036854775807 : Int64) ≠ 0 ∧
      FlooredRemainder (9223372036854775806 : Int64).toInt (9223372036854775807 : Int64).toInt
        (9223372036854775806 : Int64).toInt ∧
      (Library.ofSeed 0).callFunction (.builtin .mod)
        [.int 9223372036854775806, .int 9223372036854775807] [] = (.error .abort, .ofSeed 0) := by
  refine ⟨by decide, ⟨by decide, by decide, by decide⟩, ?_⟩
  have hsum : ¬ModuloFits 9223372036854775806 9223372036854775807 := by
    intro h
    exact absurd h.sum (by decide)
  rw [Library.callFunction_mod, Library.integerMod_eq_abort (by decide) hsum]
  rfl

end TensorCapture
