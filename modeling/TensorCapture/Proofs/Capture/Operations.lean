import TensorCapture.Proofs.Capture.Steps

set_option autoImplicit false

/-! # Every operation is made of small steps

The operations of a capture, their recursion over containers, tensors and inlined bodies
included, take a trace by small steps to the trace after them. Where the operation is not to
make a scalar a literal, and no inlined code asks for it, no small step does so.
-/

namespace TensorCapture

/-! ## Code that makes no literals -/

/-- Whether the operation is to make a scalar a literal. -/
def Operation.isLiteralize : Operation → Bool
  | .literalize _ => true
  | _ => false

/-- No operation of the body, or of a body nested in it, is to make a scalar a literal. -/
def Body.Quiet : Body → Prop
  | .finish _ => True
  | .perform operation nested next =>
      operation.isLiteralize = false ∧ (∀ call, (nested call).Quiet) ∧
        ∀ answer, (next answer).Quiet

/-- Some function that the inliner inlines may make a scalar a literal. -/
def Inliner.MayLiteralize : Option Inliner → Prop
  | none => False
  | some inliner => ¬∀ call, (inliner call).Quiet

namespace Capture

open Trace

variable {literals : Option Inliner → Prop}

/-! ## Literals -/

theorem reaches_literalize (h : ∀ inliner, literals inliner) (v : SymbolicTensor) :
    Keeps (Reaches literals) (literalize v) := by
  refine keeps_ite _ (keeps_breach _) ?_
  split
  · exact keeps_breach _
  · intro t
    rw [outcome_bind_ok (outcome_get t)]
    cases hnew : t.graph.isDeoptimized v.node with
    | true =>
        rw [if_pos hnew]
        exact keeps_breach _ t
    | false =>
        -- first the graph changes, then the log is told
        rw [if_neg (by rw [hnew]; exact Bool.false_ne_true)]
        have hliteralize := Step.literalize (h t.inliner) v.node v.provenance hnew
        refine Relation.ReflTransGen.tail hliteralize.reaches ?_
        exact .work (t.workshop.say _ _ _) rfl

/-! ## Hooks and inlined bodies -/

section Inline

variable {inline : FunctionCall → Capture Variable}

theorem reaches_inlineHook (h : ∀ call, Keeps (Reaches literals) (inline call))
    (function : Variable) (origin : Source) (hook : String) (subclass : RuntimeClass)
    (p : Provenance) (args : List Variable) (kwargs : Named Variable) :
    Keeps (Reaches literals) (inlineHook inline function origin hook subclass p args kwargs) :=
  reaches_withoutDispatch (h _)

theorem reaches_callOverride (h : ∀ call, Keeps (Reaches literals) (inline call))
    (wrapped : Variable) (origin : Source) (hook : String) (subclass : RuntimeClass)
    (p : Provenance) (name : String) (args : List Variable) (kwargs : Named Variable) :
    Keeps (Reaches literals)
      (callOverride inline wrapped origin hook subclass p name args kwargs) := by
  refine keeps_bind keeps_get fun t => keeps_ite _ ?_ ?_
  · exact keeps_bind (reaches_inlineHook h _ _ _ _ _ _ _) fun _ => keeps_pure _
  · split
    · exact reaches_parts.nodes.callMethod _ name args kwargs trivial
    · exact keeps_breach _

theorem reaches_callOn (h : ∀ call, Keeps (Reaches literals) (inline call)) (self : Variable)
    (name : String) (args : List Variable) (kwargs : Named Variable) :
    Keeps (Reaches literals) (callOn inline self name args kwargs) := by
  unfold callOn
  split
  · exact reaches_parts.nodes.callMethod _ name args kwargs trivial
  · exact reaches_callOverride h _ _ _ _ _ name args kwargs
  · exact keeps_breach _

theorem reaches_performWith (h : ∀ call, Keeps (Reaches literals) (inline call))
    (operation : Operation) (hop : operation.isLiteralize = true → ∀ inliner, literals inliner) :
    Keeps (Reaches literals) (operation.perform inline) := by
  cases operation with
  | callMethod self name args kwargs => exact keeps_map _ (reaches_callOn h self name args kwargs)
  | readMember self name => exact keeps_map _ (reaches_parts.nodes.readMember self trivial name)
  | unpack self => exact keeps_map _ (reaches_parts.nodes.unpack self trivial)
  | literalize self => exact keeps_map _ (reaches_literalize (hop rfl) self)
  | addInput name source => exact keeps_map _ (reaches_addInput name source)
  | record target args kwargs => exact keeps_map _ (reaches_record target args kwargs)
  | recordItem node index => exact keeps_map _ (reaches_parts.recordItem node index)
  | create node supplied module? role p =>
      exact keeps_map _ (reaches_parts.create node supplied module? role trivial)
  | inline call => exact keeps_map _ (h call)
  | inlineHook function origin hook subclass p args kwargs =>
      exact keeps_map _ (reaches_inlineHook h function origin hook subclass p args kwargs)

end Inline

/-- A body runs by small steps, and makes no literal where none of its operations is to. -/
theorem reaches_run (body : Body) (h : body.Quiet ∨ ∀ inliner, literals inliner) :
    Keeps (Reaches literals) body.run := by
  -- on the body: the bodies that it inlines and the one that goes on are smaller
  induction body with
  | finish result => exact keeps_ofExcept result
  | perform operation nested next ihnested ihnext =>
      refine keeps_bind (keeps_attempt (reaches_performWith ?_ operation ?_)) fun answer => ?_
      · intro call
        have hcall : (nested call).Quiet ∨ ∀ inliner, literals inliner :=
          h.imp_left fun hquiet => hquiet.2.1 call
        exact keeps_bind (reaches_noteCall call) fun _ => ihnested call hcall
      · intro hop
        rcases h with hquiet | hall
        · rw [hquiet.1] at hop
          cases hop
        · exact hall
      · exact ihnext answer (h.imp_left fun hquiet => hquiet.2.2 answer)

theorem reaches_inlined (h : ∀ inliner, Inliner.MayLiteralize inliner → literals inliner)
    (call : FunctionCall) : Keeps (Reaches literals) (inlined call) := by
  intro t
  unfold inlined
  rw [outcome_bind_ok (outcome_get t)]
  cases hinliner : t.inliner with
  | none => exact .refl
  | some inliner =>
      have hrun (condition : Option Inliner → Prop)
          (hcall : (inliner call).Quiet ∨ ∀ inliner, condition inliner) :=
        keeps_bind (reaches_noteCall call) (fun _ => reaches_run (inliner call) hcall) t
      by_cases hquiet : (inliner call).Quiet
      · exact hrun _ (.inl hquiet)
      · -- this call may make a literal, which is then a literal made under this inliner
        refine (hrun (fun _ => True) (.inr fun _ => trivial)).imp fun _ => ?_
        refine h _ ?_
        rw [hinliner]
        exact fun hall => hquiet (hall call)

/-- Every operation is made of small steps. -/
theorem reaches_perform (operation : Operation) :
    Keeps (Reaches fun _ => True) (perform operation) :=
  reaches_performWith (reaches_inlined fun _ _ => trivial) operation fun _ _ => trivial

/-- An operation that is not to make a scalar a literal does so in inlined code only. -/
theorem reaches_perform_of_not_literalize {operation : Operation}
    (h : operation.isLiteralize = false) :
    Keeps (Reaches Inliner.MayLiteralize) (perform operation) := by
  refine reaches_performWith (reaches_inlined fun _ h => h) operation fun hop => ?_
  rw [h] at hop
  cases hop

end Capture

end TensorCapture
