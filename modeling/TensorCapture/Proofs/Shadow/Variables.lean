import Mathlib.Data.List.Forall2
import TensorCapture.Variable.Query

set_option autoImplicit false

/-! # Variables and their shadows

A program can be captured eagerly or on placeholders. A variable of the eager capture is shadowed
by the variable that stands for the same value in the capture on placeholders. The two are the
same tree with the same metadata and provenance. A captured number is remembered in the eager
capture only, so its shadow is an opaque item, and of the tensor that was supplied for a parameter
the elements may be gone. None of this is read where a variable is used as a literal, an index or
an operand.
-/

namespace TensorCapture

/-! ## The relation -/

/-- The same role, or an opaque item in place of a captured number. -/
inductive TensorRole.ShadowedBy : TensorRole → TensorRole → Prop where
  | refl (role : TensorRole) : ShadowedBy role role
  | item (raw : Option Scalar) (needsUnwrap needsUnwrap' : Bool) :
      ShadowedBy (.programScalar raw needsUnwrap) (.opaqueItem needsUnwrap')

theorem TensorRole.ShadowedBy.derived {role role' : TensorRole} (h : role.ShadowedBy role') :
    role.derived.ShadowedBy role'.derived := by
  cases h with
  | refl => exact .refl _
  | item raw needsUnwrap needsUnwrap' => exact .item none true false

/-- The same node, metadata and provenance, and the same supplied tensor up to its elements. -/
structure SymbolicTensor.ShadowedBy (t t' : SymbolicTensor) : Prop where
  node_eq : t'.node = t.node
  metadata_eq : t'.metadata = t.metadata
  parameter_eq : t'.parameter.map Tensor.erase = t.parameter.map Tensor.erase
  role : t.role.ShadowedBy t'.role
  provenance_eq : t'.provenance = t.provenance

namespace Variable

/-- The same variable, but for tensors in it that are shadowed. -/
inductive ShadowedBy : Variable → Variable → Prop where
  | refl (v : Variable) : ShadowedBy v v
  | tensor {t t' : SymbolicTensor} (h : t.ShadowedBy t') : ShadowedBy (tensor t) (tensor t')
  | container {items items' : List Variable} (kind : ContainerKind) (node : Option NodeId)
      (p : Provenance) (h : List.Forall₂ ShadowedBy items items') :
      ShadowedBy (container kind items node p) (container kind items' node p)
  | override {v v' : Variable} (origin : Source) (hook : String) (subclass : RuntimeClass)
      (p : Provenance) (h : ShadowedBy v v') :
      ShadowedBy (override v origin hook subclass p) (override v' origin hook subclass p)
  | member {v v' : Variable} (name : String) (p : Provenance) (h : ShadowedBy v v') :
      ShadowedBy (member v name p) (member v' name p)
  | dict {items items' : List (String × Variable)} (p : Provenance)
      (hnames : items'.map Prod.fst = items.map Prod.fst)
      (h : List.Forall₂ ShadowedBy (items.map Prod.snd) (items'.map Prod.snd)) :
      ShadowedBy (dict items p) (dict items' p)

/-- One by one. -/
abbrev AllShadowedBy (vs vs' : List Variable) : Prop := List.Forall₂ ShadowedBy vs vs'

/-- The same names, and under each a variable and its shadow. -/
def NamedShadowedBy (kwargs kwargs' : Named Variable) : Prop :=
  kwargs'.map Prod.fst = kwargs.map Prod.fst ∧ AllShadowedBy kwargs.values kwargs'.values

theorem namedShadowedBy_nil : NamedShadowedBy [] [] := ⟨rfl, .nil⟩

/-! ## Provenance -/

variable {v v' : Variable} {vs vs' : List Variable}

theorem ShadowedBy.provenance_eq (h : v.ShadowedBy v') : v'.provenance = v.provenance := by
  cases h with
  | tensor h => exact h.provenance_eq
  | _ => rfl

theorem ShadowedBy.guards_eq (h : v.ShadowedBy v') : v'.guards = v.guards :=
  congrArg Provenance.guards h.provenance_eq

theorem ShadowedBy.withProvenance (h : v.ShadowedBy v') (p : Provenance) :
    (v.withProvenance p).ShadowedBy (v'.withProvenance p) := by
  cases h with
  | refl => exact .refl _
  | tensor h => exact .tensor ⟨h.node_eq, h.metadata_eq, h.parameter_eq, h.role, rfl⟩
  | container kind node _ h => exact .container kind node p h
  | override origin hook subclass _ h => exact .override origin hook subclass p h
  | member name _ h => exact .member name p h
  | dict _ hnames h => exact .dict p hnames h

theorem ShadowedBy.addGuards (h : v.ShadowedBy v') (guards : GuardSet) :
    (v.addGuards guards).ShadowedBy (v'.addGuards guards) := by
  unfold Variable.addGuards
  rw [h.provenance_eq]
  exact h.withProvenance _

theorem ShadowedBy.addGuard (h : v.ShadowedBy v') (g : Guard) :
    (v.addGuard g).ShadowedBy (v'.addGuard g) := by
  unfold Variable.addGuard
  rw [h.provenance_eq]
  exact h.withProvenance _

theorem propagate_eq (h : AllShadowedBy vs vs') :
    Provenance.propagate vs' = Provenance.propagate vs := by
  have general : ∀ start : GuardSet,
      vs'.foldl (fun guards v => guards ∪ v.guards) start =
        vs.foldl (fun guards v => guards ∪ v.guards) start := by
    induction h with
    | nil => exact fun _ => rfl
    | cons hv _ ih =>
        intro start
        rw [List.foldl_cons, List.foldl_cons, hv.guards_eq]
        exact ih _
  unfold Provenance.propagate
  rw [general]

/-! ## Literals and operands -/

/-- Both computations give the same, or both fail. -/
theorem both_ok_or_both_error {ε α : Type} {r r' : Except ε α} (h : r'.toOption = r.toOption) :
    (∃ a, r = .ok a ∧ r' = .ok a) ∨ ∃ e e', r = .error e ∧ r' = .error e' := by
  cases r with
  | ok a =>
      cases r' with
      | ok a' =>
          obtain rfl : a' = a := Option.some.inj h
          exact .inl ⟨a', rfl, rfl⟩
      | error e' => cases h
  | error e =>
      cases r' with
      | ok a' => cases h
      | error e' => exact .inr ⟨e, e', rfl, rfl⟩

mutual

/-- The shadow holds the same literal, if any. Where there is none, the error may name the role of
a tensor. -/
theorem ShadowedBy.toOption_toLiteral {v v' : Variable} (h : v.ShadowedBy v') :
    v'.toLiteral.toOption = v.toLiteral.toOption := by
  cases v with
  | container kind items node p =>
      cases h with
      | refl => rfl
      | container _ _ _ hitems =>
          have hliterals := toOption_toLiterals items hitems
          rcases both_ok_or_both_error hliterals with ⟨values, hok, hok'⟩ | ⟨e, e', he, he'⟩
          · rw [toLiteral, toLiteral, hok, hok']
          · rw [toLiteral, toLiteral, he, he']
            rfl
  | _ => cases h <;> rfl

theorem toOption_toLiterals (vs : List Variable) {vs' : List Variable}
    (h : AllShadowedBy vs vs') : (toLiterals vs').toOption = (toLiterals vs).toOption := by
  cases vs with
  | nil =>
      cases h
      rfl
  | cons v rest =>
      cases h with
      | cons hv hrest =>
          have hliterals := toOption_toLiterals rest hrest
          rcases both_ok_or_both_error hv.toOption_toLiteral with ⟨a, hok, hok'⟩ | ⟨e, e', he, he'⟩
          · rw [toLiterals, toLiterals, hok, hok']
            rcases both_ok_or_both_error hliterals with ⟨values, hok, hok'⟩ | ⟨e, e', he, he'⟩
            · rw [hok, hok']
            · rw [he, he']
              rfl
          · rw [toLiterals, toLiterals, he, he']
            rfl

end

mutual

/-- The shadow is the same operand. -/
theorem ShadowedBy.toOperand_eq {v v' : Variable} (h : v.ShadowedBy v') :
    v'.toOperand = v.toOperand := by
  cases v with
  | tensor t =>
      cases h with
      | refl => rfl
      | tensor h => rw [toOperand, toOperand, h.node_eq]
  | container kind items node p =>
      cases h with
      | refl => rfl
      | container _ _ _ hitems =>
          have hoperands := toOperands_eq items hitems
          rcases both_ok_or_both_error (toOption_toLiterals items hitems) with
            ⟨values, hok, hok'⟩ | ⟨e, e', he, he'⟩
          · rw [toOperand, toOperand, hok, hok', hoperands]
          · rw [toOperand, toOperand, he, he', hoperands]
  | override wrapped origin hook subclass p =>
      cases h with
      | refl => rfl
      | override _ _ _ _ hwrapped =>
          rw [toOperand, toOperand]
          exact hwrapped.toOperand_eq
  | _ => cases h <;> rfl

theorem toOperands_eq (vs : List Variable) {vs' : List Variable} (h : AllShadowedBy vs vs') :
    toOperands vs' = toOperands vs := by
  cases vs with
  | nil =>
      cases h
      rfl
  | cons v rest =>
      cases h with
      | cons hv hrest => rw [toOperands, toOperands, hv.toOperand_eq, toOperands_eq rest hrest]

end

/-! ## Indices -/

section Indices

variable {index index' : Variable}

theorem resolveIndex_eq_ok (h : index.ShadowedBy index') {length position : Nat}
    (hposition : index.resolveIndex length = .ok position) :
    index'.resolveIndex length = .ok position := by
  unfold resolveIndex at hposition ⊢
  rcases both_ok_or_both_error h.toOption_toLiteral with ⟨value, hok, hok'⟩ | ⟨e, e', he, -⟩
  · rw [hok] at hposition
    rw [hok']
    exact hposition
  · rw [he] at hposition
    cases hposition

/-- One and the same variable has items at an index and at its shadow that shadow each other. -/
theorem itemAt_eq_ok (h : index.ShadowedBy index') {item : Variable}
    (hitem : v.itemAt index = .ok item) :
    ∃ item', v.itemAt index' = .ok item' ∧ item.ShadowedBy item' := by
  unfold itemAt at hitem ⊢
  split at hitem
  · rename_i items p
    cases hposition : index.resolveIndex items.length with
    | error e =>
        rw [hposition] at hitem
        cases hitem
    | ok position =>
        rw [hposition] at hitem
        cases hitem
        rw [resolveIndex_eq_ok h hposition, h.guards_eq]
        exact ⟨_, rfl, .refl _⟩
  · cases hitem
  · rename_i kind items node p
    cases hposition : index.resolveIndex items.length with
    | error e =>
        rw [hposition] at hitem
        cases hitem
    | ok position =>
        rw [hposition] at hitem
        cases hitem
        rw [resolveIndex_eq_ok h hposition, h.guards_eq]
        refine ⟨_, rfl, ShadowedBy.addGuards ?_ _⟩
        cases items[position]? with
        | none => exact h
        | some item => exact .refl item
  · cases hitem

theorem itemsAt_eq_ok {indices indices' : List Variable} (h : AllShadowedBy indices indices')
    {items : List Variable} (hitems : v.itemsAt indices = .ok items) :
    ∃ items', v.itemsAt indices' = .ok items' ∧ AllShadowedBy items items' := by
  unfold itemsAt at hitems ⊢
  induction h generalizing items with
  | nil =>
      cases hitems
      exact ⟨[], rfl, .nil⟩
  | @cons index index' rest rest' hindex _ ih =>
      rw [List.mapM_cons] at hitems ⊢
      cases hitem : v.itemAt index with
      | error e =>
          rw [hitem] at hitems
          cases hitems
      | ok item =>
          cases hothers : rest.mapM v.itemAt with
          | error e =>
              rw [hitem, hothers] at hitems
              cases hitems
          | ok others =>
              rw [hitem, hothers] at hitems
              cases hitems
              obtain ⟨item', hitem', hshadow⟩ := itemAt_eq_ok hindex hitem
              obtain ⟨others', hothers', hshadows⟩ := ih hothers
              rw [hitem', hothers']
              exact ⟨item' :: others', rfl, .cons hshadow hshadows⟩

/-- What positional arguments ask of one and the same variable. -/
theorem indexed_eq_ok {indices indices' : List Variable} (h : AllShadowedBy indices indices')
    {p : Provenance} {answer : Variable} (hanswer : v.indexed indices p = .ok answer) :
    ∃ answer', v.indexed indices' p = .ok answer' ∧ answer.ShadowedBy answer' := by
  cases h with
  | nil => exact ⟨answer, hanswer, .refl answer⟩
  | @cons index index' rest rest' hindex hrest =>
      cases hrest with
      | nil => exact itemAt_eq_ok hindex hanswer
      | @cons second second' rest rest' hsecond hrest =>
          change (v.itemsAt (index :: second :: rest)).map (Variable.tuple · p) = .ok answer
            at hanswer
          cases hitems : v.itemsAt (index :: second :: rest) with
          | error e =>
              rw [hitems] at hanswer
              cases hanswer
          | ok items =>
              rw [hitems] at hanswer
              cases hanswer
              obtain ⟨items', hitems', hshadows⟩ :=
                itemsAt_eq_ok (.cons hindex (.cons hsecond hrest)) hitems
              refine ⟨.tuple items' p, ?_, .container .tuple none p hshadows⟩
              exact congrArg (Except.map (Variable.tuple · p)) hitems'

end Indices

end Variable

/-! ## Queries -/

/-- Metadata answer the same queries in the same way. -/
theorem SymbolicTensor.ShadowedBy.query?_eq {t t' : SymbolicTensor} (h : t.ShadowedBy t')
    (name : String) (p : Provenance) : t'.query? name p = t.query? name p := by
  unfold query? layout?
  rw [h.metadata_eq]

end TensorCapture
