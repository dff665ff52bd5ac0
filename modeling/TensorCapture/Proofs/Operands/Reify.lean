import TensorCapture.Proofs.Graph.WellFormed
import TensorCapture.Proofs.Rerun.Stored
import TensorCapture.Variable.Constant

set_option autoImplicit false

/-! # The value of a variable

A variable denotes a value by the examples in the graph: a tensor the example of its node, a
literal itself, a container the sequence of the values of its items. As an operand the variable
resolves to this value, once every node in it has an example. This takes an argument for sizes
of literals only, which as operands are literals and do not go item by item.

A variable is no operand where something occurs in it that the graph cannot hold: a class, an
attribute that was not looked up, a function, or a dictionary.
-/

namespace TensorCapture

/-! ## Values of variables -/

/-- The example of a node, where the graph has the node and the node has one. -/
def Graph.stored? (g : Graph) (id : NodeId) : Option Value :=
  g.nodes[id.index]?.bind Node.example?

/-- The library object as a value. Classes are none. -/
def LibraryObject.toValue? : LibraryObject → Option Value
  | .elementType value => some (.elementType value)
  | .device value => some (.device value)
  | .runtimeClass _ => none

namespace Variable

mutual

/-- The value that the variable denotes by the examples in the graph. -/
def reify? (g : Graph) : Variable → Option Value
  | tensor value => g.stored? value.node
  | constant value _ => some (.ofLiteral value)
  | container kind items _ _ =>
      (reifyAll? g items).map (if kind = .list then Value.list else Value.tuple)
  | object value _ => value.toValue?
  | override wrapped _ _ _ _ => reify? g wrapped
  | member _ _ _ | userClass _ _ | userFunction _ _ | dict _ _ => none

/-- The values that several variables denote. -/
def reifyAll? (g : Graph) : List Variable → Option (List Value)
  | [] => some []
  | item :: rest =>
      match reify? g item, reifyAll? g rest with
      | some value, some values => some (value :: values)
      | _, _ => none

end

/-- Whether the variable can be an extent of a size: a number, literal or symbolic. -/
def isExtent : Variable → Bool
  | constant _ _ | tensor _ => true
  | _ => false

mutual

/-- Every node that occurs in the variable has an example, and sizes hold extents only. -/
def Supported (g : Graph) : Variable → Prop
  | tensor value => (g.stored? value.node).isSome
  | container kind items _ _ =>
      SupportedAll g items ∧ (kind.isSize = true → ∀ item ∈ items, item.isExtent = true)
  | override wrapped _ _ _ _ => Supported g wrapped
  | _ => True

/-- Each of the variables is supported. -/
def SupportedAll (g : Graph) : List Variable → Prop
  | [] => True
  | item :: rest => Supported g item ∧ SupportedAll g rest

end

/-- Something occurs in the variable, itself or at any depth of containers and wrapped
instances, that the graph cannot hold. -/
inductive Inexpressible : Variable → Prop where
  | runtimeClass (value : RuntimeClass) (p : Provenance) :
      Inexpressible (.object (.runtimeClass value) p)
  | member (owner : Variable) (name : String) (p : Provenance) :
      Inexpressible (.member owner name p)
  | userClass (value : RuntimeClass) (p : Provenance) : Inexpressible (.userClass value p)
  | userFunction (name : String) (p : Provenance) : Inexpressible (.userFunction name p)
  | dict (items : List (String × Variable)) (p : Provenance) : Inexpressible (.dict items p)
  | item {kind : ContainerKind} {items : List Variable} {node : Option NodeId} {p : Provenance}
      {item : Variable} (hmem : item ∈ items) (h : Inexpressible item) :
      Inexpressible (.container kind items node p)
  | wrapped {wrapped : Variable} (h : Inexpressible wrapped) (origin : Source) (hook : String)
      (subclass : RuntimeClass) (p : Provenance) :
      Inexpressible (.override wrapped origin hook subclass p)

end Variable

/-! ## Later graphs -/

theorem Graph.stored?_eq_some_iff {g : Graph} {id : NodeId} {e : Value} :
    g.stored? id = some e ↔ g.exampleOf id = .ok (some e) := by
  rw [exampleOf_eq_some_iff]
  simp [stored?, Option.bind_eq_some_iff]

theorem Graph.Grows.stored {g g' : Graph} (h : g.Grows g') {id : NodeId} {e : Value}
    (he : g.stored? id = some e) : g'.stored? id = some e := by
  obtain ⟨n, hn, hexample⟩ := Option.bind_eq_some_iff.mp he
  obtain ⟨n', hn', hgrows⟩ := h.node _ n hn
  exact Option.bind_eq_some_iff.mpr ⟨n', hn', hgrows.example_eq e hexample⟩

namespace Variable

variable {g g' : Graph} {v : Variable} {vs : List Variable}

theorem supportedAll_iff : SupportedAll g vs ↔ ∀ v ∈ vs, v.Supported g := by
  induction vs with
  | nil => simp [SupportedAll]
  | cons v rest ih => simp [SupportedAll, ih]

/-- Guards, sources and identities do not matter. -/
@[simp] theorem supported_withProvenance (p : Provenance) :
    (v.withProvenance p).Supported g ↔ v.Supported g := by
  cases v <;> simp [withProvenance, Supported]

mutual

/-- What is supported stays so while the graph grows. -/
theorem Supported.mono (hgrows : g.Grows g') (v : Variable) (h : v.Supported g) :
    v.Supported g' := by
  cases v with
  | tensor value =>
      obtain ⟨e, he⟩ := Option.isSome_iff_exists.mp h
      exact Option.isSome_iff_exists.mpr ⟨e, hgrows.stored he⟩
  | container kind items node p => exact ⟨SupportedAll.mono hgrows items h.1, h.2⟩
  | override wrapped origin hook subclass p => exact Supported.mono hgrows wrapped h
  | _ => trivial

theorem SupportedAll.mono (hgrows : g.Grows g') (vs : List Variable) (h : SupportedAll g vs) :
    SupportedAll g' vs := by
  cases vs with
  | nil => trivial
  | cons v rest => exact ⟨Supported.mono hgrows v h.1, SupportedAll.mono hgrows rest h.2⟩

end

/-! ## Sizes of literals -/

/-- Extents that are literals are what they denote, also as one literal. -/
theorem reifyAll?_of_toLiterals {values : List Literal} (g : Graph)
    (hextents : ∀ v ∈ vs, v.isExtent = true) (h : toLiterals vs = .ok values) :
    reifyAll? g vs = some (Value.ofLiterals values) := by
  induction vs generalizing values with
  | nil =>
      cases h
      rfl
  | cons v rest ih =>
      have hrest : ∀ w ∈ rest, w.isExtent = true := fun w hw => hextents w (by simp [hw])
      have hextent : v.isExtent = true := hextents v (by simp)
      cases v with
      | constant value p =>
          obtain ⟨others, hothers, rfl⟩ := Except.exists_of_map_eq_ok h
          simp [reifyAll?, reify?, ih hrest hothers, Value.ofLiterals]
      | tensor value => cases h
      | _ => simp [isExtent] at hextent

/-! ## Operands -/

mutual

/-- As an operand a supported variable resolves to the value that it denotes. -/
theorem resolve_toOperand (v : Variable) (h : v.Supported g) {operand : Operand}
    (hoperand : v.toOperand = .ok operand) :
    ∃ value, v.reify? g = some value ∧ g.resolve operand = .ok value := by
  cases v with
  | tensor value =>
      obtain ⟨e, he⟩ := Option.isSome_iff_exists.mp h
      cases hoperand
      refine ⟨e, he, ?_⟩
      simp [Graph.resolve, Graph.stored?_eq_some_iff.mp he]
  | constant value p =>
      cases hoperand
      exact ⟨.ofLiteral value, rfl, rfl⟩
  | container kind items node p =>
      unfold toOperand at hoperand
      split at hoperand
      · -- a size of literals is one literal
        rename_i values hvalues hsize
        cases hoperand
        have hall := reifyAll?_of_toLiterals g (h.2 hsize) hvalues
        have hkind : kind ≠ .list := by
          rintro rfl
          cases hsize
        exact ⟨.tuple (Value.ofLiterals values), by simp [reify?, hall, hkind], rfl⟩
      · split at hoperand
        · cases hoperand
        · rename_i operands hoperands
          obtain ⟨values, hvalues, hresolve⟩ := resolveAll_toOperands items h.1 hoperands
          cases hoperand
          by_cases hkind : kind = .list
          · exact ⟨.list values, by simp [reify?, hvalues, hkind],
              by simp [Graph.resolve, hresolve, hkind, Except.map]⟩
          · exact ⟨.tuple values, by simp [reify?, hvalues, hkind],
              by simp [Graph.resolve, hresolve, hkind, Except.map]⟩
  | object value p =>
      cases value with
      | runtimeClass value => cases hoperand
      | _ =>
          cases hoperand
          exact ⟨_, rfl, rfl⟩
  | override wrapped origin hook subclass p => exact resolve_toOperand wrapped h hoperand
  | _ => cases hoperand

theorem resolveAll_toOperands (vs : List Variable) (h : SupportedAll g vs)
    {operands : List Operand} (hoperands : toOperands vs = .ok operands) :
    ∃ values, reifyAll? g vs = some values ∧ g.resolveAll operands = .ok values := by
  cases vs with
  | nil =>
      cases hoperands
      exact ⟨[], rfl, rfl⟩
  | cons v rest =>
      unfold toOperands at hoperands
      split at hoperands
      · cases hoperands
      · rename_i operand hoperand
        obtain ⟨others, hothers, rfl⟩ := Except.exists_of_map_eq_ok hoperands
        obtain ⟨value, hvalue, hresolve⟩ := resolve_toOperand v h.1 hoperand
        obtain ⟨values, hvalues, hresolveAll⟩ := resolveAll_toOperands rest h.2 hothers
        exact ⟨value :: values, by simp [reifyAll?, hvalue, hvalues],
          by simp [Graph.resolveAll, hresolve, hresolveAll, Except.map]⟩

end

end Variable

namespace Graph

variable {g : Graph}

mutual

/-- An operand that resolves refers to nodes of the graph only. -/
theorem lt_size_of_resolve (operand : Operand) {value : Value}
    (h : g.resolve operand = .ok value) {id : NodeId} (hid : id ∈ operand.nodes) :
    id.index < g.nodes.size := by
  cases operand with
  | node found =>
      obtain rfl : id = found := List.mem_singleton.mp hid
      unfold resolve at h
      split at h
      · cases h
      · cases h
      · rename_i stored hstored
        obtain ⟨n, hn, -⟩ := exampleOf_eq_some_iff.mp hstored
        exact (Array.getElem?_eq_some_iff.mp hn).1
  | literal value => cases hid
  | tuple items =>
      obtain ⟨values, hvalues, -⟩ := Except.exists_of_map_eq_ok h
      exact lt_size_of_resolveAll items hvalues hid
  | list items =>
      obtain ⟨values, hvalues, -⟩ := Except.exists_of_map_eq_ok h
      exact lt_size_of_resolveAll items hvalues hid

theorem lt_size_of_resolveAll (operands : List Operand) {values : List Value}
    (h : g.resolveAll operands = .ok values) {id : NodeId}
    (hid : id ∈ Operand.nodesOfAll operands) : id.index < g.nodes.size := by
  cases operands with
  | nil => cases hid
  | cons operand rest =>
      unfold resolveAll at h
      split at h
      · cases h
      · rename_i value hvalue
        obtain ⟨others, hothers, -⟩ := Except.exists_of_map_eq_ok h
        rcases List.mem_append.mp hid with hfirst | hrest
        · exact lt_size_of_resolve operand hvalue hfirst
        · exact lt_size_of_resolveAll rest hothers hrest

end

/-- An operation on nodes of the graph can be recorded. -/
theorem record_of_lt_size {args : List Operand} {kwargs : Named Operand}
    (h : ∀ id ∈ Operand.nodesOfAll args ++ Operand.nodesOfAll kwargs.values,
      id.index < g.nodes.size) (target : Target) :
    g.record target args kwargs = .ok (g.nextNode, g.append target args kwargs) := by
  have hforeign : g.foreign? (Operand.nodesOfAll args ++ Operand.nodesOfAll kwargs.values) =
      none := by
    refine List.getLast?_eq_none_iff.mpr (List.filter_eq_nil_iff.mpr fun id hid => ?_)
    have hlt := h id hid
    simp
    omega
  simp [record, hforeign]

end Graph

/-! ## Variables that are no operands -/

namespace Variable

mutual

/-- What holds a literal can be expressed. -/
theorem not_inexpressible_of_toLiteral (v : Variable) {value : Literal}
    (hvalue : v.toLiteral = .ok value) : ¬v.Inexpressible := by
  intro h
  cases h with
  | item hmem h =>
      obtain ⟨values, hvalues, -⟩ := Except.exists_of_map_eq_ok hvalue
      exact not_inexpressible_of_toLiterals _ hvalues _ hmem h
  | _ => cases hvalue

theorem not_inexpressible_of_toLiterals (vs : List Variable) {values : List Literal}
    (hvalues : toLiterals vs = .ok values) (v : Variable) (hmem : v ∈ vs) :
    ¬v.Inexpressible := by
  cases vs with
  | nil => cases hmem
  | cons first rest =>
      unfold toLiterals at hvalues
      split at hvalues
      · cases hvalues
      · rename_i value hvalue
        obtain ⟨others, hothers, -⟩ := Except.exists_of_map_eq_ok hvalues
        rcases List.mem_cons.mp hmem with rfl | hrest
        · exact not_inexpressible_of_toLiteral v hvalue
        · exact not_inexpressible_of_toLiterals rest hothers v hrest

end

mutual

theorem inexpressible_of_toOperand (v : Variable) {e : CaptureError}
    (he : v.toOperand = .error e) : v.Inexpressible := by
  cases v with
  | tensor value => cases he
  | constant value p => cases he
  | container kind items node p =>
      unfold toOperand at he
      split at he
      · cases he
      · split at he
        · rename_i hoperands
          obtain ⟨item, hmem, hitem⟩ := exists_inexpressible_of_toOperands items hoperands
          exact .item hmem hitem
        · cases he
  | object value p =>
      cases value with
      | runtimeClass value => exact .runtimeClass value p
      | _ => cases he
  | override wrapped origin hook subclass p =>
      exact .wrapped (inexpressible_of_toOperand wrapped he) origin hook subclass p
  | member owner name p => exact .member owner name p
  | userClass value p => exact .userClass value p
  | userFunction name p => exact .userFunction name p
  | dict items p => exact .dict items p

theorem exists_inexpressible_of_toOperands (vs : List Variable) {e : CaptureError}
    (he : toOperands vs = .error e) : ∃ v ∈ vs, v.Inexpressible := by
  cases vs with
  | nil => cases he
  | cons v rest =>
      unfold toOperands at he
      split at he
      · rename_i hfirst
        exact ⟨v, List.mem_cons_self, inexpressible_of_toOperand v hfirst⟩
      · rename_i operand hoperand
        cases hrest : toOperands rest with
        | ok operands =>
            rw [hrest] at he
            cases he
        | error e' =>
            obtain ⟨w, hmem, hw⟩ := exists_inexpressible_of_toOperands rest hrest
            exact ⟨w, List.mem_cons_of_mem v hmem, hw⟩

end

theorem toOperands_eq_ok {vs : List Variable} {operands : List Operand}
    (h : toOperands vs = .ok operands) {v : Variable} (hmem : v ∈ vs) :
    ∃ operand, v.toOperand = .ok operand := by
  induction vs generalizing operands with
  | nil => cases hmem
  | cons first rest ih =>
      unfold toOperands at h
      split at h
      · cases h
      · rename_i operand hoperand
        obtain ⟨others, hothers, -⟩ := Except.exists_of_map_eq_ok h
        rcases List.mem_cons.mp hmem with rfl | hrest
        · exact ⟨operand, hoperand⟩
        · exact ih hothers hrest

/-- What cannot be expressed is no operand. -/
theorem Inexpressible.toOperand {v : Variable} (h : v.Inexpressible) :
    ∃ e, v.toOperand = .error e := by
  induction h with
  | @item kind items node p item hmem h ih =>
      obtain ⟨e, he⟩ := ih
      unfold Variable.toOperand
      split
      · rename_i hvalues _
        exact absurd h (not_inexpressible_of_toLiterals items hvalues item hmem)
      · cases hoperands : toOperands items with
        | error e' => exact ⟨e', rfl⟩
        | ok operands =>
            obtain ⟨operand, hoperand⟩ := toOperands_eq_ok hoperands hmem
            rw [he] at hoperand
            cases hoperand
  | wrapped h origin hook subclass p ih => exact ih
  | _ => exact ⟨_, rfl⟩

/-- A variable is no operand exactly where something in it cannot be expressed. -/
theorem toOperand_eq_error_iff {v : Variable} : (∃ e, v.toOperand = .error e) ↔ v.Inexpressible :=
  ⟨fun ⟨_, he⟩ => inexpressible_of_toOperand v he, Inexpressible.toOperand⟩

end Variable

end TensorCapture
