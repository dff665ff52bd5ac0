import TensorCapture.Proofs.Created.Made

set_option autoImplicit false

/-! # The guards of everything that was made

Classification is asked for a provenance, whose guards say what the variable depends on. The
variable carries exactly these guards, and so does everything that occurs in it at any depth,
except for the extents of sizes: these are made without a provenance and carry no guards at all.
An extent that is taken out of its size at a constant index is given the guards of the size, but
one that is used as it is found there is not.
-/

namespace TensorCapture

open Capture

/-! ## Occurrences -/

/-- The variable occurs in the other one: it is that variable, or occurs in an item of it. -/
inductive Variable.Within (v : Variable) : Variable → Prop where
  | self : Within v v
  | item {kind : ContainerKind} {items : List Variable} {node : Option NodeId} {q : Provenance}
      {item : Variable} (hmem : item ∈ items) (h : Within v item) :
      Within v (.container kind items node q)

/-- The variable is an extent of a size that occurs in the other one. -/
inductive Variable.ExtentWithin (v : Variable) : Variable → Prop where
  | extent {kind : ContainerKind} {items : List Variable} {node : Option NodeId} {q : Provenance}
      (hsize : kind.isSize = true) (hmem : v ∈ items) :
      ExtentWithin v (.container kind items node q)
  | item {kind : ContainerKind} {items : List Variable} {node : Option NodeId} {q : Provenance}
      {item : Variable} (hmem : item ∈ items) (h : ExtentWithin v item) :
      ExtentWithin v (.container kind items node q)

namespace Variable

variable {known : SymbolicTensor → Prop} {p q : Provenance} {v w item : Variable}
  {kind : ContainerKind} {items : List Variable} {node : Option NodeId}

/-- All that occurs in what was made carries the guards that were asked for, extents apart. -/
theorem Made.guards_within (h : w.Made known p) (hwithin : v.Within w)
    (hextent : ¬v.ExtentWithin w) : v.guards = p.guards := by
  -- along the shape of what was made; only containers have anything inside
  induction h with
  | tensor hknown hprovenance =>
      cases hwithin
      exact congrArg Provenance.guards hprovenance
  | number id runtimeClass =>
      cases hwithin
      rfl
  | literal value =>
      cases hwithin
      rfl
  | size extents =>
      cases hwithin with
      | self => rfl
      | item hmem hwithin =>
          obtain ⟨n, -, rfl⟩ := List.mem_map.mp hmem
          cases hwithin
          exact absurd (.extent rfl hmem) hextent
  | symbolicSize hextents id =>
      cases hwithin with
      | self => rfl
      | item hmem hwithin =>
          obtain ⟨node, rfl⟩ := hextents _ hmem
          cases hwithin
          exact absurd (.extent rfl hmem) hextent
  | sequence hkind hitems identity ih =>
      cases hwithin with
      | self => rfl
      | item hmem hwithin => exact ih _ hmem hwithin fun h => hextent (.item hmem h)

/-- The extents of sizes have no provenance. -/
theorem Made.provenance_of_extentWithin (h : w.Made known p) (hextent : v.ExtentWithin w) :
    v.provenance = .none := by
  induction h with
  | tensor hknown hprovenance => cases hextent
  | number id runtimeClass => cases hextent
  | literal value => cases hextent
  | size extents =>
      cases hextent with
      | extent _ hmem =>
          obtain ⟨n, -, rfl⟩ := List.mem_map.mp hmem
          rfl
      | item hmem hextent =>
          obtain ⟨n, -, rfl⟩ := List.mem_map.mp hmem
          cases hextent
  | symbolicSize hextents id =>
      cases hextent with
      | extent _ hmem =>
          obtain ⟨node, rfl⟩ := hextents _ hmem
          rfl
      | item hmem hextent =>
          obtain ⟨node, rfl⟩ := hextents _ hmem
          cases hextent
  | sequence hkind hitems identity ih =>
      cases hextent with
      | extent hsize _ =>
          rw [hkind] at hsize
          cases hsize
      | item hmem hextent => exact ih _ hmem hextent

/-- A tensor that occurs in what was made is known, unless it is a symbolic number. -/
theorem Made.known_within {x : SymbolicTensor} (h : w.Made known p)
    (hwithin : (Variable.tensor x).Within w) (hrole : ∀ c, x.role ≠ .symbolicNumber c) :
    known x := by
  induction h with
  | tensor hknown hprovenance =>
      cases hwithin
      exact hknown
  | number id runtimeClass =>
      cases hwithin
      exact absurd rfl (hrole runtimeClass)
  | literal value => cases hwithin
  | size extents =>
      cases hwithin with
      | item hmem hwithin =>
          obtain ⟨n, -, rfl⟩ := List.mem_map.mp hmem
          cases hwithin
  | symbolicSize hextents id =>
      cases hwithin with
      | item hmem hwithin =>
          obtain ⟨node, rfl⟩ := hextents _ hmem
          cases hwithin
          exact absurd rfl (hrole .int)
  | sequence hkind hitems identity ih =>
      cases hwithin with
      | item hmem hwithin => exact ih _ hmem hwithin

end Variable

/-! ## The theorem -/

/-- What classification answers, and everything that occurs in it at any depth, carries exactly the
guards that it was asked for. Only the extents of sizes carry no guards. -/
theorem create_guards_within {t u : Trace} {id : NodeId} {supplied : Option Value}
    {module? : Option Nat} {role : TensorRole} {p : Provenance} {v : Variable}
    (h : (create id supplied module? role p).outcome t = (.ok v, u)) :
    v.guards = p.guards ∧
    ∀ w : Variable, w.Within v →
      (¬w.ExtentWithin v → w.guards = p.guards) ∧ (w.ExtentWithin v → w.guards = ∅) := by
  have hmade : v.Made u.Remembers p := makes_create id supplied module? role h
  refine ⟨hmade.guards_eq, fun w hwithin => ⟨fun hextent => ?_, fun hextent => ?_⟩⟩
  · exact hmade.guards_within hwithin hextent
  · have hnone : w.provenance = .none := hmade.provenance_of_extentWithin hextent
    exact congrArg Provenance.guards hnone

/-- The guards of an input. -/
def GuardSet.ofInput : GuardSet := .ofList [.lasting (.local "x") .tensorMatch]

/-- What classification makes of a tuple with a size and an absent item. -/
def Variable.sizeInTuple : Variable :=
  .tuple [.ofExtents .size [2] (.ofGuards .ofInput), .constant .none (.ofGuards .ofInput)]
    (.ofGuards .ofInput)

/-- The tuple and the size in it carry the guards. The extent of the size does not. -/
theorem create_guards_within_sizeInTuple :
    ∃ u,
      (create ⟨0⟩ (some (.tuple [.size [2], .none])) none .plain (.ofGuards .ofInput)).outcome
        (.ofInput "x") = (.ok .sizeInTuple, u) ∧
      Variable.sizeInTuple.guards = .ofInput ∧
      (Variable.constant (.int 2) .none).Within .sizeInTuple ∧
      (Variable.constant (.int 2) .none).guards = ∅ := by
  obtain ⟨u, hout⟩ : ∃ u,
      (create ⟨0⟩ (some (.tuple [.size [2], .none])) none .plain (.ofGuards .ofInput)).outcome
        (.ofInput "x") = (.ok .sizeInTuple, u) := ⟨_, rfl⟩
  obtain ⟨hguards, hwithin⟩ := create_guards_within hout
  have hmem : Variable.constant (.int 2) .none ∈ [Variable.constant (.int 2) .none] :=
    List.mem_singleton_self _
  have hinside : (Variable.constant (.int 2) .none).Within .sizeInTuple :=
    .item (List.mem_cons_self ..) (.item hmem .self)
  have hextent : (Variable.constant (.int 2) .none).ExtentWithin .sizeInTuple :=
    .item (List.mem_cons_self ..) (.extent rfl hmem)
  exact ⟨u, hout, hguards, hinside, (hwithin _ hinside).2 hextent⟩

/-- The extent of a size that is classified does not carry the guards. -/
theorem exists_extent_without_guards :
    ¬∀ (t u : Trace) (id : NodeId) (supplied : Option Value) (module? : Option Nat)
        (role : TensorRole) (p : Provenance) (v : Variable),
      (create id supplied module? role p).outcome t = (.ok v, u) →
        ∀ w : Variable, w.Within v → ∀ g ∈ p.guards, g ∈ w.guards := by
  intro h
  have hwithin := h (.ofInput "x") _ ⟨0⟩ (some (.size [2])) none .plain (.ofGuards .ofInput) _ rfl
    (.constant (.int 2) .none) (.item (List.mem_singleton_self _) .self)
  have hguard := hwithin (.lasting (.local "x") .tensorMatch) (by decide)
  exact absurd hguard (GuardSet.not_mem_empty _)

end TensorCapture
