import TensorCapture.Graph.Operand
import TensorCapture.Guard
import TensorCapture.Metadata
import TensorCapture.Value

set_option autoImplicit false

/-! # Symbolic variables

While a program is traced, symbolic variables stand for its values: results of graph nodes,
literals, containers of variables, library objects, instances of tensor subclasses that
override their methods, and pieces of user code. Every variable carries a provenance: the
guards it depends on, the source it was read from, and the identity of a container that was
made during the trace. Provenance flows from operands to results as a union of guards; sources
never flow.
-/

namespace TensorCapture

/-- What a variable carries besides its content. -/
structure Provenance where
  guards : GuardSet
  source : Option Source
  /-- The identity of a container made during the trace. -/
  identity : Option Nat
  deriving DecidableEq, Repr

namespace Provenance

/-- The provenance without guards, source and identity. -/
def none : Provenance := ⟨∅, .none, .none⟩

instance : Inhabited Provenance := ⟨none⟩

/-- The provenance of guards alone. -/
def ofGuards (guards : GuardSet) : Provenance := ⟨∅ ∪ guards, .none, .none⟩

/-- The same provenance with more guards. -/
def addGuards (p : Provenance) (guards : GuardSet) : Provenance :=
  { p with guards := p.guards ∪ guards }

/-- The same provenance with one more guard. -/
def addGuard (p : Provenance) (g : Guard) : Provenance := { p with guards := p.guards.insert g }

/-- A guard on the source, where there is one. -/
def guardOn? (p : Provenance) (check : Check) : Option Guard :=
  p.source.map fun source => Guard.lasting source check

end Provenance

/-- Which member of the tensor family a symbolic tensor is. -/
inductive TensorRole where
  | plain
  /-- A symbolic number of this class. -/
  | symbolicNumber (runtimeClass : RuntimeClass)
  /-- A tensor of one element that stands for an array scalar. -/
  | arrayScalar (raw : Option Scalar)
  /-- A tensor of one element that stands for a number of the program. -/
  | programScalar (raw : Option Scalar) (needsUnwrap : Bool)
  /-- The result of `item` on a placeholder, whose value is not known. -/
  | opaqueItem (needsUnwrap : Bool)

namespace TensorRole

/-- The name in messages. -/
def name : TensorRole → String
  | plain => "TensorVariable"
  | symbolicNumber _ => "DynamicShapeVariable"
  | arrayScalar _ => "UnspecializedNumpyVariable"
  | programScalar _ _ => "UnspecializedPythonVariable"
  | opaqueItem _ => "FakeItemVariable"

/-- The role of what a method makes of a value. The raw number never carries over. -/
def derived : TensorRole → TensorRole
  | plain | symbolicNumber _ => plain
  | arrayScalar _ => arrayScalar none
  | programScalar _ _ => programScalar none true
  | opaqueItem _ => opaqueItem false

/-- Whether the value stands for a scalar that was not made a literal. -/
def isUnspecialized : TensorRole → Bool
  | arrayScalar _ | programScalar _ _ => true
  | _ => false

/-- The number the value stands for, where it was recorded. -/
def raw? : TensorRole → Option Scalar
  | arrayScalar raw | programScalar raw _ => raw
  | _ => none

/-- Whether the program has to unwrap the value. -/
def needsUnwrap : TensorRole → Bool
  | programScalar _ needsUnwrap | opaqueItem needsUnwrap => needsUnwrap
  | _ => false

end TensorRole

/-- A tensor, or a symbolic number, that a node of the graph gives. -/
structure SymbolicTensor where
  node : NodeId
  metadata : Option Metadata
  /-- The tensor that the caller supplied, for a parameter of a module. -/
  parameter : Option Tensor
  role : TensorRole
  provenance : Provenance

/-- What a container variable stands for. -/
inductive ContainerKind where
  | tuple
  | list
  | record (type : RecordType)
  /-- The extents that `size` gives. -/
  | size
  /-- The extents that the attribute `shape` gives. -/
  | shape
  deriving DecidableEq, Repr

namespace ContainerKind

/-- The name of the type in the traced program. -/
def typeName : ContainerKind → String
  | tuple => "tuple"
  | list => "list"
  | record type => type.name
  | size | shape => "torch.Size"

/-- Whether the items are extents of a tensor. -/
def isSize : ContainerKind → Bool
  | size | shape => true
  | _ => false

end ContainerKind

/-- An object of the library that is no tensor. -/
inductive LibraryObject where
  | elementType (value : ElementType)
  | device (value : Device)
  | runtimeClass (value : RuntimeClass)
  deriving DecidableEq, Repr

/-- A symbolic variable. -/
inductive Variable where
  | tensor (value : SymbolicTensor)
  | constant (value : Literal) (provenance : Provenance)
  /-- A container; `node` is the node that gave it as a whole. -/
  | container (kind : ContainerKind) (items : List Variable) (node : Option NodeId)
      (provenance : Provenance)
  | object (value : LibraryObject) (provenance : Provenance)
  /-- An instance of a tensor subclass whose method calls go to the function `hook`. -/
  | override (tensor : Variable) (origin : Source) (hook : String) (subclass : RuntimeClass)
      (provenance : Provenance)
  /-- An attribute that was not looked up. -/
  | member (owner : Variable) (name : String) (provenance : Provenance)
  | userClass (runtimeClass : RuntimeClass) (provenance : Provenance)
  | userFunction (name : String) (provenance : Provenance)
  | dict (items : List (String × Variable)) (provenance : Provenance)

namespace Variable

/-- What the variable carries besides its content. -/
def provenance : Variable → Provenance
  | tensor value => value.provenance
  | constant _ p | object _ p | userClass _ p | userFunction _ p | dict _ p => p
  | container _ _ _ p => p
  | override _ _ _ _ p => p
  | member _ _ p => p

/-- The variable with another provenance. -/
def withProvenance (p : Provenance) : Variable → Variable
  | tensor value => tensor { value with provenance := p }
  | constant value _ => constant value p
  | container kind items node _ => container kind items node p
  | object value _ => object value p
  | override t origin hook subclass _ => override t origin hook subclass p
  | member owner name _ => member owner name p
  | userClass runtimeClass _ => userClass runtimeClass p
  | userFunction name _ => userFunction name p
  | dict items _ => dict items p

/-- The guards that the variable depends on. -/
def guards (v : Variable) : GuardSet := v.provenance.guards

/-- The variable with one more guard. -/
def addGuard (v : Variable) (g : Guard) : Variable :=
  v.withProvenance (v.provenance.addGuard g)

/-- The variable with more guards. -/
def addGuards (v : Variable) (guards : GuardSet) : Variable :=
  v.withProvenance (v.provenance.addGuards guards)

/-- The symbolic tensor, where the variable is one. -/
def toTensor? : Variable → Option SymbolicTensor
  | tensor value => some value
  | _ => none

/-- The name of the variable's kind in messages. -/
def kindName : Variable → String
  | tensor value => value.role.name
  | constant _ _ => "ConstantVariable"
  | container _ _ _ _ => "ContainerVariable"
  | object _ _ => "TorchVariable"
  | override _ _ _ _ _ => "TensorWithTFOverrideVariable"
  | member _ _ _ => "GetAttrVariable"
  | userClass _ _ => "UserDefinedClassVariable"
  | userFunction _ _ => "UserFunctionVariable"
  | dict _ _ => "ConstDictVariable"

/-- A tuple of variables that no node gave as a whole. -/
def tuple (items : List Variable) (p : Provenance) : Variable := container .tuple items none p

/-- A size of literal extents. -/
def ofExtents (kind : ContainerKind) (extents : List Nat) (p : Provenance) : Variable :=
  container kind (extents.map fun n => constant (.int (Word.signed n)) .none) none p

@[simp] theorem provenance_withProvenance (p : Provenance) (v : Variable) :
    (v.withProvenance p).provenance = p := by
  cases v <;> rfl

end Variable

/-- The provenance of what is made of several variables: the union of their guards, in order. -/
def Provenance.propagate (vars : List Variable) : Provenance :=
  ⟨vars.foldl (fun guards v => guards ∪ v.guards) ∅, .none, .none⟩

theorem Provenance.mem_propagate {g : Guard} {vars : List Variable} :
    g ∈ (Provenance.propagate vars).guards ↔ ∃ v ∈ vars, g ∈ v.guards := by
  have general : ∀ (vars : List Variable) (start : GuardSet),
      g ∈ vars.foldl (fun guards v => guards ∪ v.guards) start ↔
        g ∈ start ∨ ∃ v ∈ vars, g ∈ v.guards := by
    intro vars
    induction vars with
    | nil => intro start; simp
    | cons v rest ih =>
      intro start
      simp [ih, GuardSet.mem_union, or_assoc]
  simpa [propagate] using general vars ∅

namespace SymbolicTensor

/-- The layout, where the shape is static. -/
def layout? (t : SymbolicTensor) : Option StaticLayout := t.metadata.bind Metadata.layout

/-- The extents, where the shape is static. -/
def size? (t : SymbolicTensor) : Option (List Nat) := t.layout?.map StaticLayout.size

/-- The class that the traced program sees. -/
def runtimeClass (t : SymbolicTensor) : RuntimeClass :=
  match t.role with
  | .symbolicNumber c => c
  | _ => (t.metadata.map Metadata.runtimeClass).getD .tensor

/-- Whether the value is an instance of one of the classes. Typed classes are decided by the
element type. -/
def isInstance (t : SymbolicTensor) (classes : List RuntimeClass) : Bool :=
  classes.any fun c =>
    match c with
    | .typed typedClass => t.metadata.any fun m => m.elementType = typedClass.elementType
    | other => t.runtimeClass.isSubclassOf other

/-- A provenance with the guards of the tensor alone. -/
def propagated (t : SymbolicTensor) : Provenance := .ofGuards t.provenance.guards

end SymbolicTensor

end TensorCapture
