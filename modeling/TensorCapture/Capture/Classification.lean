import TensorCapture.Capture.Example

set_option autoImplicit false

/-! # Classification of results

The example value of a node decides which variable stands for the node. The rules form an
ordered table; the first rule that accepts the value builds the variable. Items of containers
and extents of symbolic sizes get nodes of their own. A captured scalar is classified again, as
the tensor without axes that holds it.
-/

namespace TensorCapture

/-- The rules of classification. -/
inductive Rule where
  | tensor
  | dynamicScalar
  | dynamicSize
  | nondeterministicInteger
  | staticSize
  | sequence
  | noneOrSeed
  | elementSize
  | scalarOutput
  deriving DecidableEq, Repr

namespace Rule

/-- Every rule, in the order in which they are tried. -/
def all : List Rule :=
  [tensor, dynamicScalar, dynamicSize, nondeterministicInteger, staticSize, sequence, noneOrSeed,
    elementSize, scalarOutput]

/-- The name in messages. -/
def name : Rule → String
  | tensor => "tensor"
  | dynamicScalar => "dynamic_scalar"
  | dynamicSize => "dynamic_size"
  | nondeterministicInteger => "nondeterministic_int"
  | staticSize => "static_size"
  | sequence => "sequence"
  | noneOrSeed => "none_or_manual_seed"
  | elementSize => "element_size"
  | scalarOutput => "scalar_output"

/-- Whether the value is exactly an integer. -/
def isInteger : Value → Bool
  | .int _ => true
  | _ => false

/-- Whether the value is a size. -/
def isSize : Value → Bool
  | .size _ => true
  | _ => false

/-- Whether the value is a container of values. -/
def isSequence : Value → Bool
  | .tuple _ | .list _ | .record _ _ => true
  | _ => false

/-- Whether the value is an integer or a truth value. -/
def isIntegerLike : Value → Bool
  | .int _ | .bool _ => true
  | _ => false

/-- Whether the target computes one number that may be captured. -/
def yieldsScalar (target : Target) : Bool :=
  target.isMethod "item" || target.builtin?.any Builtin.isScalarMath

/-- Whether a rule applies to a value that a target gave. -/
def accepts (config : Config) (target : Target) (value : Value) : Rule → Bool
  | tensor => value.toTensor?.isSome
  | dynamicScalar => config.dynamicShapes && value.toScalar?.isSome
  | dynamicSize => config.dynamicShapes && isSize value
  | nondeterministicInteger => isInteger value && target.builtin?.any Builtin.isNondeterministic
  | staticSize => isSize value
  | sequence => isSequence value
  | noneOrSeed => value.isNone || target.builtin? = some .manualSeed
  | elementSize => isIntegerLike value && target.builtin? = some .elementSize
  | scalarOutput =>
      value.toScalar?.isSome && yieldsScalar target && config.captureScalarOutputs

/-- The first rule that applies. -/
def first? (config : Config) (target : Target) (value : Value) : Option Rule :=
  all.find? fun rule => rule.accepts config target value

theorem mem_all (rule : Rule) : rule ∈ all := by cases rule <;> decide

end Rule

namespace Capture

/-- A symbolic number. -/
def symbolicNumber (id : NodeId) (runtimeClass : RuntimeClass) (p : Provenance) : Variable :=
  .tensor ⟨id, none, none, .symbolicNumber runtimeClass, p⟩

/-- Stands for a tensor. The supplied tensor is remembered of a parameter; of a placeholder only
the difference between parameters and other tensors is. -/
def buildTensor (role : TensorRole) (p : Provenance) (id : NodeId) (supplied : Option Tensor)
    (tensor : Tensor) : Capture Variable := do
  let config ← config
  let isParameter := tensor.runtimeClass = .parameter
  let metadata := tensor.specialize config
  let metadata :=
    if config.placeholderPropagation && tensor.isPlaceholder then
      { metadata with runtimeClass := if isParameter then .parameter else .tensor }
    else metadata
  setExample id (.tensor tensor)
  return .tensor ⟨id, some metadata, if isParameter then supplied else none, role, p⟩

/-- Stands for a number that stays symbolic. -/
def buildSymbolicNumber (p : Provenance) (id : NodeId) (value : Value) (number : Scalar) :
    Capture Variable := do
  setExample id value
  return symbolicNumber id number.runtimeClass p

/-- Symbolic numbers for the extents of a size, each with a node of its own. -/
def buildExtents (id : NodeId) (index : Nat) : List Nat → Capture (List Variable)
  | [] => return []
  | extent :: rest => do
      let item ← recordItem id index
      if extent < Word.signedBound then setExample item (.int (Word.signed extent))
      else breach (.extentOverflow extent)
      let others ← buildExtents id (index + 1) rest
      return symbolicNumber item .int .none :: others

/-- Stands for a size whose extents stay symbolic. -/
def buildSymbolicSize (p : Provenance) (id : NodeId) (extents : List Nat) : Capture Variable := do
  setExample id (.size extents)
  let items ← buildExtents id 0 extents
  return .container .size items id p

/-- Stands for a size of literal extents. -/
def buildSize (p : Provenance) (id : NodeId) (extents : List Nat) : Capture Variable := do
  setExample id (.size extents)
  return .ofExtents .size extents p

/-- Stands for a number that is a literal. -/
def buildLiteral (p : Provenance) (id : NodeId) (value : Value) (number : Scalar) :
    Capture Variable := do
  setExample id value
  return .constant (.ofScalar number) p

/-- Writes which rule classified a node. -/
def sayRule (id : NodeId) (rule : Rule) : Capture Unit :=
  say .trace .graph s!"{id.text} classified as {rule.name}"

/-- Stands for a captured number: the tensor without axes that holds it. The number itself is
remembered unless the trace uses placeholders. -/
def buildScalar (p : Provenance) (id : NodeId) (number : Scalar) : Capture Variable := do
  let placeholders := (← config).placeholderPropagation
  let tensor := Tensor.scalar number
  let role :=
    if placeholders then TensorRole.opaqueItem false else .programScalar (some number) false
  sayRule id .tensor
  buildTensor role p id (some tensor) (if placeholders then tensor.erase else tensor)

/-- The provenance of a container of this kind: lists get a new identity. -/
def containerProvenance (kind : ContainerKind) (p : Provenance) : Capture Provenance := do
  if kind = .list then
    let identity ← newIdentity
    return { p with identity := some identity }
  else return p

/-- Stands for a container; `items` makes the variables for what it holds. -/
def buildSequence (p : Provenance) (id : NodeId) (kind : ContainerKind) (value : Value)
    (items : Capture (List Variable)) : Capture Variable := do
  setExample id value
  let contents ← items
  return .container kind contents none (← containerProvenance kind p)

/-- Stands for a value as a rule says; `items` makes the variables for what a container holds.
Where the value counts as erased, its tensors are placeholders. -/
def buildAs (role : TensorRole) (p : Provenance) (id : NodeId) (target : Target)
    (supplied : Option Tensor) (erased : Bool) (value : Value) (items : Capture (List Variable))
    (rule : Rule) : Capture Variable :=
  match rule, value with
  | .tensor, .tensor tensor =>
      buildTensor role p id supplied (if erased then tensor.erase else tensor)
  | .dynamicSize, .size extents => buildSymbolicSize p id extents
  | .staticSize, .size extents => buildSize p id extents
  | .sequence, .tuple _ => buildSequence p id .tuple (prepared erased value) items
  | .sequence, .list _ => buildSequence p id .list (prepared erased value) items
  | .sequence, .record type _ => buildSequence p id (.record type) (prepared erased value) items
  | .noneOrSeed, _ => return .constant .none p
  | rule, value =>
      match rule, value.toScalar? with
      | .dynamicScalar, some number => buildSymbolicNumber p id value number
      | .nondeterministicInteger, some number => buildSymbolicNumber p id value number
      | .elementSize, some number => buildLiteral p id value number
      | .scalarOutput, some number => buildScalar p id number
      | _, _ => breach (.unclassified value.typeName target)

/-- Stands for a value as the first rule that applies says. -/
def classifyWith (role : TensorRole) (p : Provenance) (id : NodeId) (target : Target)
    (supplied : Option Tensor) (erased : Bool) (value : Value)
    (items : Capture (List Variable)) : Capture Variable := do
  match Rule.first? (← config) target value with
  | none => breach (.unclassified value.typeName target)
  | some rule => do
      sayRule id rule
      buildAs role p id target supplied erased value items rule

mutual

/-- The variable for a node of this target with this example value. Where the value counts as
erased, its tensors are placeholders. -/
def classify (role : TensorRole) (p : Provenance) (id : NodeId) (target : Target)
    (supplied : Option Tensor) (erased : Bool) (value : Value) : Capture Variable :=
  match value with
  | .tuple items =>
      classifyWith role p id target supplied erased (.tuple items)
        (classifyItems role p id erased 0 items)
  | .list items =>
      classifyWith role p id target supplied erased (.list items)
        (classifyItems role p id erased 0 items)
  | .record type items =>
      classifyWith role p id target supplied erased (.record type items)
        (classifyItems role p id erased 0 items)
  | value => classifyWith role p id target supplied erased value (return [])

/-- The variables for the items from an index on. An absent item gets no node. Every other one
is supplied as it stands and erased where the trace uses placeholders. -/
def classifyItems (role : TensorRole) (p : Provenance) (id : NodeId) (erased : Bool)
    (index : Nat) : List Value → Capture (List Variable)
  | [] => return []
  | item :: rest => do
      let first ←
        if item.isNone then pure (.constant .none p)
        else do
          let child ← recordItem id index
          addGuards p.guards
          classify role p child (.builtin .getItem) (prepared erased item).toTensor?
            (← config).placeholderPropagation item
      let others ← classifyItems role p id erased (index + 1) rest
      return first :: others

end

/-- The variable for a node that was not classified before. The guards of the provenance join
those that the graph depends on. Where operations are not run, it is a tensor of which only the
supplied example says more. -/
def create (id : NodeId) (supplied : Option Value) (module? : Option Nat) (role : TensorRole)
    (p : Provenance) : Capture Variable := do
  addGuards p.guards
  if (← node id).example?.isSome then breach (.alreadyClassified id)
  let given := supplied.bind Value.toTensor?
  let config ← config
  if config.dynamicPropagation then
    let value ← exampleValue id supplied module?
    classify role p id (← node id).target given false value
  else return .tensor ⟨id, given.map (·.specialize config), none, role, p⟩

end Capture

end TensorCapture
