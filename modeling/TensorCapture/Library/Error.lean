import TensorCapture.Fault

set_option autoImplicit false

/-! # Errors of the library

What running one operation can report. The causes are constructors; `message` holds all the
wording.
-/

namespace TensorCapture

/-- Constructs that the library refuses outright. -/
inductive Refused where
  /-- A function with this name and number of arguments. -/
  | function (name : String) (count : Nat)
  | method (name : String)
  /-- The maximum over all elements. -/
  | maxWithoutAxis
  /-- A reason given by a module. -/
  | stated (reason : String)
  deriving DecidableEq, Repr

/-- Failures inside an operation. -/
inductive Failure where
  | noTensorOperand (operation : String)
  | shapesDiffer (operation : String) (other this : List Nat)
  | unusableOperand (operation type : String)
  | notAnElementType (type : String)
  | notMatrices
  | innerExtentsDiffer (left right : Nat)
  | subscriptOfScalar
  | notSubscriptable (type : String)
  | notOneElement (count : Nat)
  | tooManyArguments (method : String)
  | operandCount (method : String)
  | transposeRank
  | pieceCountMissing
  | pieceRank
  | pieceCountNotPositive
  | repeatCounts (expected actual : Nat)
  | notCallable (target : String)
  | noAttribute (type name : String)
  | lengthOfScalar
  | noLength (type : String)
  | moduloByZero
  | mathDomain
  | argumentCount (operator : String) (count : Nat)
  | elementsOfPlaceholder
  | notATensor (type : String)
  | notAnInteger (type : String)
  | notANumber (type : String)
  | indexOutOfBounds (index : Int) (size : Nat)
  | axisOutOfRange (axis : Int) (rank : Nat)
  | negativeExtent (extent : Int)
  | inferredExtents
  | viewOfOtherSize (shape : List Int) (size : Nat)
  | methodWithoutReceiver (name : String)
  | weightRank (module : String)
  | inputRank (module : String)
  | inputWidth (module : String) (expected actual : Nat)
  | notOneTensor (module : String)
  | unknownWidth (module : String)
  /-- A message given by a module. -/
  | stated (message : String)
  deriving DecidableEq, Repr

/-- What an operation reports. -/
inductive LibraryError where
  | unsupported (reason : Refused)
  /-- The operation cannot run on placeholders at all. -/
  | placeholderUnsupported (reason : String)
  /-- The result depends on elements that a placeholder does not have. -/
  | dataDependentOutput (operator : String)
  /-- The shape of the result depends on elements that a placeholder does not have. -/
  | dynamicOutputShape (operator : String)
  | failed (failure : Failure)
  deriving DecidableEq, Repr

/-- The reason in words. -/
def Refused.message : Refused → String
  | .function name count =>
      s!"torch.{name} with {count} arguments is not provided by the reference library"
  | .method name => s!"Tensor.{name} is not provided by the reference library"
  | .maxWithoutAxis => "Tensor.max without dim"
  | .stated reason => reason

/-- A list of numbers as messages show it. -/
def listText (items : List String) : String := "[" ++ ", ".intercalate items ++ "]"

/-- The failure in words. -/
def Failure.message : Failure → String
  | .noTensorOperand operation => s!"{operation} expects at least one tensor operand"
  | .shapesDiffer operation other this =>
      operation ++ ": shape " ++ listText (other.map toString) ++ " does not match " ++
        listText (this.map toString)
  | .unusableOperand operation type => s!"{operation}: unsupported operand {type}"
  | .notAnElementType type => s!"dtype must be a torch.dtype, not {type}"
  | .notMatrices => "matmul expects two matrices"
  | .innerExtentsDiffer left right => s!"matmul: inner dimensions {left} and {right} differ"
  | .subscriptOfScalar => "invalid index of a 0-dim tensor"
  | .notSubscriptable type => s!"'{type}' object is not subscriptable"
  | .notOneElement count => s!"a tensor with {count} elements cannot be converted to a scalar"
  | .tooManyArguments method => s!"{method} takes at most one argument"
  | .operandCount method => s!"{method} expects one operand"
  | .transposeRank => "t() expects a 2-D tensor"
  | .pieceCountMissing => "chunk expects a chunk count"
  | .pieceRank => "chunk expects at least one dimension"
  | .pieceCountNotPositive => "chunk expects a positive chunk count"
  | .repeatCounts expected actual => s!"repeat expects {expected} repeat counts, got {actual}"
  | .notCallable target => s!"{target} is not a callable function"
  | .noAttribute type name => s!"'{type}' object has no attribute '{name}'"
  | .lengthOfScalar => "len() of a 0-d tensor"
  | .noLength type => s!"object of type '{type}' has no len()"
  | .moduloByZero => "integer modulo by zero"
  | .mathDomain => "math domain error"
  | .argumentCount operator count => s!"{operator} does not accept {count} arguments"
  | .elementsOfPlaceholder => "cannot read the data of a placeholder tensor"
  | .notATensor type => s!"expected a tensor, got {type}"
  | .notAnInteger type => s!"expected an int, got {type}"
  | .notANumber type => s!"must be real number, not {type}"
  | .indexOutOfBounds index size => s!"index {index} is out of bounds for size {size}"
  | .axisOutOfRange axis rank => s!"dimension {axis} out of range for rank {rank}"
  | .negativeExtent extent => s!"negative dimension {extent}"
  | .inferredExtents => "only one dimension can be inferred"
  | .viewOfOtherSize shape size =>
      "shape " ++ listText (shape.map toString) ++ s!" is invalid for input of size {size}"
  | .methodWithoutReceiver name => s!"method {name} called without self"
  | .weightRank module => s!"{module}: weight must be a matrix"
  | .inputRank module => s!"{module}: input must have at least one dimension"
  | .inputWidth module expected actual =>
      s!"{module}: expected {expected} input features, got {actual}"
  | .notOneTensor module => s!"{module} expects a single tensor input"
  | .unknownWidth module => s!"{module}: cannot infer input features"
  | .stated message => message

/-- The error in words. -/
def LibraryError.message : LibraryError → String
  | .unsupported reason => "unsupported: " ++ reason.message
  | .placeholderUnsupported reason => "placeholder execution unsupported: " ++ reason
  | .dataDependentOutput operator => "data dependent output from " ++ operator
  | .dynamicOutputShape operator => "dynamic output shape from " ++ operator
  | .failed failure => failure.message

/-- What an operation of the library comes to. -/
abbrev Kernel := Outcome LibraryError

namespace Kernel

variable {α : Type}

/-- Reports a failure inside the operation. -/
def fail (failure : Failure) : Kernel α := Outcome.fail (.failed failure)

/-- Refuses a construct. -/
def refuse (reason : Refused) : Kernel α := Outcome.fail (.unsupported reason)

/-- The value, or the failure where there is none. -/
def orFail (failure : Failure) : Option α → Kernel α
  | some a => .ok a
  | none => fail failure

end Kernel

end TensorCapture
