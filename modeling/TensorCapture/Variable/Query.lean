import TensorCapture.Variable.Constant

set_option autoImplicit false

/-! # Queries answered from metadata

Some methods of a tensor ask for what the trace remembers of it. They are answered without
recording a node. Positional arguments of such a method are constant indices into the answer.
-/

namespace TensorCapture

namespace SymbolicTensor

/-- A literal answer to a query. -/
def literalAnswer (p : Provenance) (value : Literal) : Outcome CaptureError Variable :=
  .ok (.constant value p)

/-- The number of elements by the remembered extents. -/
def numel (layout : StaticLayout) : Outcome CaptureError Literal :=
  (Outcome.ofBounded (Word.product? layout.size)).map fun n => .int (Word.signed n)

/-- What a query comes to, where the metadata answer it. -/
def query? (t : SymbolicTensor) (name : String) (p : Provenance) :
    Option (Outcome CaptureError Variable) :=
  match name with
  | "stride" => t.layout?.map fun layout => literalAnswer p (.ofExtents layout.stride)
  | "size" => t.layout?.map fun layout => .ok (.ofExtents .size layout.size p)
  | "numel" => t.layout?.map fun layout => (numel layout).map fun n => .constant n p
  | "ndimension" | "dim" =>
      t.metadata.map fun m => literalAnswer p (.int (Word.signed m.ndim))
  | "is_floating_point" =>
      t.metadata.map fun m => literalAnswer p (.bool m.elementType.isFloating)
  | "is_contiguous" => t.layout?.map fun layout => literalAnswer p (.bool layout.isContiguous)
  | _ => none

end SymbolicTensor

namespace Variable

/-- Whether the variable is the literal for the row-major memory format. -/
def isContiguousFormat (v : Variable) : Bool :=
  match v.toLiteral with
  | .ok (.memoryFormat .contiguous) => true
  | _ => false

/-- The items at several constant indices. The first that is none decides the error. -/
def itemsAt (v : Variable) (indices : List Variable) : Except CaptureError (List Variable) :=
  indices.mapM v.itemAt

/-- The answer to a query with positional arguments: the answer itself, its item at the one
index, or the tuple of its items at several. -/
def indexed (v : Variable) (indices : List Variable) (p : Provenance) :
    Except CaptureError Variable :=
  match indices with
  | [] => .ok v
  | [index] => v.itemAt index
  | indices => (v.itemsAt indices).map fun items => .tuple items p

/-- The keyword arguments that a query leaves unanswered. Asking for contiguity in the
row-major format is the same as asking for contiguity. -/
def unansweredKeywords (name : String) (kwargs : Named Variable) : Named Variable :=
  match name, kwargs.get? "memory_format" with
  | "is_contiguous", some format =>
      if format.isContiguousFormat then kwargs.remove "memory_format" else kwargs
  | _, _ => kwargs

end Variable

end TensorCapture
