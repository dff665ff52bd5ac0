import TensorCapture.Capture.Error
import TensorCapture.Variable.Basic

set_option autoImplicit false

/-! # Variables as literals and as operands

A variable is a constant when it holds literals only. A constant index selects an item of a
constant tuple or of a container. As an operand a variable is a node, a literal, or a sequence
of operands.
-/

namespace TensorCapture

/-- The library object as a literal. Classes are none. -/
def LibraryObject.toLiteral : LibraryObject → Except CaptureError Literal
  | .elementType value => .ok (.elementType value)
  | .device value => .ok (.device value)
  | .runtimeClass _ => .error (.notImplemented .classConstant)

namespace Variable

mutual

/-- The literal that the variable holds. -/
def toLiteral : Variable → Except CaptureError Literal
  | constant value _ => .ok value
  | container _ items _ _ => (toLiterals items).map Literal.tuple
  | object value _ => value.toLiteral
  | other => .error (.notImplemented (.constant other.kindName))

/-- The literals that several variables hold. The first that holds none decides the error. -/
def toLiterals : List Variable → Except CaptureError (List Literal)
  | [] => .ok []
  | item :: rest =>
      match toLiteral item with
      | .error e => .error e
      | .ok value => (toLiterals rest).map (value :: ·)

end

/-- Whether the variable holds a literal. -/
def isConstant (v : Variable) : Bool := v.toLiteral.isOk

/-- The position that a constant index denotes; negative ones count from the end. -/
def resolveIndex (index : Variable) (length : Nat) : Except CaptureError Nat := do
  let value ← index.toLiteral
  match value.toInt? with
  | none => .error (.notImplemented .indexNotInteger)
  | some raw =>
      let position := if raw < 0 then raw.toInt + length else raw.toInt
      if position < 0 ∨ (length : Int) ≤ position then
        .error (.unsupported (.indexOutOfRange raw.toInt length))
      else .ok position.toNat

/-- The item at a constant index. It carries the guards of the container and of the index. -/
def itemAt (v index : Variable) : Except CaptureError Variable :=
  match v with
  | constant (.tuple items) p => do
      let position ← resolveIndex index items.length
      .ok (constant (items[position]?.getD .none)
        { p with guards := p.guards ∪ index.guards, source := none })
  | constant value _ => .error (.notImplemented (.subscriptOfConstant value.typeName))
  | container _ items _ p => do
      let position ← resolveIndex index items.length
      .ok ((items[position]?.getD index).addGuards (p.guards ∪ index.guards))
  | other => .error (.notImplemented (.subscript other.kindName))

mutual

/-- The operand that gives the variable's value when the graph runs. Sizes of literals are
literals themselves. -/
def toOperand : Variable → Except CaptureError Operand
  | tensor value => .ok (.node value.node)
  | constant value _ => .ok (.literal value)
  | container kind items _ _ =>
      match toLiterals items, kind.isSize with
      | .ok values, true => .ok (.literal (.tuple values))
      | _, _ =>
          match toOperands items with
          | .error e => .error e
          | .ok operands => .ok (if kind = .list then .list operands else .tuple operands)
  | object value _ => value.toLiteral.map Operand.literal
  | override wrapped _ _ _ _ => toOperand wrapped
  | other => .error (.unsupported (.notAnOperand other.kindName))

/-- The operands of several variables. The first that is none decides the error. -/
def toOperands : List Variable → Except CaptureError (List Operand)
  | [] => .ok []
  | item :: rest =>
      match toOperand item with
      | .error e => .error e
      | .ok operand => (toOperands rest).map (operand :: ·)

end

end Variable

end TensorCapture
