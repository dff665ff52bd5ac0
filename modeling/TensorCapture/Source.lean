import TensorCapture.Text.Quoted

set_option autoImplicit false

/-! # Sources

A source says where in the traced program a value was read. Its name is the expression that
reads the value again.
-/

namespace TensorCapture

/-- Where a value came from. -/
inductive Source where
  /-- A local variable. -/
  | local (name : String)
  /-- A global variable. -/
  | global (name : String)
  /-- An attribute of another source. -/
  | member (base : Source) (name : String)
  /-- An item of another source. -/
  | item (base : Source) (index : Nat)
  deriving DecidableEq, Repr

/-- The expression that reads the value again. -/
def Source.name : Source → String
  | .local name => name
  | .global name => "G[" ++ Text.quote name ++ "]"
  | .member base name => base.name ++ "." ++ name
  | .item base index => base.name ++ "[" ++ toString index ++ "]"

end TensorCapture
