import TensorCapture.Json.Reader
import TensorCapture.Text.Blank

set_option autoImplicit false

/-! # Settings of a trace

Four switches, fixed when a trace starts. They are read from a document, from settings given
as texts by name, or set one by one.
-/

namespace TensorCapture

/-- The switches of a trace. -/
structure Config where
  /-- Sizes and integer results stay symbolic. -/
  dynamicShapes : Bool
  /-- Results of `item` and of scalar functions are captured. -/
  captureScalarOutputs : Bool
  /-- Operations run on placeholders. -/
  placeholderPropagation : Bool
  /-- Each operation is run to get its example value. -/
  dynamicPropagation : Bool
  deriving DecidableEq, Repr

namespace Config

/-- The settings where nothing else is said. -/
def standard : Config := ⟨false, false, true, true⟩

instance : Inhabited Config := ⟨standard⟩

/-- The names of the switches, in order. -/
def names : List String :=
  ["dynamic_shapes", "capture_scalar_outputs", "fake_tensor_propagation", "dynamic_propagation"]

/-- The settings with the switch of this name set; other names change nothing. -/
def set (c : Config) (name : String) (value : Bool) : Config :=
  match name with
  | "dynamic_shapes" => { c with dynamicShapes := value }
  | "capture_scalar_outputs" => { c with captureScalarOutputs := value }
  | "fake_tensor_propagation" => { c with placeholderPropagation := value }
  | "dynamic_propagation" => { c with dynamicPropagation := value }
  | _ => c

/-- The switches with their names, in order. -/
def switches (c : Config) : List (String × Bool) :=
  names.zip [c.dynamicShapes, c.captureScalarOutputs, c.placeholderPropagation,
    c.dynamicPropagation]

/-! ## Documents -/

/-- The truth values of a list of documents. -/
def boolOf? : Json → Option Bool
  | .bool value => some value
  | _ => none

/-- Sets switches by position. More values than switches are refused. -/
def ofItems (c : Config) : List String → List Json → Option Config
  | _, [] => some c
  | [], _ :: _ => none
  | name :: names, item :: items => do
      let value ← boolOf? item
      ofItems (c.set name value) names items

/-- Sets switches by name. Unknown names are ignored, a switch set twice is refused. -/
def ofFields (c : Config) (seen : List String) : List (String × Json) → Option Config
  | [] => some c
  | (name, value) :: fields =>
      if name ∈ names then
        if name ∈ seen then none
        else do
          let value ← boolOf? value
          ofFields (c.set name value) (name :: seen) fields
      else ofFields c seen fields

/-- The settings in a document: fields by name, or values in order. What is missing keeps its
standard value. -/
def ofJson? : Json → Option Config
  | .object fields => standard.ofFields [] fields
  | .array items => standard.ofItems names items
  | _ => none

/-! ## Texts -/

/-- Whether a text affirms. -/
def affirms (text : List Char) : Bool :=
  let word := String.ofList (Text.lower (Text.trim text))
  word = "1" || word = "true" || word = "yes" || word = "on"

/-- The switch in a text, where it is given and not blank. -/
def switchOf (given : Option String) (standard : Bool) : Bool :=
  match given with
  | some text => if (Text.trim text.toList).isEmpty then standard else affirms text.toList
  | none => standard

/-- The name under which a switch is given as a text. -/
def settingName (name : String) : String :=
  "SYMTRACE_" ++ String.ofList (name.toList.map Char.toUpper)

/-- The settings given as texts by name. -/
def ofSettings (lookup : String → Option String) : Config :=
  standard.switches.foldl
    (fun c (name, value) => c.set name (switchOf (lookup (settingName name)) value)) standard

end Config

/-- Why settings could not be read from a document. -/
inductive ConfigError where
  | unparsable
  | unreadableFile (path : String)
  deriving DecidableEq, Repr

/-- The error in words. -/
def ConfigError.message : ConfigError → String
  | .unparsable => "failed to parse trace config"
  | .unreadableFile path => "failed to read trace config " ++ path

/-- The settings in a text that holds one document. -/
def Config.parse (text : String) : Except ConfigError Config :=
  match (Json.read? text).bind Config.ofJson? with
  | some c => .ok c
  | none => .error .unparsable

/-- The settings in a file, of which `none` could not be read. -/
def Config.parseFile (path : String) (content : Option String) : Except ConfigError Config :=
  match content with
  | some text => parse text
  | none => .error (.unreadableFile path)

end TensorCapture
