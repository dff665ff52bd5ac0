import TensorCapture.Guard
import TensorCapture.Json.Reader
import TensorCapture.Json.Writer
import TensorCapture.Stored.Basic

set_option autoImplicit false

/-! # Stored guards

The stored forms of sources, guards and sets of guards. A stored set is read as it stands: the
reader does not drop members that occur twice.
-/

namespace TensorCapture

/-- The stored form. -/
def Source.toJson : Source → Json
  | .local name => Stored.tagged "Local" (.text name)
  | .global name => Stored.tagged "Global" (.text name)
  | .member base name =>
      Stored.tagged "Attr" (.object [("base", base.toJson), ("member", .text name)])
  | .item base index =>
      Stored.tagged "GetItem" (.object [("base", base.toJson), ("index", .natural index)])

/-- The source in a document. A part of another source takes two levels. -/
def Source.ofJson? : Nat → Json → Option Source
  | _ + 1, .object [("Local", content)] => (Stored.text? content).map Source.local
  | _ + 1, .object [("Global", content)] => (Stored.text? content).map Source.global
  | levels + 2, .object [("Attr", content)] =>
      match Stored.parts? ["base", "member"] 1 content with
      | some ([some base, some name], _) => do
          let base ← ofJson? levels base
          let name ← Stored.text? name
          some (.member base name)
      | _ => none
  | levels + 2, .object [("GetItem", content)] =>
      match Stored.parts? ["base", "index"] 1 content with
      | some ([some base, some index], _) => do
          let base ← ofJson? levels base
          let index ← Stored.naturalBelow? Word.bound index
          some (.item base index)
      | _ => none
  | _, _ => none

/-- The stored form. -/
def Guard.toJson (g : Guard) : Json :=
  .object [("source", g.source.toJson), ("kind", Stored.bare g.check.tag),
    ("volatile", .bool g.volatile)]

/-- The guard in a document. -/
def Guard.ofJson? (levels : Nat) (j : Json) : Option Guard :=
  match Stored.parts? ["source", "kind", "volatile"] levels j with
  | some ([some source, some check, some volatile], levels) => do
      let source ← Source.ofJson? levels source
      let check ← Stored.choice? Check.tag Check.all levels check
      let volatile ← Stored.bool? volatile
      some ⟨source, check, volatile⟩
  | _ => none

/-- The stored form. -/
def GuardSet.toJson (s : GuardSet) : Json :=
  .object [("guards", .array (s.members.map Guard.toJson))]

/-- The set of guards in a document. -/
def GuardSet.ofJson? (levels : Nat) (j : Json) : Option GuardSet :=
  match Stored.parts? ["guards"] levels j with
  | some ([some guards], levels) => do
      let (items, levels) ← Stored.items? levels guards
      let members ← items.mapM (Guard.ofJson? levels)
      some ⟨members⟩
  | _ => none

/-- The set as a text. -/
def GuardSet.toText (s : GuardSet) : String := s.toJson.compact

/-- The set of guards in a text that holds one document. -/
def GuardSet.ofText? (text : String) : Option GuardSet :=
  (Json.read? text).bind (GuardSet.ofJson? Stored.levelLimit)

end TensorCapture
