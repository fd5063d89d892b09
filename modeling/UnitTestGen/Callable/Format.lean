import UnitTestGen.Callable.Basic
import UnitTestGen.Json.Reader
import UnitTestGen.Ty.Format

/-! Callables as JSON. Fields that are absent stand for nothing or the empty list; all fields are
written. -/

namespace UnitTestGen

open Json

namespace Param

def toJson (p : Param) : Json := .obj [("name", .ofOption .str p.name), ("ty", p.ty.toJson)]

def ofJson : Nat → Json → Option Param
  | 0, _ => none
  | depth + 1, j => do
    let field ← fields? ["name", "ty"] j
    let name ← withDefault none (nullable asString) (field "name")
    let ty ← required (Ty.ofJson depth) (field "ty")
    some ⟨name, ty⟩

end Param

namespace Visibility

def toJson : Visibility → Json
  | pub => .str "public"
  | loc => .str "local"

def ofJson (depth : Nat) (j : Json) : Option Visibility :=
  match tag? depth j with
  | some "public" => some pub
  | some "local" => some loc
  | _ => none

end Visibility

namespace CallableKind

def toJson : CallableKind → Json
  | function => .str "function"
  | method => .str "method"
  | staticMethod => .str "static_method"
  | structInit => .str "struct_init"
  | enumInit variant => .obj [("enum_init", .obj [("variant", .str variant)])]

def ofJson (depth : Nat) (j : Json) : Option CallableKind :=
  match tag? depth j, depth, j with
  | some "function", _, _ => some function
  | some "method", _, _ => some method
  | some "static_method", _, _ => some staticMethod
  | some "struct_init", _, _ => some structInit
  | _, _ + 2, .obj [("enum_init", payload)] => do
    let field ← fields? ["variant"] payload
    let variant ← required asString (field "variant")
    some (enumInit variant)
  | _, _, _ => none

end CallableKind

namespace Callable

def toJson (c : Callable) : Json :=
  .obj [("name", .str c.name), ("kind", c.kind.toJson), ("parent", .ofOption Ty.toJson c.parent),
    ("params", .arr (c.params.map Param.toJson)),
    ("return_type", .ofOption Ty.toJson c.returnType),
    ("generics", .arr (c.generics.map Ty.toJson)),
    ("visibility", c.visibility.toJson), ("src_file", .ofOption .str c.srcFile),
    ("of_trait", .ofOption .str c.ofTrait)]

def fieldNames : List String :=
  ["name", "kind", "parent", "params", "return_type", "generics", "visibility", "src_file",
    "of_trait"]

def ofJson : Nat → Json → Option Callable
  | 0, _ => none
  | depth + 1, j => do
    let field ← fields? fieldNames j
    let name ← required asString (field "name")
    let kind ← required (CallableKind.ofJson depth) (field "kind")
    let parent ← withDefault none (nullable (Ty.ofJson depth)) (field "parent")
    let params ← withDefault [] (asList depth Param.ofJson) (field "params")
    let returnType ← withDefault none (nullable (Ty.ofJson depth)) (field "return_type")
    let generics ← withDefault [] (asList depth Ty.ofJson) (field "generics")
    let visibility ← required (Visibility.ofJson depth) (field "visibility")
    let srcFile ← withDefault none (nullable asString) (field "src_file")
    let ofTrait ← withDefault none (nullable asString) (field "of_trait")
    some { name, kind, parent, params, returnType, generics, visibility, srcFile, ofTrait }

def listOfText (text : String) : Option (List Callable) :=
  (Json.ofText text).bind (asList maxDepth ofJson)

end Callable
end UnitTestGen
