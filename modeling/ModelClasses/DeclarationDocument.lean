import ModelClasses.DeclarationGraph
import ModelClasses.Json.Format
import ModelClasses.Json.Record

/-! # Documents of declarations

The JSON form of a graph of declarations. What is left out when it is written (an absent source
file, an empty list of type arguments, the mark of a type that is not nullable) stands for itself
when it is read. -/

namespace ModelClasses

open Json

variable [Format]

namespace DeclarationKind

def word : DeclarationKind → String
  | interface => "interface"
  | class_ => "class"
  | object => "object"
  | enum => "enum"
  | enumEntry => "enum_entry"
  | annotationClass => "annotation"

def all : List DeclarationKind := [interface, class_, object, enum, enumEntry, annotationClass]

def ofWord? (word : String) : Option DeclarationKind := all.find? (·.word == word)

/-- A kind is its word, or an object whose only member is that word with null. -/
def ofJson? (room : Nat) : Json → Option DeclarationKind
  | .text (some s) => ofWord? s
  | .object [(some s, .null)] => if room = 0 then none else ofWord? s
  | _ => none

def toJson (k : DeclarationKind) : Json := .str k.word

end DeclarationKind

namespace TypeUsage

def ofJson? : Nat → Json → Option TypeUsage
  | 0, _ => none
  | room + 1, j =>
    match j.record? ["name", "arguments", "nullable"] with
    | some [name, arguments, mark] => do
      let name ← required string? name
      let arguments ←
        match arguments, room with
        | none, _ => some []
        | some (.array items), inner + 1 => items.mapM (ofJson? inner)
        | some _, _ => none
      let mark ← optional false bool? mark
      return ⟨name, arguments, mark⟩
    | _ => none

mutual
def toJson : TypeUsage → Json
  | ⟨name, arguments, nullable⟩ =>
    .record ([("name", .str name)] ++
      (if arguments.isEmpty then [] else [("arguments", .array (listToJson arguments))]) ++
      (if nullable then [("nullable", .bool true)] else []))

def listToJson : List TypeUsage → List Json
  | [] => []
  | t :: rest => toJson t :: listToJson rest
end

end TypeUsage

namespace ArgumentValue

/-- A value is an object with one member, named for its kind. -/
def ofJson? : Nat → Json → Option ArgumentValue
  | room + 1, .object [(some kind, v)] =>
    if kind = "bool" then (bool? v).map bool
    else if kind = "integer" then (Format.long? v).map integer
    else if kind = "float" then (Format.binary? .single v).map float
    else if kind = "double" then (Format.binary? .double v).map double
    else if kind = "string" then (string? v).map string
    else if kind = "char" then (char? v).map char
    else if kind = "reference" then (string? v).map reference
    else if kind = "array" then
      match v, room with
      | .array items, inner + 1 => (items.mapM (ofJson? inner)).map array
      | _, _ => none
    else if kind = "expression" then (string? v).map expression
    else none
  | _, _ => none

mutual
def toJson : ArgumentValue → Json
  | bool b => .record [("bool", .bool b)]
  | integer i => .record [("integer", Format.ofLong i)]
  | float x => .record [("float", Format.ofBinary x)]
  | double x => .record [("double", Format.ofBinary x)]
  | string s => .record [("string", .str s)]
  | char c => .record [("char", .str (String.ofList [c]))]
  | reference name => .record [("reference", .str name)]
  | array items => .record [("array", .array (listToJson items))]
  | expression s => .record [("expression", .str s)]

def listToJson : List ArgumentValue → List Json
  | [] => []
  | v :: rest => toJson v :: listToJson rest
end

end ArgumentValue

namespace Argument

def ofJson? : Nat → Json → Option Argument
  | 0, _ => none
  | room + 1, j =>
    match j.record? ["name", "value"] with
    | some [name, value] => do
      let name ← required string? name
      let value ← required (ArgumentValue.ofJson? room) value
      return ⟨name, value⟩
    | _ => none

def toJson (a : Argument) : Json :=
  .record [("name", .str a.name), ("value", a.value.toJson)]

end Argument

namespace AnnotationUsage

def ofJson? : Nat → Json → Option AnnotationUsage
  | 0, _ => none
  | room + 1, j =>
    match j.record? ["name", "arguments"] with
    | some [name, arguments] => do
      let name ← required string? name
      let arguments ← optional [] (list? Argument.ofJson? room) arguments
      return ⟨name, arguments⟩
    | _ => none

def toJson (a : AnnotationUsage) : Json :=
  .record [("name", .str a.name), ("arguments", .array (a.arguments.map Argument.toJson))]

end AnnotationUsage

namespace PropertyDeclaration

def ofJson? : Nat → Json → Option PropertyDeclaration
  | 0, _ => none
  | room + 1, j =>
    match j.record? ["name", "type", "annotations"] with
    | some [name, type, annotations] => do
      let name ← required string? name
      let type ← required (TypeUsage.ofJson? room) type
      let annotations ← optional [] (list? AnnotationUsage.ofJson? room) annotations
      return ⟨name, type, annotations⟩
    | _ => none

def toJson (p : PropertyDeclaration) : Json :=
  .record [("name", .str p.name), ("type", p.type.toJson),
    ("annotations", .array (p.annotations.map AnnotationUsage.toJson))]

end PropertyDeclaration

namespace Declaration

def fieldNames : List String :=
  ["package", "name", "kind", "source_file", "supertypes", "properties", "annotations"]

def ofJson? : Nat → Json → Option Declaration
  | 0, _ => none
  | room + 1, j =>
    match j.record? fieldNames with
    | some [package, name, kind, sourceFile, supertypes, properties, annotations] => do
      let package ← optional "" string? package
      let name ← required string? name
      let kind ← required (DeclarationKind.ofJson? room) kind
      let sourceFile ← optional none (nullable string?) sourceFile
      let supertypes ← optional [] (list? TypeUsage.ofJson? room) supertypes
      let properties ← optional [] (list? PropertyDeclaration.ofJson? room) properties
      let annotations ← optional [] (list? AnnotationUsage.ofJson? room) annotations
      return ⟨package, name, kind, sourceFile, supertypes, properties, annotations⟩
    | _ => none

def toJson (d : Declaration) : Json :=
  .record ([("package", .str d.package), ("name", .str d.name), ("kind", d.kind.toJson)] ++
    (match d.sourceFile with
      | some file => [("source_file", .str file)]
      | none => []) ++
    [("supertypes", .array (d.supertypes.map TypeUsage.toJson)),
      ("properties", .array (d.properties.map PropertyDeclaration.toJson)),
      ("annotations", .array (d.annotations.map AnnotationUsage.toJson))])

end Declaration

namespace DeclarationGraph

def ofJson? : Nat → Json → Option DeclarationGraph
  | 0, _ => none
  | room + 1, j =>
    match j.record? ["declarations"] with
    | some [declarations] =>
      (optional [] (list? Declaration.ofJson? room) declarations).map ofList
    | _ => none

def toJson (g : DeclarationGraph) : Json :=
  .record [("declarations", .array (g.declarations.map Declaration.toJson))]

/-- The graph that a document holds, if it holds one. -/
def read? (text : String) : Option DeclarationGraph :=
  (Format.read? text).bind (ofJson? nestingLimit)

def write (g : DeclarationGraph) : String := Format.write g.toJson

end DeclarationGraph

end ModelClasses
