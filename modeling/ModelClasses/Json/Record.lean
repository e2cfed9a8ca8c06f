import ModelClasses.Json.Basic

/-! # Records and scalars in JSON documents

How a value of a known type is read from a document. A record is an object, whose unknown members
are ignored and whose known ones are not repeated, or the array of its fields in order, where the
last ones may be missing. Every record and list opens one level of nesting, and a document may nest
`nestingLimit` levels deep. -/

namespace ModelClasses.Json

def nestingLimit : Nat := 127

def occurrences (name : String) (members : List (JsonText × Json)) : Nat :=
  (members.filter (·.1 == some name)).length

def member? (name : String) (members : List (JsonText × Json)) : Option Json :=
  (members.find? (·.1 == some name)).map (·.2)

/-- The values of the named fields of a record, in the order of the names. -/
def record? (names : List String) : Json → Option (List (Option Json))
  | .object members =>
    if members.all (·.1.isSome) && names.all (occurrences · members ≤ 1) then
      some (names.map (member? · members))
    else none
  | .array items =>
    if items.length ≤ names.length then
      some (items.map some ++ List.replicate (names.length - items.length) none)
    else none
  | _ => none

/-- A field that must be there. -/
def required {α : Type} (read : Json → Option α) : Option Json → Option α
  | some j => read j
  | none => none

/-- A field that stands for `default` when it is left out. -/
def optional {α : Type} (default : α) (read : Json → Option α) : Option Json → Option α
  | some j => read j
  | none => some default

/-- A value that may be null. -/
def nullable {α : Type} (read : Json → Option α) : Json → Option (Option α)
  | .null => some none
  | j => (read j).map some

/-- The items of an array, each with one level of nesting less than the array has. -/
def list? {α : Type} (read : Nat → Json → Option α) : Nat → Json → Option (List α)
  | room + 1, .array items => items.mapM (read room)
  | _, _ => none

def string? : Json → Option String
  | .text s => s
  | _ => none

def bool? : Json → Option Bool
  | .bool b => some b
  | _ => none

def char? : Json → Option Char
  | .text (some s) =>
    match s.toList with
    | [c] => some c
    | _ => none
  | _ => none

end ModelClasses.Json
