import ModelClasses.Text.Quoted

/-! # Warnings

What is worth telling a user about a step that did not fail. -/

namespace ModelClasses

inductive Warning
  | unknownType (name context : String)
  | ignoredTag (property tag : String)
  | undelegatedProperties (interface : String) (properties : List String)
  /-- A function of an interface that is no property. -/
  | skippedFunction (interface function : String)
  /-- An implementation for a type that is not declared. -/
  | undeclaredTarget (supertype target : String)
  /-- A package was given for declarations that name their packages. -/
  | unusedPackage
deriving DecidableEq

namespace Warning

def quotedList (items : List String) : String :=
  "[" ++ ", ".intercalate (items.map Text.quoted) ++ "]"

def message : Warning → String
  | unknownType .. => "type is not known to the declaration graph, keeping it as written"
  | ignoredTag .. => "class-level annotation on a property is ignored"
  | undelegatedProperties .. =>
    "delegated class does not implement properties declared directly on the interface"
  | skippedFunction interface function =>
    "Skipping " ++ interface ++ "::" ++ function ++ ": not a property accessor"
  | undeclaredTarget supertype target =>
    "Skipping impl " ++ supertype ++ " for " ++ target ++ ": type is not declared in this source"
  | unusedPackage => "--package only applies to Rust source input, ignoring it"

/-- The details of a warning, each with a name. -/
def details : Warning → List (String × String)
  | unknownType name context => [("name", name), ("context", context)]
  | ignoredTag property tag => [("property", property), ("annotation", tag)]
  | undelegatedProperties interface properties =>
    [("interface", interface), ("properties", quotedList properties)]
  | _ => []

/-- The message of a warning and its details, each with a name. -/
def fields (w : Warning) : List (String × String) := ("message", w.message) :: w.details

end Warning

end ModelClasses
