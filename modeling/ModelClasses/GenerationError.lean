import ModelClasses.Text.Quoted

/-! # Failures of generation

Why no class is generated from a declaration. A failure that concerns a property names it. -/

namespace ModelClasses

inductive GenerationError
  | notAnInterface (declaration found : String)
  | invalidName (declaration name : String)
  | conflictingAnnotations (property : String) (annotations : List String)
  | notASingleton (property reference role : String)
  | unsupportedType (property transform expected actual : String)
  | unresolvedType (name context : String) (property : Option String)
  | unsupportedValue (annotationName argument value : String) (property : Option String)
  | missingArgument (annotationName property argument : String)
deriving DecidableEq

namespace GenerationError

def code : GenerationError → Nat
  | notAnInterface .. => 1
  | invalidName .. => 2
  | conflictingAnnotations .. => 3
  | notASingleton .. => 4
  | unsupportedType .. => 5
  | unresolvedType .. => 6
  | unsupportedValue .. => 7
  | missingArgument .. => 8

/-- The property that a failure concerns. -/
def property? : GenerationError → Option String
  | notAnInterface .. => none
  | invalidName .. => none
  | conflictingAnnotations p _ => some p
  | notASingleton p .. => some p
  | unsupportedType p .. => some p
  | unresolvedType _ _ p => p
  | unsupportedValue _ _ _ p => p
  | missingArgument _ p _ => some p

/-- The failure as one of a property, unless it concerns a property already. -/
def onProperty (name : String) : GenerationError → GenerationError
  | unresolvedType n context none => unresolvedType n context (some name)
  | unsupportedValue annotationName argument value none =>
    unsupportedValue annotationName argument value (some name)
  | e => e

def propertyLead : Option String → String
  | some p => "property " ++ p ++ ": "
  | none => ""

def message : GenerationError → String
  | notAnInterface declaration found =>
    declaration ++ ": the annotated declaration must be an interface, found " ++ found
  | invalidName declaration name =>
    declaration ++ ": invalid generated class name \"" ++ name ++
      "\"; the name must not be empty and must differ from the interface name"
  | conflictingAnnotations property annotations =>
    "property " ++ property ++ " has conflicting annotations " ++ ", ".intercalate annotations ++
      "; decide which one to use"
  | notASingleton property reference role =>
    "property " ++ property ++ ": " ++ reference ++ " must be an object to be used as a " ++ role
  | unsupportedType property transform expected actual =>
    "property " ++ property ++ ": unsupported type " ++ actual ++ " for " ++ transform ++
      ", expected " ++ expected
  | unresolvedType name context property =>
    propertyLead property ++ "unresolved type " ++ name ++ " in " ++ context
  | unsupportedValue annotationName argument value property =>
    propertyLead property ++ "annotation " ++ annotationName ++ ": unsupported value for argument " ++
      argument ++ ": " ++ value
  | missingArgument annotationName property argument =>
    "annotation " ++ annotationName ++ " on " ++ property ++ " is missing argument " ++ argument

end GenerationError

/-- A declaration that no class was generated from. -/
structure Failure where
  declaration : String
  sourceFile : Option String
  error : GenerationError

def Failure.message (f : Failure) : String :=
  match f.sourceFile with
  | some file => f.declaration ++ " (" ++ file ++ "): " ++ f.error.message
  | none => f.declaration ++ ": " ++ f.error.message

end ModelClasses
