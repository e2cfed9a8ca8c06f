import ModelClasses.Delegation

/-! # Generation

Source files from a graph of declarations: one for every declaration whose annotations ask for a
class, or the failure that stands in its place. -/

namespace ModelClasses

namespace Generation

/-- The part of a declaration's name before its first dot. -/
def topLevelName (d : Declaration) : String :=
  String.ofList (d.name.toList.takeWhile (· != '.'))

/-- A name put among names that are in order and all different. -/
def insertName (name : String) : List String → List String
  | [] => [name]
  | n :: rest =>
    if name < n then name :: n :: rest
    else if name = n then n :: rest
    else n :: insertName name rest

/-- The top-level names that a graph declares in a package, in order. -/
def packageNames (g : DeclarationGraph) (package : String) : List String :=
  ((g.declarations.filter (·.package == package)).map topLevelName).foldr insertName []

/-- The file of a declaration. -/
def generate (g : DeclarationGraph) (s : Settings) (d : Declaration) : Attempt SourceFile := do
  let descriptor ← Descriptor.build g s d.package d
  let synthesis ← Synthesis.synthesize g s descriptor
  let delegated ← Delegation.delegate? s descriptor synthesis.derived
  return {
    package := descriptor.packageName
    name := descriptor.className
    classes := synthesis.model :: delegated.toList
    originatingFiles := descriptor.originatingFiles
    packageNames := packageNames g descriptor.packageName }

/-- Whether an annotation of a declaration asks for a class. -/
def isAnnotated (g : DeclarationGraph) (s : Settings) (d : Declaration) : Bool :=
  d.annotations.any fun a => s.tag? (g.annotationName s d.package a.name) = some .generate

def annotated (g : DeclarationGraph) (s : Settings) : List Declaration :=
  g.declarations.filter (isAnnotated g s)

structure Report where
  generated : List SourceFile := []
  failures : List Failure := []

def Report.isSuccess (r : Report) : Bool := r.failures.isEmpty

/-- What a declaration adds to a report. -/
def outcome (g : DeclarationGraph) (s : Settings) (d : Declaration) : Except Failure SourceFile :=
  (generate g s d).result.mapError fun e => ⟨d.qualifiedName, d.sourceFile, e⟩

def ofOutcomes (outcomes : List (Except Failure SourceFile)) : Report where
  generated := outcomes.filterMap fun
    | .ok file => some file
    | .error _ => none
  failures := outcomes.filterMap fun
    | .ok _ => none
    | .error failure => some failure

/-- One pass over all declarations that ask for a class. -/
def process (g : DeclarationGraph) (s : Settings) : Report :=
  ofOutcomes ((annotated g s).map (outcome g s))

/-- The warnings of a pass. -/
def processWarnings (g : DeclarationGraph) (s : Settings) : List Warning :=
  (annotated g s).flatMap fun d => (generate g s d).warnings

end Generation

end ModelClasses
