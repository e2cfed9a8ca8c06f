import ModelClasses.Directive
import ModelClasses.Hierarchy

/-! # Descriptors

All that a class is made from: the names of the class and its interface, and the properties of the
interface and of those above it, with their types and annotations resolved in the package of the
interface that declares them. The hierarchy is walked depth first, each declaration before those it
extends, supertypes in the order in which they are written, and a qualified name is visited once. Of
several properties with one name the first on the way counts. -/

namespace ModelClasses

structure PropertyDescriptor where
  name : String
  type : TypeName
  annotations : List AnnotationRecord := []
  /-- The qualified name of the interface that declares the property. -/
  declaredIn : String := ""

structure Descriptor where
  packageName : String
  className : String
  sourceInterface : TypeName
  inheritedInterfaces : List TypeName := []
  properties : List PropertyDescriptor := []
  delegatedClass : Bool := false
  originatingFiles : List String := []

namespace Descriptor

def qualifiedClassName (d : Descriptor) : String := Naming.qualify d.packageName d.className

/-- The first property of every name that has not been seen. -/
def firstOfName (seen : List String) : List PropertyDeclaration → List PropertyDeclaration
  | [] => []
  | p :: rest =>
    if seen.contains p.name then firstOfName seen rest else p :: firstOfName (p.name :: seen) rest

def describeProperty (g : DeclarationGraph) (s : Settings) (d : Declaration)
    (p : PropertyDeclaration) : Attempt PropertyDescriptor :=
  Outcome.mapError (·.onProperty p.name) do
    let type ← g.resolve d.package ("property " ++ p.name ++ " of " ++ d.qualifiedName) p.type
    let annotations ← g.resolveAnnotations s d.package p.annotations
    return ⟨p.name, type, annotations, d.qualifiedName⟩

/-- What has been collected from the interfaces that have been visited. -/
structure Collection where
  seen : List String := []
  properties : List PropertyDescriptor := []
  files : List String := []

/-- A file that is there already stays where it is. -/
def insertFile (file : Option String) (files : List String) : List String :=
  match file with
  | some file => if files.contains file then files else files ++ [file]
  | none => files

/-- What an interface adds; it is the last one of those `visited`. Its file counts if it is the
first one or adds a property. -/
def collectOwn (g : DeclarationGraph) (s : Settings) (visited : List String) (d : Declaration)
    (c : Collection) : Attempt Collection := do
  let kept := firstOfName c.seen d.properties
  let described ← Outcome.forEach (describeProperty g s d) kept
  let isRoot := visited.length == 1
  return {
    seen := kept.map (·.name) ++ c.seen
    properties := c.properties ++ described
    files := if isRoot || !kept.isEmpty then insertFile d.sourceFile c.files else c.files }

/-- What the interfaces of some names, and those above them, add. -/
def collect (g : DeclarationGraph) (s : Settings) (names visited : List String) (c : Collection) :
    Attempt Collection :=
  match names with
  | [] => pure c
  | name :: rest =>
    if _hn : visited.contains name then collect g s rest visited c
    else
      match _hd : g.get? name with
      | none => collect g s rest visited c
      | some d => do
        let c ← collectOwn g s (visited ++ [name]) d c
        collect g s (g.parentNames d ++ rest) (visited ++ [name]) c
termination_by ((g.unvisited visited).length, names.length)
decreasing_by
  · apply Prod.Lex.right; simp
  · apply Prod.Lex.right; simp
  · apply Prod.Lex.left; exact g.unvisited_shorter _hd (by simpa using _hn)

/-- What a declaration and the interfaces above it add. -/
def collectAll (g : DeclarationGraph) (s : Settings) (d : Declaration) : Attempt Collection := do
  let own ← collectOwn g s [d.qualifiedName] d {}
  collect g s (g.parentNames d) [d.qualifiedName] own

/-- The direct supertypes that are interfaces. -/
def inherited (g : DeclarationGraph) (d : Declaration) : Attempt (List TypeName) :=
  Outcome.forEach (g.resolve d.package ("supertypes of " ++ d.qualifiedName))
    (d.supertypes.filter fun s => (g.parent? d.package s).isSome)

def build (g : DeclarationGraph) (s : Settings) (package : String) (d : Declaration) :
    Attempt Descriptor := do
  if d.kind ≠ .interface then
    Outcome.fail (.notAnInterface d.qualifiedName d.kind.text)
  let annotations ← g.resolveAnnotations s d.package d.annotations
  let directive ← Directive.ofRecords s annotations
  if directive.name.isEmpty ∨ directive.className = d.simpleName then
    Outcome.fail (.invalidName d.qualifiedName directive.className)
  let inheritedInterfaces ← inherited g d
  let collected ← collectAll g s d
  return {
    packageName := package
    className := directive.className
    sourceInterface := .named d.qualifiedName
    inheritedInterfaces
    properties := collected.properties
    delegatedClass := directive.delegatedClass
    originatingFiles := collected.files }

end Descriptor

end ModelClasses
