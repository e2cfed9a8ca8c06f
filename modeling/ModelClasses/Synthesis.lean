import ModelClasses.ClassModel
import ModelClasses.Decimal.Word
import ModelClasses.Descriptor

/-! # Synthesis of classes

The class that implements an interface: every property is a constructor parameter, with or without
a default, or is computed from an expression, as its tags say; further properties are created from
it; annotations that are no tags are copied. -/

namespace ModelClasses

/-- A property that is computed from an expression. -/
structure DerivedProperty where
  name : String
  type : TypeName
  deriveFrom : String

/-- Where the value of a property comes from. -/
inductive Source
  | plain
  | default (value : Expression)
  | derived (text : String)

structure ClassifiedProperty where
  property : PropertyDescriptor
  source : Source
  created : List Property
  copied : List AnnotationCopy

structure Synthesis where
  model : ClassModel
  derived : List DerivedProperty

namespace Synthesis

def provideFunction : String := "provide"

def modifyFunction : String := "modify"

def required (p : PropertyDescriptor) (a : AnnotationRecord) (argument : String) :
    Except GenerationError AnnotationValue :=
  match a.argument? argument with
  | some v => .ok v
  | none => .error (.missingArgument a.qualifiedName p.name argument)

def unsupported {α : Type} (p : PropertyDescriptor) (a : AnnotationRecord) (argument : String)
    (v : AnnotationValue) : Except GenerationError α :=
  .error (a.unsupported argument v (some p.name))

/-- The name of the object that a value refers to. -/
def singleton (p : PropertyDescriptor) (a : AnnotationRecord) (argument role : String) :
    AnnotationValue → Except GenerationError String
  | .reference ⟨name, .singleton⟩ => .ok name
  | .reference ⟨name, _⟩ => .error (.notASingleton p.name name role)
  | v => unsupported p a argument v

/-- Whether a value is one of a literal's type. -/
def literalMatches : LiteralKind → AnnotationValue → Bool
  | .boolean, .bool _ => true
  | .byte, .integer i => Decimal.Word.isSigned 8 i.toInt
  | .short, .integer i => Decimal.Word.isSigned 16 i.toInt
  | .int, .integer i => Decimal.Word.isSigned 32 i.toInt
  | .long, .integer _ => true
  | .char, .char _ => true
  | .float, .float _ => true
  | .double, .double _ => true
  | .string, .string _ => true
  | _, _ => false

def copyArgument (p : PropertyDescriptor) (a : AnnotationRecord) (argument : AnnotationArgument) :
    Except GenerationError NamedArgument :=
  if argument.value.isRenderable then .ok ⟨argument.name, .literal argument.value⟩
  else unsupported p a argument.name argument.value

/-- An annotation that is no tag stays on the property. -/
def copyRecord (p : PropertyDescriptor) (a : AnnotationRecord) :
    Except GenerationError AnnotationCopy :=
  (a.arguments.mapM (copyArgument p a)).map fun members => ⟨a.qualifiedName, members⟩

/-- The qualified name of a supertype. The interfaces of the annotations' package are known by
their simple names also where the graph does not declare them. -/
def supertypeName (g : DeclarationGraph) (s : Settings) (package name : String) : String :=
  match g.resolveName? package name with
  | some qualified => qualified
  | none =>
    ([s.valueModifier, s.valueProvider].find? fun q => Naming.simpleName q == name).getD name

/-- The types that a modifier takes and gives. -/
def modifierSignature (g : DeclarationGraph) (s : Settings) (p : PropertyDescriptor)
    (modifier : String) : Except GenerationError (TypeName × TypeName) :=
  let mismatch : GenerationError :=
    .unsupportedType p.name modifier (s.valueModifier ++ "<" ++ p.type.text ++ ", _>")
      "no ValueModifier supertype"
  match g.get? modifier with
  | none => .error mismatch
  | some d =>
    match d.supertypes.find? fun t => supertypeName g s d.package t.name == s.valueModifier with
    | some ⟨_, [input, output], _⟩ =>
      let resolve (t : TypeUsage) :=
        (g.resolveStrict d.package ("supertypes of " ++ modifier) t).mapError (·.onProperty p.name)
      do
        let input ← resolve input
        let output ← resolve output
        return (input, output)
    | _ => .error mismatch

/-- The name that a created property has, which is not empty. -/
def createdName (p : PropertyDescriptor) (a : AnnotationRecord) : Except GenerationError String := do
  match ← required p a Tag.newPropertyArgument with
  | .string name =>
    if name.isEmpty then unsupported p a Tag.newPropertyArgument (.string name) else return name
  | v => unsupported p a Tag.newPropertyArgument v

/-- The property that a modifier computes from another one. -/
def createProperty (g : DeclarationGraph) (s : Settings) (p : PropertyDescriptor)
    (a : AnnotationRecord) : Except GenerationError Property := do
  let name ← createdName p a
  let argument := Tag.create.valueArgument
  let value ← required p a argument
  let modifier ← singleton p a argument Tag.modifierName value
  let (input, output) ← modifierSignature g s p modifier
  if input ≠ p.type then
    throw (.unsupportedType p.name modifier input.text p.type.text)
  return {
    name
    type := output
    isOverride := false
    initializer := .expression (.call modifier modifyFunction [.name p.name]) }

/-- The default value that a tag gives. -/
def defaultValue (p : PropertyDescriptor) (tag : Tag) (a : AnnotationRecord) :
    Except GenerationError Expression := do
  let argument := tag.valueArgument
  let value ← required p a argument
  match tag with
  | .literalDefault kind =>
    if literalMatches kind value ∧ value.isRenderable then return .literal value
    else unsupported p a argument value
  | .providerDefault =>
    let receiver ← singleton p a argument Tag.providerName value
    return .call receiver provideFunction []
  | _ => unsupported p a argument value

def deriveText (p : PropertyDescriptor) (a : AnnotationRecord) : Except GenerationError String := do
  let argument := Tag.derived.valueArgument
  match ← required p a argument with
  | .string text => return text
  | v => unsupported p a argument v

/-- The annotations of a property by what they do. -/
structure Sorted where
  defaults : List (Tag × AnnotationRecord) := []
  derives : List AnnotationRecord := []
  created : List Property := []
  copied : List AnnotationCopy := []

/-- Annotations are sorted in their order; a created property and a copied annotation are checked
on the way. -/
def sort (g : DeclarationGraph) (s : Settings) (p : PropertyDescriptor) :
    List AnnotationRecord → Attempt Sorted
  | [] => pure {}
  | a :: rest =>
    match s.tag? a.qualifiedName with
    | none => do
      let copy ← copyRecord p a
      let sorted ← sort g s p rest
      return { sorted with copied := copy :: sorted.copied }
    | some .create => do
      let property ← createProperty g s p a
      let sorted ← sort g s p rest
      return { sorted with created := property :: sorted.created }
    | some .derived => do
      let sorted ← sort g s p rest
      return { sorted with derives := a :: sorted.derives }
    | some .generate => do
      Outcome.warn (.ignoredTag p.name a.qualifiedName)
      sort g s p rest
    | some tag => do
      let sorted ← sort g s p rest
      return { sorted with defaults := (tag, a) :: sorted.defaults }

/-- At most one annotation says where a property's value comes from. -/
def sourceOf (p : PropertyDescriptor) (sorted : Sorted) : Except GenerationError Source :=
  match sorted.derives, sorted.defaults with
  | [], [] => .ok .plain
  | [a], [] => (deriveText p a).map .derived
  | [], [(tag, a)] => (defaultValue p tag a).map .default
  | derives, defaults =>
    .error (.conflictingAnnotations p.name
      (defaults.map (·.2.qualifiedName) ++ derives.map (·.qualifiedName)))

def classify (g : DeclarationGraph) (s : Settings) (p : PropertyDescriptor) :
    Attempt ClassifiedProperty := do
  let sorted ← sort g s p p.annotations
  let source ← sourceOf p sorted
  return ⟨p, source, sorted.created, sorted.copied⟩

/-- The constructor parameter of a property that is not derived. -/
def parameter? (c : ClassifiedProperty) : Option Parameter :=
  match c.source with
  | .plain => some ⟨c.property.name, c.property.type, none⟩
  | .default value => some ⟨c.property.name, c.property.type, some value⟩
  | .derived _ => none

def derived? (c : ClassifiedProperty) : Option DerivedProperty :=
  match c.source with
  | .derived text => some ⟨c.property.name, c.property.type, text⟩
  | _ => none

def initializer (c : ClassifiedProperty) : Initializer :=
  match c.source with
  | .derived text => .expression (.verbatim text)
  | _ => .parameter

/-- The property that overrides the interface's one, and those that are created from it. -/
def propertiesOf (c : ClassifiedProperty) : List Property :=
  { name := c.property.name
    type := c.property.type
    isOverride := true
    initializer := initializer c
    annotations := c.copied } :: c.created

/-- A constructor that takes every parameter from an instance of the interface. -/
def conversion (source : TypeName) (parameters : List Parameter) : Conversion :=
  let instanceName := Naming.decapitalize source.simpleName
  { parameters := [⟨instanceName, source, none⟩]
    arguments := parameters.map fun p => ⟨p.name, .member instanceName p.name⟩ }

def ofClassified (s : Settings) (d : Descriptor) (classified : List ClassifiedProperty) :
    Synthesis :=
  let parameters := classified.filterMap parameter?
  { model := {
      name := d.className
      isData := s.dataClasses && !parameters.isEmpty
      supertypes := [⟨d.sourceInterface, none⟩]
      constructor := parameters
      properties := classified.flatMap propertiesOf
      conversions := [conversion d.sourceInterface parameters] }
    derived := classified.filterMap derived? }

def synthesize (g : DeclarationGraph) (s : Settings) (d : Descriptor) : Attempt Synthesis := do
  let classified ← Outcome.forEach (classify g s) d.properties
  return ofClassified s d classified

end Synthesis

end ModelClasses
