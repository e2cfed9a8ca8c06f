import ModelClasses.DeclarationGraph
import ModelClasses.Outcome
import ModelClasses.TraitSource.AttributeUsages
import ModelClasses.TraitSource.Reader

/-! # Declarations from items

An interface is read from a trait, and its properties from the functions that only read the value.
A structure without fields is a single object, any other a class, and an enumeration comes with its
entries. A trait that a type implements is added to the type's supertypes afterwards, wherever the
implementation stands. -/

namespace ModelClasses.TraitSource

/-- What declarations have in common: where they were read from, and their package. -/
structure Origin where
  sourceFile : Option String := none
  package : String := ""

def Origin.inside (o : Origin) (module : Identifier) : Origin :=
  { o with package := Naming.qualify o.package module.name }

def Origin.declaration (o : Origin) (name : String) (kind : DeclarationKind) : Declaration :=
  { package := o.package, name, kind, sourceFile := o.sourceFile }

/-- A type of a package that has a further supertype. -/
structure Implementation where
  target : String
  package : String
  supertype : TypeUsage

/-- What is read from an item. -/
structure ItemContent where
  declarations : List Declaration := []
  implementations : List Implementation := []

def ItemContent.append (a b : ItemContent) : ItemContent :=
  ⟨a.declarations ++ b.declarations, a.implementations ++ b.implementations⟩

abbrev Reading := Outcome SourceError

namespace Reading

/-- A step in a part of the source text. -/
def at_ {α : Type} (place : SourcePlace) (r : Except SourceProblem α) : Reading α :=
  .ofExcept (r.mapError (.problem place))

end Reading

/-- The type of the property that a function reads, if it takes nothing but the value and is only
declared. -/
def Method.propertyType? (m : Method) : Option SourceType :=
  if m.takesOnlyReceiver && !m.isGeneric && !m.hasBody then m.result else none

def Method.propertyName (m : Method) : String := Naming.toCamelCase m.name.name

namespace SourceItem

/-- The property that a function of an interface stands for; another function is passed over. -/
def property? (interface : String) (m : Method) : Reading (Option PropertyDeclaration) :=
  match m.propertyType? with
  | some t =>
    Reading.at_ (.property interface m.propertyName) do
      let type ← t.usage
      return some ⟨m.propertyName, type, ← Attribute.usages m.attributes⟩
  | none => do
    Outcome.warn (.skippedFunction interface m.name.text)
    return none

def interfaceDeclaration (o : Origin) (attributes : List Attribute) (name : String)
    (supertypes : List SourceType) (methods : List Method) : Reading Declaration := do
  let supertypes ← Reading.at_ (.supertype name) (SourceType.usages supertypes)
  let annotations ← Reading.at_ (.interface name) (Attribute.usages attributes)
  let properties ← Outcome.forEach (property? name) methods
  return { o.declaration name .interface with
    supertypes, annotations, properties := properties.filterMap id }

def fieldProperty (struct : String) (field : Identifier × SourceType) :
    Reading PropertyDeclaration :=
  let name := Naming.toCamelCase field.1.name
  Reading.at_ (.field struct name) do return { name, type := ← field.2.usage }

def fieldProperties (struct : String) : StructFields → Reading (List PropertyDeclaration)
  | .named fields => Outcome.forEach (fieldProperty struct) fields
  | _ => pure []

def structKind : StructFields → DeclarationKind
  | .unit => .object
  | _ => .class_

def structDeclaration (o : Origin) (attributes : List Attribute) (name : String)
    (fields : StructFields) : Reading Declaration := do
  let annotations ← Reading.at_ (.struct name) (Attribute.usages attributes)
  let properties ← fieldProperties name fields
  return { o.declaration name (structKind fields) with annotations, properties }

def enumDeclarations (o : Origin) (attributes : List Attribute) (name : String)
    (variants : List Identifier) : Reading (List Declaration) := do
  let annotations ← Reading.at_ (.enum name) (Attribute.usages attributes)
  let entries := variants.map fun v => o.declaration (name ++ "." ++ v.name) .enumEntry
  return { o.declaration name .enum with annotations } :: entries

/-- An implementation counts only for a type that is written as a path. -/
def implementationOf (o : Origin) (interface : SourceType) (target : Option Identifier) :
    Reading (List Implementation) :=
  match target with
  | none => pure []
  | some i => do
    let supertype ← Reading.at_ (.implementation i.name) interface.usage
    return [⟨i.name, o.package, supertype⟩]

mutual
def content (o : Origin) : SourceItem → Reading ItemContent
  | interface attributes name supertypes methods => do
    return ⟨[← interfaceDeclaration o attributes name.name supertypes methods], []⟩
  | struct attributes name fields => do
    return ⟨[← structDeclaration o attributes name.name fields], []⟩
  | enum attributes name variants => do
    return ⟨← enumDeclarations o attributes name.name variants, []⟩
  | implementation i target => do
    return ⟨[], ← implementationOf o i target⟩
  | module name items => contents (o.inside name) items

def contents (o : Origin) : List SourceItem → Reading ItemContent
  | [] => pure {}
  | item :: rest => do
    let first ← content o item
    return first.append (← contents o rest)
end

end SourceItem

namespace Implementation

/-- The interfaces whose implementations count wherever the interfaces are declared. -/
def knownInterfaces : List String := [Tag.providerName, Tag.modifierName]

/-- Whether an interface is declared under a name, in a package or as it is written. -/
def declaresInterface (ds : List Declaration) (package name : String) : Bool :=
  ds.any fun d => d.kind = .interface &&
    (d.qualifiedName == Naming.qualify package name || d.qualifiedName == name)

def counts (ds : List Declaration) (i : Implementation) : Bool :=
  knownInterfaces.contains (Naming.simpleName i.supertype.name) ||
    declaresInterface ds i.package i.supertype.name

def qualifiedTarget (i : Implementation) : String := Naming.qualify i.package i.target

def addSupertype (t : TypeUsage) (d : Declaration) : Declaration :=
  { d with supertypes := d.supertypes ++ [t] }

/-- The first declaration of a qualified name, changed. -/
def modifyFirst (qualified : String) (f : Declaration → Declaration) :
    List Declaration → List Declaration
  | [] => []
  | d :: rest =>
    if d.qualifiedName == qualified then f d :: rest else d :: modifyFirst qualified f rest

/-- Adds the supertype of an implementation that counts to the first declaration of its target. -/
def applyTo (ds : List Declaration) (i : Implementation) : Reading (List Declaration) :=
  if !i.counts ds then pure ds
  else if ds.any (·.qualifiedName == i.qualifiedTarget) then
    pure (modifyFirst i.qualifiedTarget (addSupertype i.supertype) ds)
  else do
    Outcome.warn (.undeclaredTarget i.supertype.name i.qualifiedTarget)
    return ds

end Implementation

/-- The declarations of items, with the supertypes that implementations add. -/
def declarationsOf (o : Origin) (items : List SourceItem) : Reading DeclarationGraph := do
  let c ← SourceItem.contents o items
  let ds ← c.implementations.foldlM Implementation.applyTo c.declarations
  return .ofList ds

/-- The declarations of the items that tokens stand for. -/
def declarationsOfTokens (o : Origin) (ts : Tokens) : Reading DeclarationGraph :=
  match SourceItem.ofTokens? ts with
  | none => Outcome.fail .items
  | some items => declarationsOf o items

end ModelClasses.TraitSource
