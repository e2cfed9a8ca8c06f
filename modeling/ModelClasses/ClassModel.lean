import ModelClasses.Annotations

/-! # Generated classes

The parts of a source file of generated classes. -/

namespace ModelClasses

inductive Expression
  | literal (value : AnnotationValue)
  | name (name : String)
  | member (receiver name : String)
  | call (receiver function : String) (arguments : List Expression)
  /-- Text that is written as it is. -/
  | verbatim (text : String)
deriving Inhabited

structure NamedArgument where
  name : String
  value : Expression

/-- An annotation of a generated property. -/
structure AnnotationCopy where
  qualifiedName : String
  members : List NamedArgument := []

structure Parameter where
  name : String
  type : TypeName
  default : Option Expression := none

inductive Initializer
  /-- The property is the constructor parameter of its name. -/
  | parameter
  | expression (value : Expression)

def Initializer.isParameter : Initializer → Bool
  | parameter => true
  | expression _ => false

structure Property where
  name : String
  type : TypeName
  isOverride : Bool
  initializer : Initializer
  annotations : List AnnotationCopy := []

/-- A secondary constructor, which calls the primary one with named arguments. -/
structure Conversion where
  parameters : List Parameter
  arguments : List NamedArgument

structure Supertype where
  type : TypeName
  /-- The constructor parameter that implements the supertype, if one does. -/
  delegate : Option String := none

structure ClassModel where
  name : String
  isData : Bool := false
  supertypes : List Supertype := []
  constructor : List Parameter := []
  properties : List Property := []
  conversions : List Conversion := []

def ClassModel.parameter? (m : ClassModel) (name : String) : Option Parameter :=
  m.constructor.find? (·.name == name)

structure SourceFile where
  package : String := ""
  name : String
  classes : List ClassModel := []
  /-- The files that the classes depend on. -/
  originatingFiles : List String := []
  /-- The top-level names that the package declares. -/
  packageNames : List String := []

end ModelClasses
