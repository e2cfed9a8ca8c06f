import ModelClasses.Settings

/-! # Tags

The annotations that steer generation. Their names are qualified by the annotations' package, which
the settings name. -/

namespace ModelClasses

/-- The types that have literals. -/
inductive LiteralKind
  | boolean
  | byte
  | char
  | double
  | float
  | int
  | long
  | short
  | string
deriving DecidableEq

inductive Tag
  /-- A class is generated from the interface. -/
  | generate
  /-- The constructor parameter has a literal for its default. -/
  | literalDefault (kind : LiteralKind)
  /-- The constructor parameter's default is provided by an object. -/
  | providerDefault
  /-- The property is computed from an expression. -/
  | derived
  /-- A further property is computed from this one by an object. -/
  | create
deriving DecidableEq

namespace Tag

/-- The simple name of the annotation that asks for a class. -/
def generateName : String := "Generate"

/-- The simple name of the interface of objects that provide default values. -/
def providerName : String := "ValueProvider"

/-- The simple name of the interface of objects that compute further properties. -/
def modifierName : String := "ValueModifier"

def vocabulary : List (String × Tag) := [
  (generateName, generate),
  ("BooleanDefault", literalDefault .boolean),
  ("ByteDefault", literalDefault .byte),
  ("CharDefault", literalDefault .char),
  ("DoubleDefault", literalDefault .double),
  ("FloatDefault", literalDefault .float),
  ("IntDefault", literalDefault .int),
  ("LongDefault", literalDefault .long),
  ("ShortDefault", literalDefault .short),
  ("StringDefault", literalDefault .string),
  ("Default", providerDefault),
  ("Derived", derived),
  ("Create", create)]

def isDefaultValue : Tag → Bool
  | literalDefault _ => true
  | providerDefault => true
  | _ => false

/-- The argument of an annotation that has a single one. -/
def soleArgument : String := "value"

def nameArgument : String := "name"
def prefixArgument : String := "prefix"
def suffixArgument : String := "suffix"
def delegatedClassArgument : String := "delegatedClass"
def newPropertyArgument : String := "newProp"

/-- The argument that carries the tag's main value. -/
def valueArgument : Tag → String
  | generate => nameArgument
  | literalDefault _ => soleArgument
  | providerDefault => "provider"
  | derived => "from"
  | create => "valueModifier"

end Tag

namespace Settings

/-- The tag with a qualified name. -/
def tag? (s : Settings) (qualified : String) : Option Tag :=
  (Tag.vocabulary.find? fun entry => s.qualify entry.1 == qualified).map (·.2)

/-- The qualified name of the tag with a simple name. -/
def tagName? (s : Settings) (simpleName : String) : Option String :=
  if Tag.vocabulary.any (·.1 == simpleName) then some (s.qualify simpleName) else none

def generateTag (s : Settings) : String := s.qualify Tag.generateName

def valueProvider (s : Settings) : String := s.qualify Tag.providerName

def valueModifier (s : Settings) : String := s.qualify Tag.modifierName

end Settings

end ModelClasses
