import ModelClasses.ClassModel
import ModelClasses.Literal

/-! # Text of source files

How generated classes are written. A type is written by its simple name where that name means it:
in its own package, and for the types of the default imports unless the package declares a type of
the same name. -/

namespace ModelClasses

/-- The names that a file's own package gives to types, and the package. -/
structure NameScope where
  package : String
  declared : List String

namespace NameScope

/-- The shortest name of a type that means the type. -/
def shortName (scope : NameScope) (qualified : String) : String :=
  let owner := Naming.packageOf qualified
  let simple := Naming.simpleName qualified
  if owner.isEmpty then qualified
  else if owner = scope.package ∨
      (defaultImports.contains owner ∧ ¬ scope.declared.contains simple) then simple
  else qualified

def typeText (scope : NameScope) (t : TypeName) : List Char :=
  t.render fun qualified => (scope.shortName qualified).toList

end NameScope

mutual
def Expression.render : Expression → List Char
  | .literal v => Literal.render v
  | .name n => n.toList
  | .member receiver name => receiver.toList ++ '.' :: name.toList
  | .call receiver function arguments =>
    receiver.toList ++ '.' :: function.toList ++ '(' ::
      TypeName.commaSeparated (renderExpressions arguments) ++ [')']
  | .verbatim s => s.toList

def renderExpressions : List Expression → List (List Char)
  | [] => []
  | e :: rest => e.render :: renderExpressions rest
end

namespace SourceText

/-- A line at a depth of indentation. -/
def line (indent : List Char) (depth : Nat) (text : List Char) : List Char :=
  (List.replicate depth indent).flatten ++ text ++ ['\n']

def argumentText (a : NamedArgument) : List Char :=
  a.name.toList ++ " = ".toList ++ a.value.render

def annotationText (scope : NameScope) (a : AnnotationCopy) : List Char :=
  '@' :: (scope.shortName a.qualifiedName).toList ++
    if a.members.isEmpty then []
    else '(' :: TypeName.commaSeparated (a.members.map argumentText) ++ [')']

/-- Each annotation has a line of its own. -/
def annotationLines (scope : NameScope) (indent : List Char) (depth : Nat)
    (annotations : List AnnotationCopy) : List Char :=
  annotations.flatMap fun a => line indent depth (annotationText scope a)

def modifiers (p : Property) : List Char :=
  if p.isOverride then "override val ".toList else "val ".toList

/-- A name and its type. -/
def typed (scope : NameScope) (name : String) (t : TypeName) : List Char :=
  name.toList ++ ": ".toList ++ scope.typeText t

def defaultText (default : Option Expression) : List Char :=
  match default with
  | some e => " = ".toList ++ e.render
  | none => []

/-- A constructor parameter, which is at the same time the property of its name. -/
def constructorParameter (scope : NameScope) (indent : List Char) (parameter : Parameter)
    (property : Option Property) : List Char :=
  (match property with
    | some p => annotationLines scope indent 1 p.annotations
    | none => []) ++
  line indent 1
    ((match property with
      | some p => modifiers p
      | none => []) ++
      typed scope parameter.name parameter.type ++ defaultText parameter.default ++ [','])

def initializerText (p : Property) : List Char :=
  match p.initializer with
  | .expression e => e.render
  | .parameter => p.name.toList

def bodyProperty (scope : NameScope) (indent : List Char) (p : Property) : List Char :=
  annotationLines scope indent 1 p.annotations ++
    line indent 1 (modifiers p ++ typed scope p.name p.type ++ " = ".toList ++ initializerText p)

def conversion (scope : NameScope) (indent : List Char) (c : Conversion) : List Char :=
  let parameters := c.parameters.map fun p => typed scope p.name p.type
  let header := "constructor(".toList ++ TypeName.commaSeparated parameters ++ ") : this(".toList
  if c.arguments.isEmpty then line indent 1 (header ++ [')'])
  else
    line indent 1 header ++
      c.arguments.flatMap (fun a => line indent 2 (argumentText a ++ [','])) ++
      line indent 1 [')']

def supertypeText (scope : NameScope) (s : Supertype) : List Char :=
  scope.typeText s.type ++
    match s.delegate with
    | some name => " by ".toList ++ name.toList
    | none => []

/-- Whether a property stands in the constructor, and not in the body. -/
def inConstructor (m : ClassModel) (p : Property) : Bool :=
  p.initializer.isParameter && (m.parameter? p.name).isSome

def parameterLines (scope : NameScope) (indent : List Char) (m : ClassModel) : List Char :=
  m.constructor.flatMap fun parameter =>
    constructorParameter scope indent parameter
      ((m.properties.filter (inConstructor m)).find? (·.name == parameter.name))

/-- The members of the body, each of which is followed by an empty line unless it is the last. -/
def members (scope : NameScope) (indent : List Char) (m : ClassModel) : List (List Char) :=
  (m.properties.filter (!inConstructor m ·)).map (bodyProperty scope indent) ++
    m.conversions.map (conversion scope indent)

def classText (scope : NameScope) (indent : List Char) (m : ClassModel) : List Char :=
  let header := (if m.isData then "data class ".toList else "class ".toList) ++ m.name.toList ++ ['(']
  (if m.constructor.isEmpty then header
    else line indent 0 header ++ parameterLines scope indent m) ++ [')'] ++
  (if m.supertypes.isEmpty then []
    else " : ".toList ++ TypeName.commaSeparated (m.supertypes.map (supertypeText scope))) ++
  match members scope indent m with
  | [] => ['\n']
  | body => " \x7b\n".toList ++ ['\n'].intercalate body ++ line indent 0 ['\x7d']

/-- The scope of the names of a file. -/
def scopeOf (file : SourceFile) : NameScope :=
  ⟨file.package, file.packageNames ++ file.classes.map (·.name)⟩

/-- The package line and the classes, with an empty line between them. -/
def blocks (indent : List Char) (file : SourceFile) : List (List Char) :=
  (if file.package.isEmpty then [] else [line indent 0 ("package ".toList ++ file.package.toList)]) ++
    file.classes.map (classText (scopeOf file) indent)

end SourceText

def SourceFile.render (file : SourceFile) (indent : String) : String :=
  String.ofList (['\n'].intercalate (SourceText.blocks indent.toList file))

end ModelClasses
