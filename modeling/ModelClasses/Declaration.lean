import ModelClasses.Decimal.Binary
import ModelClasses.Naming

/-! # Declarations

What is known of the interfaces, classes, objects and enums that classes are generated from. Names
of types are as they were written, and not yet resolved. -/

namespace ModelClasses

open Decimal

inductive DeclarationKind
  | interface
  | class_
  | object
  | enum
  | enumEntry
  | annotationClass
deriving DecidableEq

def DeclarationKind.text : DeclarationKind → String
  | interface => "interface"
  | class_ => "class"
  | object => "object"
  | enum => "enum class"
  | enumEntry => "enum entry"
  | annotationClass => "annotation class"

/-- A type as it is written: a name, type arguments and a mark for nullable types. -/
structure TypeUsage where
  name : String
  arguments : List TypeUsage := []
  nullable : Bool := false
deriving Inhabited

/-- The value of an annotation's argument as it is written. -/
inductive ArgumentValue
  | bool (value : Bool)
  | integer (value : Int64)
  | float (value : Binary .single)
  | double (value : Binary .double)
  | string (value : String)
  | char (value : Char)
  /-- The name of a declaration. -/
  | reference (name : String)
  | array (items : List ArgumentValue)
  /-- The text of an expression, which is not evaluated. -/
  | expression (text : String)
deriving Inhabited

structure Argument where
  name : String
  value : ArgumentValue

structure AnnotationUsage where
  name : String
  arguments : List Argument := []

/-- The first argument of a name counts. -/
def AnnotationUsage.argument? (a : AnnotationUsage) (name : String) : Option ArgumentValue :=
  (a.arguments.find? (·.name == name)).map (·.value)

structure PropertyDeclaration where
  name : String
  type : TypeUsage
  annotations : List AnnotationUsage := []

structure Declaration where
  package : String := ""
  name : String
  kind : DeclarationKind
  sourceFile : Option String := none
  supertypes : List TypeUsage := []
  properties : List PropertyDeclaration := []
  annotations : List AnnotationUsage := []

namespace Declaration

def qualifiedName (d : Declaration) : String := Naming.qualify d.package d.name

/-- The last segment of the name: a nested declaration's name has several. -/
def simpleName (d : Declaration) : String := Naming.simpleName d.name

end Declaration

end ModelClasses
