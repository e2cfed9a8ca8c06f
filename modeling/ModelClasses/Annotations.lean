import ModelClasses.Decimal.Layout
import ModelClasses.Tag
import ModelClasses.TypeResolution

/-! # Annotations

Annotations whose names and references are resolved. -/

namespace ModelClasses

open Decimal

inductive ReferenceKind
  | enumConstant
  | singleton
  | class_
deriving DecidableEq

/-- What a reference to a declaration of a kind refers to. -/
def ReferenceKind.ofDeclaration : DeclarationKind → ReferenceKind
  | .enumEntry => enumConstant
  | .object => singleton
  | _ => class_

structure Reference where
  qualifiedName : String
  kind : ReferenceKind
deriving DecidableEq

inductive AnnotationValue
  | bool (value : Bool)
  | integer (value : Int64)
  | float (value : Binary .single)
  | double (value : Binary .double)
  | string (value : String)
  | char (value : Char)
  | reference (target : Reference)
  | array (items : List AnnotationValue)
  /-- The text of a value that has no literal. -/
  | unsupported (text : String)
deriving Inhabited

namespace AnnotationValue

mutual
/-- Whether a value can be written as a literal: a character must be a single UTF-16 unit. -/
def isRenderable : AnnotationValue → Bool
  | unsupported _ => false
  | char c => c.toNat ≤ 0xFFFF
  | array items => areRenderable items
  | _ => true

def areRenderable : List AnnotationValue → Bool
  | [] => true
  | v :: rest => isRenderable v && areRenderable rest
end

mutual
/-- The text of a value in messages. -/
def text : AnnotationValue → String
  | bool b => if b then "true" else "false"
  | integer i => String.ofList (Layout.intText i.toInt)
  | float x => x.text
  | double x => x.text
  | string s => Text.quoted s
  | char c => Text.quotedChar c
  | reference r => r.qualifiedName
  | array items => "[" ++ ", ".intercalate (texts items) ++ "]"
  | unsupported s => s

def texts : List AnnotationValue → List String
  | [] => []
  | v :: rest => text v :: texts rest
end

end AnnotationValue

structure AnnotationArgument where
  name : String
  value : AnnotationValue

structure AnnotationRecord where
  qualifiedName : String
  arguments : List AnnotationArgument := []

namespace AnnotationRecord

/-- The first argument of a name counts. -/
def argument? (a : AnnotationRecord) (name : String) : Option AnnotationValue :=
  (a.arguments.find? (·.name == name)).map (·.value)

def simpleName (a : AnnotationRecord) : String := Naming.simpleName a.qualifiedName

/-- The failure of an argument whose value is of no use. -/
def unsupported (a : AnnotationRecord) (argument : String) (value : AnnotationValue)
    (property : Option String) : GenerationError :=
  .unsupportedValue a.qualifiedName argument value.text property

end AnnotationRecord

namespace DeclarationGraph

/-- What a qualified name refers to; a name without a declaration is a built-in class. -/
def referenceTo (g : DeclarationGraph) (qualified : String) : Reference :=
  ⟨qualified, ((g.get? qualified).map fun d => ReferenceKind.ofDeclaration d.kind).getD .class_⟩

mutual
/-- A value whose references are resolved. -/
def resolveValue (g : DeclarationGraph) (package context : String) :
    ArgumentValue → Except GenerationError AnnotationValue
  | .bool b => .ok (.bool b)
  | .integer i => .ok (.integer i)
  | .float x => .ok (.float x)
  | .double x => .ok (.double x)
  | .string s => .ok (.string s)
  | .char c => .ok (.char c)
  | .reference name =>
    match g.resolveName? package name with
    | none => .error (.unresolvedType name context none)
    | some qualified => .ok (.reference (g.referenceTo qualified))
  | .array items => (resolveValues g package context items).map .array
  | .expression s => .ok (.unsupported s)

def resolveValues (g : DeclarationGraph) (package context : String) :
    List ArgumentValue → Except GenerationError (List AnnotationValue)
  | [] => .ok []
  | v :: rest =>
    match resolveValue g package context v with
    | .error e => .error e
    | .ok v => (resolveValues g package context rest).map (v :: ·)
end

/-- The qualified name of an annotation: that of a declaration or built-in type, else that of a
tag, else the name as it is written. -/
def annotationName (g : DeclarationGraph) (s : Settings) (package name : String) : String :=
  ((g.resolveName? package name).or (s.tagName? name)).getD name

def resolveArgument (g : DeclarationGraph) (package annotationName : String) (a : Argument) :
    Except GenerationError AnnotationArgument :=
  (g.resolveValue package ("argument " ++ a.name ++ " of @" ++ annotationName) a.value).map
    fun v => ⟨a.name, v⟩

def resolveUsage (g : DeclarationGraph) (s : Settings) (package : String)
    (usage : AnnotationUsage) : Except GenerationError AnnotationRecord :=
  let name := g.annotationName s package usage.name
  (usage.arguments.mapM (g.resolveArgument package name)).map fun arguments => ⟨name, arguments⟩

def resolveAnnotations (g : DeclarationGraph) (s : Settings) (package : String)
    (usages : List AnnotationUsage) : Except GenerationError (List AnnotationRecord) :=
  usages.mapM (g.resolveUsage s package)

end DeclarationGraph

end ModelClasses
