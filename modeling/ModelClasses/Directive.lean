import ModelClasses.Annotations

/-! # Directives

What the annotation that asks for a class says about the class: the parts of its name, and whether
a delegated class is wanted as well. -/

namespace ModelClasses

structure Directive where
  name : String := ""
  namePrefix : String := ""
  nameSuffix : String := ""
  delegatedClass : Bool := false
deriving DecidableEq

namespace Directive

def className (d : Directive) : String := d.namePrefix ++ d.name ++ d.nameSuffix

/-- A text argument; it is empty when it is left out. -/
def textArgument (a : AnnotationRecord) (argument : String) : Except GenerationError String :=
  match a.argument? argument with
  | none => .ok ""
  | some (.string s) => .ok s
  | some v => .error (a.unsupported argument v none)

/-- A truth value argument; it is false when it is left out. -/
def flagArgument (a : AnnotationRecord) (argument : String) : Except GenerationError Bool :=
  match a.argument? argument with
  | none => .ok false
  | some (.bool b) => .ok b
  | some v => .error (a.unsupported argument v none)

def ofRecord (a : AnnotationRecord) : Except GenerationError Directive := do
  let delegatedClass ← flagArgument a Tag.delegatedClassArgument
  let name ← textArgument a Tag.nameArgument
  let namePrefix ← textArgument a Tag.prefixArgument
  let nameSuffix ← textArgument a Tag.suffixArgument
  return { name, namePrefix, nameSuffix, delegatedClass }

/-- The first annotation that asks for a class counts; without one the directive is empty. -/
def ofRecords (s : Settings) (annotations : List AnnotationRecord) :
    Except GenerationError Directive :=
  match annotations.find? fun a => s.tag? a.qualifiedName = some .generate with
  | some a => ofRecord a
  | none => .ok {}

end Directive

end ModelClasses
