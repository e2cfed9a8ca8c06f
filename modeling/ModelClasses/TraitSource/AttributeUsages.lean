import ModelClasses.Decimal.Reader
import ModelClasses.Decimal.Word
import ModelClasses.Tag
import ModelClasses.TraitSource.TypeUsages

/-! # Annotations of declarations from attributes

Attributes whose names start with a capital letter are annotations. One other attribute is the
directive that asks for a class, and the rest have no meaning here. -/

namespace ModelClasses.TraitSource

open Decimal

/-- The number that has a form in 64 bits. -/
def integerValue (n : Int) : Except SourceProblem ArgumentValue :=
  match Word.long? n with
  | some i => .ok (.integer i)
  | none => .error (.integer n)

/-- The value of a literal, with a minus sign before it or without. Only numbers have a sign. -/
def SourceLiteral.argumentValue (l : SourceLiteral) (isNegative : Bool) :
    Except SourceProblem ArgumentValue :=
  let refused := .error (.literal isNegative l.text)
  let sign := if isNegative then ['-'] else []
  match l.value with
  | .string s => if isNegative then refused else .ok (.string s)
  | .char c => if isNegative then refused else .ok (.char c)
  | .bool b => if isNegative then refused else .ok (.bool b)
  | .integer n => integerValue (if isNegative then -n else n)
  | .decimal true digits =>
    match Binary.read? .single (sign ++ digits) with
    | some x => .ok (.float x)
    | none => refused
  | .decimal false digits =>
    match Binary.read? .double (sign ++ digits) with
    | some x => .ok (.double x)
    | none => refused
  | .other => refused

namespace SourceExpression

mutual
def argumentValue : SourceExpression → Except SourceProblem ArgumentValue
  | literal l => l.argumentValue false
  | negated l => l.argumentValue true
  | path segments => .ok (.reference (pathName segments))
  | array items => do return .array (← argumentValues items)
  | parenthesized inner => argumentValue inner
  | other tokens => .ok (.expression tokens.text)

def argumentValues : List SourceExpression → Except SourceProblem (List ArgumentValue)
  | [] => .ok []
  | e :: rest => do
    let v ← argumentValue e
    return v :: (← argumentValues rest)
end

/-- The text that an expression is. -/
def text? : SourceExpression → Option String
  | literal l =>
    match l.value with
    | .string s => some s
    | _ => none
  | _ => none

/-- The truth value that an expression is; its word may be quoted. -/
def flag? : SourceExpression → Option Bool
  | literal l =>
    match l.value with
    | .bool b => some b
    | .string "true" => some true
    | .string "false" => some false
    | _ => none
  | _ => none

end SourceExpression

/-- What the entries of a directive have said. -/
structure DirectiveArguments where
  name : Option String := none
  namePrefix : Option String := none
  nameSuffix : Option String := none
  delegatedClass : Option Bool := none

namespace DirectiveArguments

def nameKey : String := "name"
def prefixKey : String := "prefix"
def suffixKey : String := "suffix"
def delegatedKey : String := "delegated_class"

/-- A value for what has not been said yet. -/
def once {α : Type} (old new : Option α) : Option α :=
  match old with
  | some _ => none
  | none => new

/-- What has been said after one more entry. An entry that repeats another or is about something
else is not well formed. -/
def add? (d : DirectiveArguments) : DirectiveEntry → Option DirectiveArguments
  | .word key =>
    if key = delegatedKey then
      (once d.delegatedClass (some true)).map fun b => { d with delegatedClass := some b }
    else none
  | .value key e =>
    if key = nameKey then (once d.name e.text?).map fun s => { d with name := some s }
    else if key = prefixKey then
      (once d.namePrefix e.text?).map fun s => { d with namePrefix := some s }
    else if key = suffixKey then
      (once d.nameSuffix e.text?).map fun s => { d with nameSuffix := some s }
    else if key = delegatedKey then
      (once d.delegatedClass e.flag?).map fun b => { d with delegatedClass := some b }
    else none
  | .other => none

def ofEntries? (entries : List DirectiveEntry) : Option DirectiveArguments :=
  entries.foldlM add? {}

def textArgument (name : String) (value : Option String) : List Argument :=
  (value.map fun s => ⟨name, .string s⟩).toList

/-- The annotation that a directive stands for. It needs a name. -/
def usage? (d : DirectiveArguments) : Option AnnotationUsage :=
  d.name.map fun name => {
    name := Tag.generateName
    arguments :=
      textArgument Tag.nameArgument (some name) ++ textArgument Tag.prefixArgument d.namePrefix ++
        textArgument Tag.suffixArgument d.nameSuffix ++
        if d.delegatedClass = some true then [⟨Tag.delegatedClassArgument, .bool true⟩] else [] }

end DirectiveArguments

namespace Attribute

def soleArgument (e : SourceExpression) : Except SourceProblem Argument := do
  return ⟨Tag.soleArgument, ← e.argumentValue⟩

/-- An argument with a name of its own, which is a single identifier. -/
def argumentOf (name : ArgumentName) (e : SourceExpression) : Except SourceProblem Argument :=
  match name with
  | .identifier i => do return ⟨Naming.toCamelCase i.name, ← e.argumentValue⟩
  | .path tokens => .error (.argumentName tokens)

def arguments : AttributeBody → Except SourceProblem (List Argument)
  | .empty => .ok []
  | .value e => do return [← soleArgument e]
  | .named entries => entries.mapM fun (name, e) => argumentOf name e
  | .single e => do return [← soleArgument e]
  | .malformed tokens => .error (.arguments tokens)
  | .directive _ => .error .directive

def directiveUsage (body : AttributeBody) : Except SourceProblem AnnotationUsage :=
  match body with
  | .directive (some entries) =>
    match (DirectiveArguments.ofEntries? entries).bind DirectiveArguments.usage? with
    | some u => .ok u
    | none => .error .directive
  | _ => .error .directive

/-- The name of an attribute that is an annotation starts with a capital letter. -/
def isAnnotation (a : Attribute) : Bool :=
  match a.path.getLast? with
  | some i => i.text.toList.head?.any Char.isUpper
  | none => false

/-- The annotation that an attribute stands for, if it stands for one. -/
def usage? (a : Attribute) : Except SourceProblem (Option AnnotationUsage) := do
  if isDirective a.isGlobal a.path then return some (← directiveUsage a.body)
  if a.isAnnotation then return some ⟨pathName a.path, ← arguments a.body⟩
  return none

def usages (attributes : List Attribute) : Except SourceProblem (List AnnotationUsage) := do
  return (← attributes.mapM usage?).filterMap id

end Attribute

end ModelClasses.TraitSource
