import ModelClasses.TraitSource.Grammar

/-! # Attributes of trait source

An attribute is a path with nothing behind it, with a value, or with a group. What a group means is
tried in turn: a list of arguments with names, and a single expression. -/

namespace ModelClasses.TraitSource

open TraitSource.Parser

namespace Attribute

def pathWords : List String := ["super", "self", "Self", "crate"]

/-- A name in a path without arguments. -/
def moduleSegment : Parser Identifier := orElse identifier (oneWord pathWords)

/-- Names with separators between them, and whether a separator stands in front. -/
def pathOf (segment : Parser Identifier) : Parser (Bool × List Identifier) := do
  let isGlobal ← takes (operator "::")
  let first ← segment
  let more ← many do
    operator "::"
    segment
  return (isGlobal, first :: more)

def modulePath : Parser (Bool × List Identifier) := pathOf moduleSegment

def anyPath : Parser (Bool × List Identifier) := do
  if ← follows (word "unsafe") then return (false, [← anyIdentifier])
  modulePath

/-- Whether a value follows: an equals sign that is no part of a comparison or an arrow. -/
def valueFollows : Parser Bool := do
  return (← follows (operator "=")) && !(← follows (oneOperator ["==", "=>"]))

/-- A value behind an equals sign, which has no attribute of its own. -/
def value (g : Grammar) : Parser SourceExpression := do
  operator "="
  require (!((← follows (operator "#")) && (← followsAt 1 bracket)))
  g.expression true

def namedArgument (g : Grammar) : Parser (ArgumentName × SourceExpression) := do
  let ((isGlobal, segments), tokens) ← captured anyPath
  let e ← value g
  match isGlobal, segments with
  | false, [i] => return (.identifier i, e)
  | _, _ => return (.path tokens, e)

/-- The entry of a directive whose path was read: the path names what the entry is about, and a
separator in front of it does not count. -/
def entryBehind (g : Grammar) (key : String) : Parser DirectiveEntry := do
  if ← takes anyGroup then return .other
  if ← valueFollows then return .value key (← value g)
  return .word key

def directiveEntry (g : Grammar) : Parser DirectiveEntry := do
  let truth ← follows (oneWord ["true", "false"])
  if (← follows signedLiteral) && !(truth && (← followsAt 1 (operator "="))) then
    let _ ← signedLiteral
    return .other
  let (_, segments) ← pathOf anyIdentifier
  entryBehind g ("::".intercalate (segments.map (·.text)))

/-- What a group behind the path of an attribute means. -/
def bodyOfGroup (g : Grammar) (isDirective : Bool) (tokens : Tokens) : AttributeBody :=
  if isDirective then .directive ((commaList (directiveEntry g)).run? tokens)
  else
    match (commaList (namedArgument g)).run? tokens with
    | some arguments => .named arguments
    | none =>
      match (g.expression true).run? tokens with
      | some e => .single e
      | none => .malformed tokens

def content (g : Grammar) : Parser Attribute := do
  let (isGlobal, segments) ← anyPath
  if let some (_, tokens) ← attempt anyGroup then
    return ⟨segments, isGlobal, bodyOfGroup g (isDirective isGlobal segments) tokens⟩
  if ← valueFollows then return ⟨segments, isGlobal, .value (← value g)⟩
  return ⟨segments, isGlobal, .empty⟩

/-- An attribute in front of what it belongs to. -/
def outer (g : Grammar) : Parser Attribute := do
  operator "#"
  group .bracket (content g)

/-- An attribute at the start of what it belongs to. -/
def inner (g : Grammar) : Parser Attribute := do
  operator "#"
  operator "!"
  group .bracket (content g)

def outers (g : Grammar) : Parser (List Attribute) := many (outer g)

def inners (g : Grammar) : Parser (List Attribute) := many (inner g)

end Attribute

end ModelClasses.TraitSource
