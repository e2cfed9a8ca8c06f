import ModelClasses.TraitSource.Literal
import ModelClasses.TraitSource.Token

/-! # Items of trait source

The parts of source text that declarations are read from. What has no meaning for a declaration is
left out, or kept only as its tokens. -/

namespace ModelClasses.TraitSource

/-- A type as it is written. -/
inductive SourceType
  /-- A path: the segments before the last one, the last one, and those of its generic arguments
  that are types. -/
  | named (qualifier : List Identifier) (name : Identifier) (arguments : List SourceType)
  /-- A path whose last segment has parameters in parentheses. -/
  | function (name : Identifier)
  | reference (target : SourceType)
  | parenthesized (inner : SourceType)
  | slice (element : SourceType)
  /-- A path below a type in angle brackets. -/
  | projection (name : Identifier) (tokens : Tokens)
  | other (tokens : Tokens)
deriving Inhabited

/-- An expression as it is written. -/
inductive SourceExpression
  | literal (l : SourceLiteral)
  /-- A literal with a minus sign directly before it. -/
  | negated (l : SourceLiteral)
  | path (segments : List Identifier)
  | array (items : List SourceExpression)
  | parenthesized (inner : SourceExpression)
  | other (tokens : Tokens)
deriving Inhabited

/-- What stands before the equals sign of an argument. -/
inductive ArgumentName
  | identifier (i : Identifier)
  | path (tokens : Tokens)

/-- An entry of a directive. -/
inductive DirectiveEntry
  | word (key : String)
  | value (key : String) (e : SourceExpression)
  | other

/-- What an attribute has behind its path. -/
inductive AttributeBody
  | empty
  | value (e : SourceExpression)
  /-- A list of arguments with names. -/
  | named (arguments : List (ArgumentName × SourceExpression))
  /-- A list that is a single expression. -/
  | single (e : SourceExpression)
  /-- A list that is neither. -/
  | malformed (tokens : Tokens)
  /-- The entries of a directive, if they are well formed. -/
  | directive (entries : Option (List DirectiveEntry))

structure Attribute where
  path : List Identifier
  /-- Whether the path starts with a separator. -/
  isGlobal : Bool := false
  body : AttributeBody

/-- The path of the attribute that asks for a class. -/
def Attribute.directivePath : List Identifier := [⟨"generate", false⟩]

def Attribute.isDirective (isGlobal : Bool) (path : List Identifier) : Bool :=
  !isGlobal && path == directivePath

structure Method where
  attributes : List Attribute := []
  name : Identifier
  /-- Whether the receiver is there and is the only parameter. -/
  takesOnlyReceiver : Bool
  isGeneric : Bool := false
  hasBody : Bool := false
  result : Option SourceType

inductive StructFields
  | unit
  | tuple
  | named (fields : List (Identifier × SourceType))

inductive SourceItem
  | interface (attributes : List Attribute) (name : Identifier) (supertypes : List SourceType)
      (methods : List Method)
  | struct (attributes : List Attribute) (name : Identifier) (fields : StructFields)
  | enum (attributes : List Attribute) (name : Identifier) (variants : List Identifier)
  /-- An implementation of an interface for the type whose path ends in `target`; there is no
  target when the type is not written as a path. -/
  | implementation (interface : SourceType) (target : Option Identifier)
  | module (name : Identifier) (items : List SourceItem)

end ModelClasses.TraitSource
