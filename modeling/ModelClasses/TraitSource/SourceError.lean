import ModelClasses.TraitSource.Token

/-! # Failures of reading declarations

Why no declarations are read from source text, and in which part of it. -/

namespace ModelClasses.TraitSource

/-- What has no form in a declaration. -/
inductive SourceProblem
  | functionType
  | type (tokens : Tokens)
  | directive
  | argumentName (tokens : Tokens)
  | arguments (tokens : Tokens)
  | literal (isNegative : Bool) (text : List Char)
  /-- A whole number that has no form in 64 bits. -/
  | integer (value : Int)

namespace SourceProblem

def signText (isNegative : Bool) : String := if isNegative then "-" else ""

/-- The messages of a problem, from the outermost to the innermost. -/
def messages : SourceProblem → List String
  | functionType => ["Function types are not supported"]
  | type tokens => ["Unsupported type: " ++ tokens.text]
  | directive => ["Invalid #[generate] attribute"]
  | argumentName tokens => ["Argument name must be an identifier: " ++ tokens.text]
  | arguments tokens => ["Unsupported attribute arguments: " ++ tokens.text]
  | literal isNegative text =>
    ["Unsupported literal: " ++ signText isNegative ++ String.ofList text]
  | integer value =>
    ["Integer literal out of range: " ++ Int.repr value,
      if value < 0 then "number too small to fit in target type"
      else "number too large to fit in target type"]

end SourceProblem

/-- The part of source text that has a problem. -/
inductive SourcePlace
  | supertype (owner : String)
  | interface (name : String)
  | property (owner name : String)
  | struct (name : String)
  | field (owner name : String)
  | enum (name : String)
  | implementation (target : String)
deriving DecidableEq

def SourcePlace.message : SourcePlace → String
  | .supertype owner => "Unsupported supertrait of " ++ owner
  | .interface name => "In trait " ++ name
  | .property owner name => "In property " ++ owner ++ "." ++ name
  | .struct name => "In struct " ++ name
  | .field owner name => "In field " ++ owner ++ "." ++ name
  | .enum name => "In enum " ++ name
  | .implementation target => "Unsupported trait implemented by " ++ target

inductive SourceError
  /-- The tokens are not those of items. -/
  | items
  | problem (place : SourcePlace) (problem : SourceProblem)

/-- The messages of a failure, from the outermost to the innermost. -/
def SourceError.messages : SourceError → List String
  | items => ["Failed to parse Rust tokens"]
  | problem place p => place.message :: p.messages

end ModelClasses.TraitSource
