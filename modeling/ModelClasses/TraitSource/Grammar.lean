import ModelClasses.TraitSource.Item
import ModelClasses.TraitSource.Parser

/-! # The grammar of trait source

The rules of the grammar refer to one another. Each is written over a grammar for what it refers
to, and the rules of one level together are the grammar for the next. -/

namespace ModelClasses.TraitSource

/-- A bound on a type. Only one on an interface has a meaning. -/
inductive Bound
  | lifetime
  | constant
  | interface (type : SourceType)

def Bound.type? : Bound → Option SourceType
  | interface t => some t
  | _ => none

def Bound.isLifetime : Bound → Bool
  | lifetime => true
  | _ => false

/-- What kind of expression an operand is, as far as the tokens behind it depend on it. -/
inductive OperandForm
  | plain
  | comparison
  | range
  /-- An expression that ends with a block and needs no separator behind. -/
  | block
  /-- An invocation with braces. -/
  | invocation
deriving DecidableEq

/-- An expression, or a part of one, and what it means if it has a meaning of its own. -/
structure Operand where
  form : OperandForm := .plain
  value : Option SourceExpression := none

/-- The parsers that the rules of a grammar refer to. -/
structure Grammar where
  /-- A type; sums of bounds are types where they are allowed. -/
  type (allowsSums : Bool) : Parser SourceType
  /-- A bound of a type parameter. -/
  bound : Parser Bound
  /-- An expression; a value in braces behind a path is one where it is allowed. -/
  expression (allowsBraces : Bool) : Parser SourceExpression
  /-- An expression without binary operators. -/
  operand (allowsBraces : Bool) : Parser Operand
  /-- An expression that ends early where it is a block: no operator is read behind it, but for
  fields and calls. -/
  statement : Parser Operand
  /-- A pattern; alternatives are one where they are allowed. -/
  pattern (allowsAlternatives : Bool) : Parser Unit
  /-- Statements in braces. -/
  block : Parser Unit
  /-- An item, if declarations may be read from it. -/
  item : Parser (Option SourceItem)

/-- The grammar in which nothing applies. -/
def Grammar.empty : Grammar where
  type _ := Parser.fail
  bound := Parser.fail
  expression _ := Parser.fail
  operand _ := Parser.fail
  statement := Parser.fail
  pattern _ := Parser.fail
  block := Parser.fail
  item := Parser.fail

end ModelClasses.TraitSource
