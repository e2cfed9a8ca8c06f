import ModelClasses.TraitSource.Lexer
import ModelClasses.TraitSource.Members

/-! # Reading trait source

The rules of the grammar, put together, and the items of source text. -/

namespace ModelClasses.TraitSource

/-- The rules of one level over another level. -/
def Grammar.next (g : Grammar) : Grammar where
  type := g.typeRule
  bound := g.boundRule
  expression := g.expressionRule
  operand := g.operandRule
  statement := g.statementRule
  pattern := g.patternRule
  block := g.blockRule
  item := g.itemRule

/-- A grammar for what is nested no deeper than `levels`. -/
def Grammar.ofLevels (levels : Nat) : Grammar := levels.repeat Grammar.next Grammar.empty

/-- Levels enough for `n` tokens: where a rule refers to another, or to a rule that takes a token,
a token has been taken at most a few references before. -/
def Grammar.levelsFor (n : Nat) : Nat := 8 * n + 8

/-- The items that tokens stand for, if all of them belong to items. -/
def SourceItem.ofTokens? (ts : Tokens) : Option (List SourceItem) :=
  (Grammar.items (Grammar.ofLevels (Grammar.levelsFor (TokenTree.listSize ts)))).run? ts

end ModelClasses.TraitSource
