import ModelClasses.TraitSource.Expression
import ModelClasses.TraitSource.Signature

/-! # Statements of trait source

The rules for blocks: bindings, items, invocations and expressions, with semicolons between them. -/

namespace ModelClasses.TraitSource

open TraitSource.Parser

namespace Grammar

/-- Whether a binding may have an alternative: not behind a value that ends with a brace. -/
def endsWithBrace (ts : Tokens) : Bool :=
  match ts.getLast? with
  | some (.group d _) => d == .brace
  | _ => false

def letStatement (g : Grammar) : Parser Unit := do
  let _ ← word "let"
  g.pattern false
  if ← takes (operator ":") then
    let _ ← g.type true
  if ← takes (operator "=") then
    let (_, tokens) ← captured (g.expression true)
    if !endsWithBrace tokens then
      if ← takes (word "else") then g.block
  operator ";"

/-- Whether what follows an invocation with braces belongs to it. -/
def invocationGoesOn (n : Nat) : Parser Bool := do
  return (← followsAt n (operator ".")) && !(← followsAt n (operator "..")) ||
    (← followsAt n (operator "?"))

/-- The path of an invocation. -/
def invocationPath : Parser Unit := do
  let _ ← Attribute.modulePath
  operator "!"

/-- An invocation with braces, which needs no semicolon. -/
def invocationStatement : Parser Unit := do
  invocationPath
  let _ ← brace
  require !(← invocationGoesOn 0)
  maybe (operator ";")

/-- An invocation that defines a name. -/
def definitionFollows : Parser Bool := follows do
  invocationPath
  let _ ← orElse identifier (word "try")

def staticItemFollows : Parser Bool := do
  return (← follows (word "static")) && ((← followsAt 1 (word "mut")) ||
    (← followsAt 1 identifier))

def constantItemFollows : Parser Bool := do
  return (← follows (word "const")) && !((← followsAt 1 brace) ||
    (← followsAt 1 (oneWord ["static", "move"])) || (← followsAt 1 (operator "|")) ||
    (← followsAt 1 (word "async")) && !(← followsAt 2 (oneWord ["unsafe", "extern", "fn"])))

/-- Whether an item follows. -/
def itemFollows : Parser Bool := do
  return (← follows (oneWord ["pub", "extern", "use", "fn", "mod", "type", "struct", "enum",
      "trait", "impl", "macro"])) ||
    (← follows (word "crate")) && !(← followsAt 1 (operator "::")) ||
    (← staticItemFollows) || (← constantItemFollows) ||
    (← follows (word "unsafe")) && !(← followsAt 1 brace) ||
    (← follows (word "async")) && (← followsAt 1 (oneWord ["unsafe", "extern", "fn"])) ||
    (← follows (word "union")) && (← followsAt 1 identifier) ||
    (← follows (word "auto")) && (← followsAt 1 (word "trait")) ||
    (← follows (word "default")) && (← followsAt 1 (oneWord ["unsafe", "impl"])) ||
    (← definitionFollows)

/-- Whether a statement ends without a semicolon where another one follows. -/
def endsItself : OperandForm → Bool
  | .block => true
  | .invocation => true
  | _ => false

def expressionStatement (g : Grammar) : Parser Unit := do
  let o ← g.statement
  if !(← takes (operator ";")) then require (endsItself o.form || (← ended))

def plainStatement (g : Grammar) : Parser Unit := do
  let _ ← Attribute.outers g
  if ← follows (word "let") then return ← letStatement g
  if ← takes invocationStatement then return
  expressionStatement g

def anyStatement (g : Grammar) : Parser Unit := do
  if ← takes (operator ";") then return
  let isItem ← follows do
    let _ ← Attribute.outers g
    require (← itemFollows)
  if isItem then
    let _ ← g.item
  else plainStatement g

def statements (g : Grammar) : Parser Unit := do
  let _ ← Attribute.inners g
  let _ ← many (anyStatement g)

def blockRule (g : Grammar) : Parser Unit := group .brace (statements g)

end Grammar

end ModelClasses.TraitSource
