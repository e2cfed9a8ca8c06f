import ModelClasses.Decimal.Word
import ModelClasses.TraitSource.Pattern

/-! # Expressions of trait source

The rules for expressions. An expression without a meaning of its own is kept as its tokens. -/

namespace ModelClasses.TraitSource

open TraitSource.Parser

namespace Grammar

/-- How strongly operators bind. -/
inductive Strength
  | weakest
  | assignment
  | range
  | disjunction
  | conjunction
  | comparison
  | bitOr
  | bitXor
  | bitAnd
  | shift
  | sum
  | product
  | cast

def Strength.rank : Strength → Nat
  | weakest => 0
  | assignment => 1
  | range => 2
  | disjunction => 3
  | conjunction => 4
  | comparison => 5
  | bitOr => 6
  | bitXor => 7
  | bitAnd => 8
  | shift => 9
  | sum => 10
  | product => 11
  | cast => 12

/-- The binary operators, the longer ones first. -/
def binaryOperators : List (String × Strength) := [
  ("+=", .assignment), ("-=", .assignment), ("*=", .assignment), ("/=", .assignment),
  ("%=", .assignment), ("^=", .assignment), ("&=", .assignment), ("|=", .assignment),
  ("<<=", .assignment), (">>=", .assignment), ("&&", .conjunction), ("||", .disjunction),
  ("<<", .shift), (">>", .shift), ("==", .comparison), ("<=", .comparison), ("!=", .comparison),
  (">=", .comparison), ("+", .sum), ("-", .sum), ("*", .product), ("/", .product), ("%", .product),
  ("^", .bitXor), ("&", .bitAnd), ("|", .bitOr), ("<", .comparison), (">", .comparison)]

/-- The binary operator that stands in front. -/
def binaryOperator? : Parser (Option (String × Strength)) := fun s =>
  some (binaryOperators.find? fun o => (dropOperator o.1.toList s.rest).isSome, s)

def assignmentFollows : Parser Bool := do
  return (← follows (operator "=")) && !(← follows (operator "=>"))

/-- The strength of the operator that stands in front. -/
def nextStrength : Parser Strength := do
  if let some (_, strength) ← binaryOperator? then return strength
  if ← assignmentFollows then return .assignment
  if ← follows (operator "..") then return .range
  if ← follows (word "as") then return .cast
  return .weakest

/-- Whether a range without an end may stop in front of what follows. -/
def openRangeStops (allowsBraces : Bool) : Parser Bool := do
  return (← ended) ||
    (← follows (oneOperator [",", ";", "?", "=>", "=", "+", "/", "%", "^", ">", "<=", "!=", "-=",
      "*=", "&=", "|=", "<<="])) ||
    (← follows (operator ".")) && !(← follows (operator "..")) ||
    !allowsBraces && (← follows brace) || (← follows (word "as"))

/-- What may not stand behind a cast. -/
def castContinues : Parser Bool := do
  return (← follows (operator ".")) && !(← follows (operator "..")) ||
    (← follows (operator "?")) || (← follows bracket) || (← follows parenthesis)

def remaining : Parser Nat := fun s => some (s.rest.length, s)

mutual
/-- An operand and what follows it, as far as the operators there bind at least as strongly as
`base`. Comparisons are not chained, and nothing follows a range. -/
def climb (g : Grammar) (allowsBraces : Bool) : Nat → Strength → Operand → Parser Operand
  | 0, _, _ => fail
  | fuel + 1, base, left => do
    if left.form = .range then return left
    if let some (text, strength) ← binaryOperator? then
      if strength.rank < base.rank then return left
      let isComparison := strength.rank == Strength.comparison.rank
      require !(isComparison && left.form = .comparison)
      operator text
      raise g allowsBraces fuel strength (← g.operand allowsBraces)
      return ← climb g allowsBraces fuel base ⟨if isComparison then .comparison else .plain, none⟩
    if base.rank ≤ Strength.assignment.rank && (← assignmentFollows) then
      operator "="
      raise g allowsBraces fuel .assignment (← g.operand allowsBraces)
      return ← climb g allowsBraces fuel base {}
    if base.rank ≤ Strength.range.rank && (← follows (operator "..")) then
      rangeEnd g allowsBraces fuel
      return ← climb g allowsBraces fuel base ⟨.range, none⟩
    if base.rank ≤ Strength.cast.rank && (← takes (word "as")) then
      let _ ← g.type false
      require !(← castContinues)
      return ← climb g allowsBraces fuel base {}
    return left

/-- The right operand of an operator of a strength: it reaches over stronger operators, and over
assignments behind an assignment. -/
def raise (g : Grammar) (allowsBraces : Bool) : Nat → Strength → Operand → Parser Unit
  | 0, _, _ => fail
  | fuel + 1, strength, right => do
    let next ← nextStrength
    let goesOn := strength.rank < next.rank ||
      next.rank == strength.rank && strength.rank == Strength.assignment.rank
    if goesOn then
      let before ← remaining
      let right ← climb g allowsBraces fuel next right
      if (← remaining) < before then raise g allowsBraces fuel strength right

/-- The dots of a range and its end, which may be left out. -/
def rangeEnd (g : Grammar) (allowsBraces : Bool) : Nat → Parser Unit
  | 0 => fail
  | fuel + 1 => do
    require !(← follows (operator "..."))
    let isClosed ← takes (operator "..=")
    if !isClosed then operator ".."
    if !isClosed && (← openRangeStops allowsBraces) then return
    raise g allowsBraces fuel .range (← g.operand allowsBraces)
end

/-- Steps enough to reach over `n` tokens. -/
def reach (n : Nat) : Nat := 3 * n + 3

def prefixRange (g : Grammar) (allowsBraces : Bool) : Parser Unit := fun s =>
  rangeEnd g allowsBraces (reach s.rest.length) s

def operatorsBehind (g : Grammar) (allowsBraces : Bool) (base : Strength) (left : Operand) :
    Parser Operand :=
  fun s => climb g allowsBraces (reach s.rest.length) base left s

/-- The number of a field, written without a suffix. -/
def fieldNumber? (cs : List Char) : Option Nat :=
  let (base, digits) := SourceLiteral.splitBase cs
  match SourceLiteral.readDigits base false 0 digits with
  | some (n, []) => if Decimal.Word.isUnsigned 32 n then some n else none
  | _ => none

def fieldNumberToken (n : Nat) : TokenTree := .literal (Nat.repr n).toList

/-- A field that has a number. It is shown in decimal. -/
def numberedField : Parser Unit := do
  let l ← unshown number
  match fieldNumber? l.text with
  | some n => show_ [fieldNumberToken n]
  | none => fail

/-- The texts between the points of a number. -/
def pointParts : List Char → List (List Char)
  | [] => [[]]
  | c :: rest =>
    if c = '.' then [] :: pointParts rest
    else
      match pointParts rest with
      | [] => [[c]]
      | part :: more => (c :: part) :: more

/-- Numbers of fields that are written as one number with a point, and whether the last of them is
missing. -/
def pointedFields : Parser Bool := do
  let l ← unshown number
  match l.value with
  | .decimal .. =>
    let parts := pointParts l.text
    let isOpen := parts.getLast? == some []
    let parts := if isOpen then parts.dropLast else parts
    match parts.mapM fieldNumber? with
    | some ns =>
      show_ ((operatorTokens ['.']).intercalate (ns.map fun n => [fieldNumberToken n]))
      if isOpen then show_ (operatorTokens ['.'])
      return isOpen
    | none => fail
  | _ => fail

def callArguments (g : Grammar) : Parser Unit := do
  let _ ← group .parenthesis (commaList (g.expression true))

/-- A field or a method behind a point. -/
def member (g : Grammar) : Parser Unit := do
  if ← follows (operator "..") then fail
  operator "."
  if let some isOpen ← attempt pointedFields then
    if !isOpen then return
  if ← takes (word "await") then return
  if ← follows number then return ← numberedField
  let _ ← identifier
  if ← follows (operator "::") then
    let _ ← genericArguments g
    callArguments g
  else if ← follows parenthesis then callArguments g

def trailer (g : Grammar) : Parser Unit := do
  if ← follows parenthesis then return ← callArguments g
  if ← follows bracket then
    let _ ← group .bracket (g.expression true)
    return
  if ← follows (operator "?") then return ← operator "?"
  member g

/-- An operand with the calls, fields and marks behind it. -/
def trailersBehind (g : Grammar) (o : Operand) : Parser Operand := do
  if o.form = .range then return o
  let trailers ← many (trailer g)
  return if trailers.isEmpty then o else {}

def conditional (g : Grammar) : Nat → Parser Unit
  | 0 => fail
  | fuel + 1 => do
    let _ ← word "if"
    let _ ← g.expression false
    g.block
    if ← takes (word "else") then
      if ← follows brace then g.block else conditional g fuel

/-- An operand that has no meaning, and a condition under which it ends without a separator. -/
def blockOperand (p : Parser Unit) : Parser Operand := do
  p
  return ⟨.block, none⟩

def loop (g : Grammar) : Parser Unit := do
  if ← takes (word "loop") then return ← g.block
  if ← takes (word "while") then
    let _ ← g.expression false
    return ← g.block
  let _ ← word "for"
  g.pattern true
  let _ ← word "in"
  let _ ← g.expression false
  g.block

/-- A loop or a block behind a label. -/
def labeled (g : Grammar) : Parser Unit := do
  let _ ← lifetime
  operator ":"
  if ← follows brace then g.block else loop g

/-- Whether a lifetime in angle brackets follows the word in front. -/
def binderFollows : Parser Bool := do
  return (← follows (word "for")) && (← followsAt 1 (operator "<")) &&
    ((← followsAt 2 lifetime) || (← followsAt 2 (operator ">")))

/-- A block behind words. -/
def wordBlock (g : Grammar) (w : String) : Parser Unit := do
  let _ ← word w
  g.block

/-- One case of a match. -/
def matchArm (g : Grammar) : Parser Unit := do
  let _ ← Attribute.outers g
  g.pattern true
  if ← takes (word "if") then
    let _ ← g.expression true
  operator "=>"
  let body ← g.statement
  if body.form = .block || (← ended) then maybe (operator ",") else operator ","

def matching (g : Grammar) : Parser Unit := do
  let _ ← word "match"
  let _ ← g.expression false
  group .brace do
    let _ ← Attribute.inners g
    let _ ← many (matchArm g)

/-- The parser of an expression that ends with a block, if one starts here. -/
def blockParser? (g : Grammar) : Parser (Option (Parser Unit)) := do
  if ← follows (word "if") then
    return some fun s => conditional g (s.rest.length + 1) s
  if ← follows (word "match") then return some (matching g)
  if (← follows (oneWord ["while", "loop"])) ||
      (← follows (word "for")) && !(← binderFollows) then
    return some (loop g)
  if ← follows lifetime then return some (labeled g)
  if ← follows brace then return some g.block
  if ← followsAt 1 brace then
    for w in ["unsafe", "const", "try"] do
      if ← follows (word w) then return some (wordBlock g w)
  return none

/-- Whether the tokens in front may start an expression. -/
def expressionFollows : Parser Bool := do
  return (← follows anyIdentifier) || (← follows anyGroup) || (← follows literal) ||
    (← follows lifetime) || (← follows (oneOperator ["..", "::", "#"])) ||
    (← follows (operator "!")) && !(← follows (operator "!=")) ||
    (← follows (operator "-")) && !(← follows (oneOperator ["-=", "->"])) ||
    (← follows (operator "*")) && !(← follows (operator "*=")) ||
    (← follows (operator "|")) && !(← follows (operator "|=")) ||
    (← follows (operator "&")) && !(← follows (operator "&=")) ||
    (← follows (operator "<")) && !(← follows (oneOperator ["<=", "<<="]))

/-- A value in braces behind a path. The fields that are not written are those of another value. -/
def fieldValue (g : Grammar) : Parser Unit := do
  if ← takes (operator "..") then
    if !(← ended) then
      let _ ← g.expression true
    return ← require (← ended)
  let _ ← Attribute.outers g
  let isNumbered ← follows number
  if isNumbered then numberedField else let _ ← identifier
  if isNumbered || (← follows (operator ":")) then
    operator ":"
    let _ ← g.expression true

def pathOperand (g : Grammar) (allowsBraces : Bool) : Parser Operand := do
  let p ← valuePath g
  if let some p := p then
    if let some d ← attempt (invocation p) then
      return ⟨if d = .brace then .invocation else .plain, none⟩
  if allowsBraces && (← follows brace) then
    let _ ← group .brace (commaList (fieldValue g))
    return {}
  return ⟨.plain, p.map fun p => .path p.segments⟩

def parenthesisOperand (g : Grammar) : Parser Operand := group .parenthesis do
  let items ← captured (commaList (g.expression true))
  match items with
  | ([e], tokens) =>
    let isTuple := match tokens.getLast? with
      | some (.punct c _) => c == ','
      | _ => false
    return if isTuple then {} else ⟨.plain, some (.parenthesized e)⟩
  | _ => return {}

/-- Values with commas between them, or a value and how often it is repeated. -/
def arrayOperand (g : Grammar) : Parser Operand := group .bracket do
  if ← ended then return ⟨.plain, some (.array [])⟩
  let first ← g.expression true
  if ← takes (operator ";") then
    let _ ← g.expression true
    return {}
  if !(← ended) then operator ","
  return ⟨.plain, some (.array (first :: (← commaList (g.expression true))))⟩

def closureFollows : Parser Bool := do
  return (← follows (operator "|")) || (← follows (oneWord ["move", "static"])) ||
    (← binderFollows) || (← follows (word "const")) && !(← followsAt 1 brace) ||
    (← follows (word "async")) &&
      ((← followsAt 1 (operator "|")) || (← followsAt 1 (word "move")))

def closureParameter (g : Grammar) : Parser Unit := do
  let _ ← Attribute.outers g
  g.pattern false
  if ← takes (operator ":") then
    let _ ← g.type true

def closure (g : Grammar) (allowsBraces : Bool) : Parser Unit := do
  maybe (binder g)
  for w in ["const", "static", "async", "move"] do maybe (word w)
  operator "|"
  let _ ← commaListUntil "|" (closureParameter g)
  operator "|"
  if ← takes (operator "->") then
    let _ ← g.type true
    g.block
  else
    let _ ← g.expression allowsBraces

def asyncBlockFollows : Parser Bool := do
  return (← follows (word "async")) &&
    ((← followsAt 1 brace) || (← followsAt 1 (word "move")) && (← followsAt 2 brace))

def asyncBlock (g : Grammar) : Parser Unit := do
  let _ ← word "async"
  maybe (word "move")
  g.block

/-- A jump, and the value it takes along. -/
def jump (g : Grammar) (allowsBraces : Bool) : Parser Unit := do
  if ← takes (word "continue") then return ← maybe lifetime
  if ← takes (word "become") then
    let _ ← g.expression true
    return
  let breaks ← takes (word "break")
  if breaks then
    maybe lifetime
    require !(← follows (operator ":"))
  else
    let _ ← oneWord ["return", "yield"]
  let isOpen := breaks && !allowsBraces && (← follows brace)
  if !isOpen && (← expressionFollows) then
    let _ ← g.expression true

/-- A pattern that a value is matched with in a condition. -/
def binding (g : Grammar) (allowsBraces : Bool) : Parser Unit := do
  let _ ← word "let"
  g.pattern true
  operator "="
  let _ ← operatorsBehind g allowsBraces .comparison (← g.operand allowsBraces)

def pathOperandFollows : Parser Bool := do
  return (← pathFollows) || (← follows (operator "<")) ||
    (← follows (word "try")) && (← followsAt 1 (oneOperator ["!", "::"]))

def atom (g : Grammar) (allowsBraces : Bool) : Parser Operand := do
  if let some l ← attempt literal then return ⟨.plain, some (.literal l)⟩
  if ← asyncBlockFollows then
    asyncBlock g
    return {}
  if let some p ← blockParser? g then return ← blockOperand p
  if ← closureFollows then
    closure g allowsBraces
    return {}
  if ← pathOperandFollows then return ← pathOperand g allowsBraces
  if ← follows parenthesis then return ← parenthesisOperand g
  if ← follows bracket then return ← arrayOperand g
  if ← follows (oneWord ["break", "continue", "return", "become", "yield"]) then
    jump g allowsBraces
    return {}
  if ← follows (word "let") then
    binding g allowsBraces
    return {}
  if ← follows (operator "..") then
    prefixRange g allowsBraces
    return ⟨.range, none⟩
  let _ ← word "_"
  return {}

/-- The operators in front of an operand. A minus sign directly before a literal belongs to it. -/
def prefixOperand (g : Grammar) (allowsBraces : Bool) : Parser Operand := do
  let isNegative ← follows (operator "-")
  oneOperator ["*", "!", "-"]
  let o ← g.operand allowsBraces
  match isNegative, o.value with
  | true, some (.literal l) => return ⟨.plain, some (.negated l)⟩
  | _, _ => return {}

def addressOperand (g : Grammar) (allowsBraces : Bool) : Parser Operand := do
  operator "&"
  if (← follows (word "raw")) && (← followsAt 1 (oneWord ["mut", "const"])) then
    let _ ← word "raw"
    let _ ← oneWord ["mut", "const"]
  else maybe (word "mut")
  let _ ← g.operand allowsBraces
  return {}

def operandRule (g : Grammar) (allowsBraces : Bool) : Parser Operand := do
  let isMarked := !(← Attribute.outers g).isEmpty
  if ← follows (operator "&") then return ← addressOperand g allowsBraces
  if ← follows (oneOperator ["*", "!", "-"]) then return ← prefixOperand g allowsBraces
  let o ← atom g allowsBraces
  require !(isMarked && o.form = .range)
  trailersBehind g o

def statementRule (g : Grammar) : Parser Operand := do
  let _ ← Attribute.outers g
  if let some p ← blockParser? g then
    let o ← blockOperand p
    let goesOn := (← follows (operator ".")) && !(← follows (operator "..")) ||
      (← follows (operator "?"))
    if !goesOn then return o
    return ← operatorsBehind g true .weakest (← trailersBehind g o)
  operatorsBehind g true .weakest (← g.operand true)

def expressionRule (g : Grammar) (allowsBraces : Bool) : Parser SourceExpression := do
  let (o, tokens) ← captured do
    operatorsBehind g allowsBraces .weakest (← g.operand allowsBraces)
  return o.value.getD (.other tokens)

end Grammar

end ModelClasses.TraitSource
