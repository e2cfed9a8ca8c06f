import ModelClasses.TraitSource.Attribute

/-! # Types of trait source

The rules for paths, generic arguments, bounds and types. -/

namespace ModelClasses.TraitSource

open TraitSource.Parser

/-- What stands behind the name of a path's segment. -/
inductive SegmentArguments
  | none
  | types (arguments : List SourceType)
  | function

/-- A path of segments, of which only the last one's arguments matter. -/
structure TypePath where
  qualifier : List Identifier := []
  name : Identifier
  arguments : SegmentArguments := .none
  /-- Whether no segment before the last one has arguments. -/
  isPlainBefore : Bool := true

namespace TypePath

def isBare (p : TypePath) : Bool :=
  match p.arguments with
  | .none => true
  | _ => false

/-- Whether no segment has arguments. -/
def isPlain (p : TypePath) : Bool := p.isPlainBefore && p.isBare

def segments (p : TypePath) : List Identifier := p.qualifier ++ [p.name]

def type (p : TypePath) : SourceType :=
  match p.arguments with
  | .none => .named p.qualifier p.name []
  | .types arguments => .named p.qualifier p.name arguments
  | .function => .function p.name

/-- A path with one more segment. -/
def extend (p : TypePath) (name : Identifier) (arguments : SegmentArguments) : TypePath :=
  ⟨p.segments, name, arguments, p.isPlain⟩

end TypePath

namespace Grammar

/-- Lifetimes that a type is given for. -/
def binder (g : Grammar) : Parser Unit := do
  let _ ← word "for"
  operator "<"
  let _ ← commaListUntil ">" do
    let _ ← Attribute.outers g
    lifetime
  operator ">"

/-- A constant among generic arguments. -/
def constant (g : Grammar) : Parser Unit :=
  orElse (do let _ ← signedLiteral) g.block

def constantFollows : Parser Bool := follows (orElse (do let _ ← signedLiteral) (do let _ ← brace))

/-- A bound in parentheses or without. -/
def parenthesized? {α : Type} (p : Parser α) : Parser α := do
  if ← follows parenthesis then group .parenthesis p else p

/-- The words, operators and groups that a bound starts with. -/
def boundFollows (allowsConstants : Bool) : Parser Bool := do
  return (← follows anyIdentifier) || (← follows (oneOperator ["::", "?"])) ||
    (← follows lifetime) || (← follows parenthesis) ||
    allowsConstants && (← follows bracket)

/-- An argument of a path's segment: whether it is a lifetime, and its type if it is one. -/
abbrev GenericArgument := Bool × Option SourceType

/-- How generic arguments are shown: lifetimes in front of the others. -/
def argumentTokens (arguments : List (GenericArgument × Tokens)) (endsWithComma : Bool) : Tokens :=
  let comma := operatorTokens [',']
  let lifetimes := arguments.filter (·.1.1)
  let others := arguments.filter (!·.1.1)
  let moved := !others.isEmpty && arguments.getLast?.any (·.1.1)
  comma.intercalate ((lifetimes ++ others).map (·.2)) ++
    if endsWithComma || moved then comma else []

/-- A name with a bound or a value is an argument that has no type. -/
def argumentBehind (g : Grammar) (t : SourceType) :
    Parser GenericArgument := do
  match t with
  | .named [] _ _ =>
    if ← takes (operator "=") then
      if ← constantFollows then constant g else let _ ← g.type true
      return (false, none)
    if ← takes (operator ":") then
      let _ ← separatedUntil (follows (oneOperator [",", ">"])) (operator "+") g.bound
      return (false, none)
    return (false, some t)
  | _ => return (false, some t)

def genericArgument (g : Grammar) : Parser GenericArgument := do
  if (← follows lifetime) && !(← followsAt 1 (operator "+")) then
    let _ ← lifetime
    return (true, none)
  if ← constantFollows then
    constant g
    return (false, none)
  let isGlobal ← follows (operator "::")
  let t ← g.type true
  if isGlobal then return (false, some t)
  argumentBehind g t

/-- The types among generic arguments. -/
def genericArguments (g : Grammar) : Parser (List SourceType) := do
  maybe (operator "::")
  operator "<"
  let (arguments, tokens) ←
    unshown (captured (commaListUntil ">" (captured (genericArgument g))))
  let endsWithComma := match tokens.getLast? with
    | some (.punct c _) => c == ','
    | _ => false
  show_ (argumentTokens arguments endsWithComma)
  operator ">"
  return arguments.filterMap (·.1.2)

/-- A segment of a path. In an expression its arguments stand behind a separator. -/
def segment (g : Grammar) (inExpression : Bool) :
    Parser (Identifier × SegmentArguments) := do
  if ← follows (oneWord ["super", "self", "crate", "try"]) then return (← anyIdentifier, .none)
  let i ← orElse (word "Self") identifier
  let opens := !inExpression && (← follows (operator "<")) &&
    !(← follows (oneOperator ["<=", "<<="]))
  if opens || ((← follows (operator "::")) && (← followsAt 2 (operator "<"))) then
    return (i, .types (← genericArguments g))
  return (i, .none)

/-- A separator that a segment follows. -/
def separatorFollows : Parser Bool := do
  return (← follows (operator "::")) && !(← followsAt 2 parenthesis)

/-- The further segments of a path. -/
def moreSegments (g : Grammar) (inExpression : Bool) (p : TypePath) :
    Parser TypePath := do
  let more ← many do
    require (← separatorFollows)
    operator "::"
    segment g inExpression
  return more.foldl (fun p s => p.extend s.1 s.2) p

def path (g : Grammar) (inExpression : Bool) : Parser TypePath := do
  maybe (operator "::")
  let (name, arguments) ← segment g inExpression
  moreSegments g inExpression { name, arguments }

def parametersFollow : Parser Bool := do
  return (← follows parenthesis) ||
    ((← follows (operator "::")) && (← followsAt 2 parenthesis))

/-- Parameters in parentheses, and whether a result stands behind them. -/
def parameterTypes (g : Grammar) : Parser Bool := do
  maybe (unshown (operator "::"))
  let _ ← group .parenthesis (commaList (g.type true))
  if ← takes (operator "->") then
    let _ ← g.type false
    return true
  return false

/-- The path of a bound, behind which parameters may stand once. -/
def boundPath (g : Grammar) : Parser TypePath := do
  let p ← path g false
  if p.isBare && (← parametersFollow) then
    let _ ← parameterTypes g
    return { p with arguments := .function }
  return p

/-- What a bound captures: lifetimes and type parameters in angle brackets. -/
def captures : Parser Unit := do
  let _ ← word "use"
  operator "<"
  let _ ← commaListUntil ">" (orElse (do let _ ← lifetime) do let _ ← orElse identifier (word "Self"))
  operator ">"

/-- A bound on an interface, or one that holds for constants. -/
def interfaceBound (g : Grammar) (allowsConstants : Bool) :
    Parser Bound := do
  let isBound ← takes (binder g)
  let isConstant ← takes (orElse (group .bracket (word "const")) (word "const"))
  require (allowsConstants || !isConstant)
  let isOptional ← takes (operator "?")
  require !(isBound && isOptional)
  let p ← boundPath g
  return if isConstant then .constant else .interface p.type

def anyBound (g : Grammar) (allowsCaptures allowsConstants : Bool) : Parser Bound := do
  if ← takes lifetime then return .lifetime
  if ← follows (word "use") then
    captures
    require allowsCaptures
    return .lifetime
  parenthesized? (interfaceBound g allowsConstants)

/-- A bound of a type parameter. -/
def boundRule (g : Grammar) : Parser Bound := anyBound g false true

/-- Bounds with plus signs between them, if sums are allowed. -/
def bounds (g : Grammar) (allowsSums allowsCaptures allowsConstants : Bool) :
    Parser (List Bound) := do
  let first ← anyBound g allowsCaptures allowsConstants
  if !allowsSums then return [first]
  let more ← many do
    operator "+"
    require (← boundFollows allowsConstants)
    anyBound g allowsCaptures allowsConstants
  maybe (operator "+")
  return first :: more

/-- Bounds of which at least one is no lifetime. -/
def someBounds (g : Grammar) (allowsSums allowsCaptures allowsConstants : Bool) : Parser Unit := do
  let bs ← bounds g allowsSums allowsCaptures allowsConstants
  require (bs.any (!·.isLifetime))

/-- What a type is, given the tokens that it has. -/
abbrev TypeReading := Tokens → SourceType

/-- A path that starts below a type in angle brackets. -/
def projection (g : Grammar) (inExpression : Bool) : Parser Identifier := do
  operator "<"
  let _ ← g.type true
  if ← takes (word "as") then
    let _ ← path g false
  operator ">"
  let segments ← separatedSegments
  match segments.getLast? with
  | some (i, _) => return i
  | none => fail
where
  separatedSegments : Parser (List (Identifier × SegmentArguments)) := do
    operator "::"
    let first ← segment g inExpression
    let more ← many do
      operator "::"
      segment g inExpression
    return first :: more

/-- Parameters behind a path. A path may go on behind parameters that have no result. -/
def functionSegments (g : Grammar) (p : TypePath) : Nat → Parser TypePath
  | 0 => return p
  | fuel + 1 => do
    if !p.isBare || !(← parametersFollow) then return p
    let hasResult ← parameterTypes g
    let p := { p with arguments := .function }
    if hasResult || !(← separatorFollows) then return p
    functionSegments g (← moreSegments g false p) fuel

def typePath (g : Grammar) : Parser TypePath := do
  let p ← path g false
  fun s => functionSegments g p (s.rest.length + 1) s

def pathFollows : Parser Bool := do
  return (← follows Attribute.moduleSegment) || (← follows (operator "::"))

/-- An invocation behind a path without arguments. -/
def invocation (p : TypePath) : Parser Delimiter := do
  require (p.isPlain && !(← follows (operator "!=")))
  operator "!"
  let (d, _) ← anyGroup
  return d

/-- The bounds of a sum behind its first one. -/
def sumBehind (g : Grammar) : Parser Unit := do
  let _ ← many do
    operator "+"
    require (← boundFollows false)
    g.bound
  maybe (operator "+")

def pathType (g : Grammar) (isBound allowsSums : Bool) : Parser TypeReading := do
  let p ← typePath g
  if ← takes (invocation p) then return .other
  if allowsSums && (isBound || (← follows (operator "+"))) then
    sumBehind g
    return .other
  if isBound then return .other
  return fun _ => p.type

/-- What stands in the parentheses of a type. -/
inductive Parenthesized
  | tuple
  | bound
  | type (t : SourceType)

def insideParentheses (g : Grammar) : Parser Parenthesized := do
  if ← ended then return .tuple
  if ← follows lifetime then
    let (_, tokens) ← captured (someBounds g true false false)
    return .type (.other tokens)
  if ← follows (operator "?") then
    let _ ← interfaceBound g false
    return .bound
  let first ← g.type true
  if ← takes (operator ",") then
    let _ ← commaList (g.type true)
    return .tuple
  return .type first

def parenthesizedType (g : Grammar) (allowsSums : Bool) : Parser TypeReading := do
  match ← group .parenthesis (insideParentheses g) with
  | .tuple => return .other
  | .bound =>
    sumBehind g
    return .other
  | .type t =>
    if allowsSums && (← follows (operator "+")) && isPath t then
      sumBehind g
      return .other
    return fun _ => .parenthesized t
where
  isPath : SourceType → Bool
    | .named .. => true
    | .function _ => true
    | _ => false

/-- The calling convention of a function. -/
def convention : Parser Unit := do
  let _ ← word "extern"
  maybe literal

/-- A parameter of a function type; dots stand for any further ones. -/
def pointerParameter (g : Grammar) : Parser Unit := do
  let _ ← Attribute.outers g
  let named := orElse identifier (oneWord ["_", "self"])
  if (← follows named) && (← followsAt 1 (operator ":")) && !(← followsAt 1 (operator "::")) then
    let _ ← anyIdentifier
    operator ":"
  if ← takes (operator "...") then
    maybe (operator ",")
    require (← ended)
  else
    let _ ← g.type true

def functionType (g : Grammar) : Parser Unit := do
  maybe (word "unsafe")
  maybe convention
  let _ ← word "fn"
  let _ ← group .parenthesis (commaList (pointerParameter g))
  if ← takes (operator "->") then
    let _ ← g.type false

def bracketType (g : Grammar) : Parser TypeReading := do
  let element ← g.type true
  if ← takes (operator ";") then
    let _ ← g.expression true
    return .other
  return fun _ => .slice element

def referenceType (g : Grammar) : Parser TypeReading := do
  operator "&"
  maybe lifetime
  maybe (word "mut")
  let target ← g.type false
  return fun _ => .reference target

def pointerType (g : Grammar) : Parser Unit := do
  operator "*"
  let _ ← oneWord ["const", "mut"]
  let _ ← g.type false

def typeReading (g : Grammar) (allowsSums : Bool) : Parser TypeReading := do
  let isBound ← takes (binder g)
  if ← follows (oneWord ["fn", "unsafe", "extern"]) then
    functionType g
    return .other
  if ← pathFollows then return ← pathType g isBound allowsSums
  require !isBound
  if ← follows (operator "<") then return .projection (← projection g false)
  if ← follows parenthesis then return ← parenthesizedType g allowsSums
  if ← follows bracket then return ← group .bracket (bracketType g)
  if ← follows (operator "&") then return ← referenceType g
  if ← follows (operator "*") then
    pointerType g
    return .other
  if ← takes (word "dyn") then
    maybe (operator "*")
    someBounds g allowsSums false false
    return .other
  if ← takes (word "impl") then
    someBounds g allowsSums true true
    return .other
  if ← follows lifetime then
    someBounds g true false false
    return .other
  orElse (operator "!") do
    let _ ← word "_"
  return .other

def typeRule (g : Grammar) (allowsSums : Bool) : Parser SourceType := do
  let (reading, tokens) ← captured (typeReading g allowsSums)
  return reading tokens

end Grammar

end ModelClasses.TraitSource
