import ModelClasses.TraitSource.Type

/-! # Patterns of trait source

The rules for what stands in front of a match's arrow, of a binding's value and of a parameter's
type. -/

namespace ModelClasses.TraitSource

open TraitSource.Parser

namespace Grammar

/-- A path in an expression or a pattern; there is none below a type in angle brackets. -/
def valuePath (g : Grammar) : Parser (Option TypePath) := do
  if ← follows (operator "<") then
    let _ ← projection g true
    return none
  return some (← path g true)

/-- What ends a range, where nothing else does. -/
def rangeStops : Parser Bool := do
  return (← ended) || (← follows (oneOperator ["|", "=", ",", ";"])) ||
    (← follows (operator ":")) && !(← follows (operator "::")) || (← follows (word "if"))

/-- A value that a range starts or ends with. -/
def rangeBound (g : Grammar) : Parser Unit := do
  if ← takes signedLiteral then return
  if ← takes (word "const") then return ← g.block
  let _ ← valuePath g

/-- The end of a range behind its dots; an end that belongs to the range has to be there. -/
def rangeBehind (g : Grammar) : Parser Unit := do
  let isClosed ← takes (oneOperator ["..=", "..."])
  if !isClosed then operator ".."
  if ← rangeStops then require !isClosed else rangeBound g

/-- A field of a pattern in braces; dots stand for the others. -/
def fieldPattern (g : Grammar) : Parser Unit := do
  let _ ← Attribute.outers g
  if ← takes (operator "..") then return ← require (← ended)
  let modifiers ← many (oneWord ["box", "ref", "mut"])
  if modifiers.isEmpty && ((← follows number) || (← followsAt 1 (operator ":"))) then
    orElse (do let _ ← identifier) (do let _ ← number)
    operator ":"
    g.pattern true
  else
    let _ ← identifier

/-- A pattern that starts with a path. -/
def pathPattern (g : Grammar) : Parser Unit := do
  let p ← valuePath g
  if let some p := p then
    if ← takes (invocation p) then return
  if ← follows brace then
    let _ ← group .brace (commaList (fieldPattern g))
  else if ← follows parenthesis then
    let _ ← group .parenthesis (commaList (g.pattern true))
  else if ← follows (operator "..") then rangeBehind g

def startsPathPattern : Parser Bool := do
  let isContinued := (← followsAt 1 (oneOperator ["::", "!", ".."])) ||
    (← followsAt 1 brace) || (← followsAt 1 parenthesis)
  return (← follows identifier) && isContinued ||
    (← follows (word "self")) && (← followsAt 1 (operator "::")) ||
    (← follows (oneOperator ["::", "<"])) || (← follows (oneWord ["Self", "super", "crate"]))

/-- A name, and a pattern for what it stands for. -/
def bindingPattern (g : Grammar) : Parser Unit := do
  maybe (word "ref")
  maybe (word "mut")
  let _ ← orElse (word "self") identifier
  if ← takes (operator "@") then g.pattern false

def singlePattern (g : Grammar) : Parser Unit := do
  if ← startsPathPattern then return ← pathPattern g
  if ← takes (word "_") then return
  if ← takes (word "box") then return ← g.pattern false
  if (← follows signedLiteral) || (← follows (word "const")) then
    rangeBound g
    if ← follows (operator "..") then rangeBehind g
    return
  if (← follows (oneWord ["ref", "mut", "self"])) || (← follows identifier) then
    return ← bindingPattern g
  if ← takes (operator "&") then
    maybe (word "mut")
    return ← g.pattern false
  if ← follows parenthesis then
    let _ ← group .parenthesis (commaList (g.pattern true))
    return
  if ← follows bracket then
    let _ ← group .bracket (commaList (g.pattern true))
    return
  require !(← follows (operator "..."))
  rangeBehind g

def barFollows : Parser Bool := do
  return (← follows (operator "|")) && !(← follows (oneOperator ["||", "|="]))

/-- Patterns with bars between them; a bar may stand in front. -/
def patternRule (g : Grammar) (allowsAlternatives : Bool) : Parser Unit := do
  if allowsAlternatives then maybe (operator "|")
  singlePattern g
  if allowsAlternatives then
    let _ ← many do
      require (← barFollows)
      operator "|"
      singlePattern g

end Grammar

end ModelClasses.TraitSource
