import ModelClasses.TraitSource.Pattern

/-! # Signatures of trait source

The rules for visibility, type parameters, conditions on types, and functions without their
bodies. -/

namespace ModelClasses.TraitSource

open TraitSource.Parser

namespace Grammar

/-- Whether an item is marked as visible, and where. -/
def visibility : Parser Bool := do
  if !(← takes (word "pub")) then return false
  let place := group .parenthesis (oneWord ["crate", "self", "super"])
  let path := group .parenthesis do
    let _ ← word "in"
    Attribute.modulePath
  maybe (orElse (do let _ ← place) (do let _ ← path))
  return true

/-- Bounds up to a token that ends them. -/
def boundsUntil (g : Grammar) (stop : Parser Bool) : Parser (List Bound) :=
  separatedUntil stop (operator "+") g.bound

/-- Lifetimes that a lifetime outlives. -/
def lifetimesUntil (stop : Parser Bool) : Parser Unit := do
  let _ ← separatedUntil stop (operator "+") lifetime

def typeParameter (g : Grammar) : Parser Unit := do
  let _ ← orElse identifier (word "_")
  if ← takes (operator ":") then
    let _ ← boundsUntil g (follows (oneOperator [",", ">", "="]))
  if ← takes (operator "=") then
    let _ ← g.type true

def constantParameter (g : Grammar) : Parser Unit := do
  let _ ← word "const"
  let _ ← identifier
  operator ":"
  let _ ← g.type true
  if ← takes (operator "=") then constant g

def genericParameter (g : Grammar) : Parser Unit := do
  let _ ← Attribute.outers g
  if ← takes lifetime then
    if ← takes (operator ":") then lifetimesUntil (follows (oneOperator [",", ">"]))
  else if ← follows (word "const") then constantParameter g
  else typeParameter g

/-- Parameters in angle brackets, and whether there are any. -/
def genericParameters (g : Grammar) : Parser Bool := do
  if !(← takes (operator "<")) then return false
  let parameters ← commaListUntil ">" (genericParameter g)
  operator ">"
  return !parameters.isEmpty

/-- What ends conditions on types. -/
def conditionsStop : Parser Bool := do
  return (← ended) || (← follows brace) || (← follows (oneOperator [";", "="])) ||
    (← follows (operator ":")) && !(← follows (operator "::"))

def conditionStops : Parser Bool := do
  return (← conditionsStop) || (← follows (operator ","))

def condition (g : Grammar) : Parser Unit := do
  if (← follows lifetime) && (← followsAt 1 (operator ":")) then
    let _ ← lifetime
    operator ":"
    lifetimesUntil conditionStops
  else
    maybe (binder g)
    let _ ← g.type true
    operator ":"
    let _ ← boundsUntil g conditionStops

def conditions (g : Grammar) : Parser Unit := do
  if ← takes (word "where") then
    let _ ← separatedUntil conditionsStop (operator ",") (condition g)

/-- The parameter that stands for the value itself. -/
def receiver (g : Grammar) : Parser Unit := do
  let isReference ← takes (operator "&")
  if isReference then maybe lifetime
  maybe (word "mut")
  let _ ← word "self"
  if !isReference then
    if ← takes (operator ":") then
      let _ ← g.type true

/-- What a parameter is; dots stand for any further ones. -/
inductive Parameter
  | receiver
  | typed
  | further
deriving DecidableEq

def furtherParameters : Parser Parameter := do
  operator "..."
  maybe (operator ",")
  require (← ended)
  return .further

def parameter (g : Grammar) : Parser Parameter := do
  let _ ← Attribute.outers g
  if ← follows (operator "...") then return ← furtherParameters
  if ← takes (receiver g) then return .receiver
  if (← follows identifier) && (← followsAt 1 (operator "<")) then
    let _ ← g.type true
    return .typed
  g.pattern false
  operator ":"
  if ← follows (operator "...") then return ← furtherParameters
  let _ ← g.type true
  return .typed

/-- The parameters of a function; a receiver is the first of them. -/
def parameters (g : Grammar) : Parser (List Parameter) := do
  let ps ← group .parenthesis (commaList (parameter g))
  require (!(ps.drop 1).contains .receiver)
  return ps.filter (· != .further)

structure Signature where
  name : Identifier
  isGeneric : Bool
  parameters : List Parameter
  result : Option SourceType

/-- The words in front of a function. -/
def functionWords (allowsSafe : Bool) : Parser Unit := do
  maybe (word "const")
  maybe (word "async")
  if allowsSafe then maybe (oneWord ["safe", "unsafe"]) else maybe (word "unsafe")
  maybe convention
  let _ ← word "fn"

def signature (g : Grammar) (allowsSafe : Bool) : Parser Signature := do
  functionWords allowsSafe
  let name ← identifier
  let isGeneric ← genericParameters g
  let parameters ← parameters g
  let result ← attempt do
    operator "->"
    g.type true
  conditions g
  return { name, isGeneric, parameters, result }

end Grammar

end ModelClasses.TraitSource
