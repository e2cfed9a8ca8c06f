import ModelClasses.TraitSource.Statement

/-! # Items of trait source: the rules

The rules for items and what is inside them. Items that no declaration is read from are read over. -/

namespace ModelClasses.TraitSource

open TraitSource.Parser

namespace Grammar

/-- A name, or an underscore in its place. -/
def nameOrBlank : Parser Identifier := orElse identifier (word "_")

def bodyOrSemicolon (g : Grammar) : Parser Bool := do
  if ← takes (operator ";") then return false
  g.block
  return true

def fieldType (g : Grammar) : Parser SourceType := do
  operator ":"
  g.type true

def namedField (g : Grammar) : Parser (Identifier × SourceType) := do
  let _ ← Attribute.outers g
  let _ ← visibility
  let name ← nameOrBlank
  return (name, ← fieldType g)

def namedFields (g : Grammar) : Parser (List (Identifier × SourceType)) :=
  group .brace (commaList (namedField g))

def tupleField (g : Grammar) : Parser Unit := do
  let _ ← Attribute.outers g
  let _ ← visibility
  let _ ← g.type true

def tupleFields (g : Grammar) : Parser Unit := do
  let _ ← group .parenthesis (commaList (tupleField g))

/-- A value behind an equals sign, if there is one. -/
def maybeValue (g : Grammar) : Parser Unit := do
  if ← takes (operator "=") then
    let _ ← g.expression true

/-- A constant behind its word. -/
def constantBehind (g : Grammar) : Parser Unit := do
  let _ ← nameOrBlank
  let _ ← genericParameters g
  let _ ← fieldType g
  maybeValue g
  conditions g
  operator ";"

/-- The name of a type, its parameters, bounds and definition. Conditions stand in front of the
definition or behind it. -/
def typeAlias (g : Grammar) (conditionsFirst conditionsLast : Bool) : Parser Unit := do
  let _ ← word "type"
  let _ ← identifier
  let _ ← genericParameters g
  if ← takes (operator ":") then
    let _ ← boundsUntil g do
      return (← follows (word "where")) || (← follows (oneOperator ["=", ";"]))
  if conditionsFirst then conditions g
  if ← takes (operator "=") then
    let _ ← g.type true
  if conditionsLast then conditions g
  operator ";"

/-- An invocation that stands for items. -/
def memberInvocation : Parser Unit := do
  let _ ← Attribute.modulePath
  operator "!"
  let (d, _) ← anyGroup
  if d != .brace then operator ";"

def functionFollows (allowsSafe : Bool) : Parser Bool := follows (functionWords allowsSafe)

/-- A function of an interface. -/
def methodBehind (g : Grammar) (attributes : List Attribute) : Parser Method := do
  let s ← signature g false
  let hasBody ← bodyOrSemicolon g
  return {
    attributes, name := s.name, takesOnlyReceiver := s.parameters == [.receiver]
    isGeneric := s.isGeneric, hasBody, result := s.result }

/-- A member of an interface, if it is a function without a mark in front. -/
def interfaceMember (g : Grammar) : Parser (Option Method) := do
  let attributes ← Attribute.outers g
  let isVisible ← visibility
  let isDefault ← takes (word "default")
  let isMarked := isVisible || isDefault
  if ← functionFollows false then
    let m ← methodBehind g attributes
    return if isMarked then none else some m
  if ← takes (word "const") then constantBehind g
  else if ← follows (word "type") then typeAlias g false true
  else
    require !isMarked
    memberInvocation
  return none

/-- An interface behind its name and parameters. -/
def interfaceBehind (g : Grammar) (attributes : List Attribute) (name : Identifier) :
    Parser SourceItem := do
  let stop : Parser Bool := do return (← follows (word "where")) || (← follows brace)
  let supertypes ← if ← takes (operator ":") then boundsUntil g stop else pure []
  conditions g
  let (inner, members) ← group .brace do
    let inner ← Attribute.inners g
    return (inner, ← many (interfaceMember g))
  return .interface (attributes ++ inner) name (supertypes.filterMap Bound.type?)
    (members.filterMap id)

/-- A name for a sum of bounds. -/
def boundAlias (g : Grammar) : Parser Unit := do
  operator "="
  let _ ← boundsUntil g do
    return (← follows (word "where")) || (← follows (operator ";"))
  conditions g
  operator ";"

def interface (g : Grammar) (attributes : List Attribute) : Parser (Option SourceItem) := do
  let isUnsafe ← takes (word "unsafe")
  let isAuto ← takes (word "auto")
  let _ ← word "trait"
  let name ← identifier
  let _ ← genericParameters g
  if !isUnsafe && !isAuto && (← follows (operator "=")) then
    boundAlias g
    return none
  return some (← interfaceBehind g attributes name)

def structFields (g : Grammar) : Parser StructFields := do
  if ← follows parenthesis then
    tupleFields g
    conditions g
    operator ";"
    return .tuple
  conditions g
  if ← takes (operator ";") then return .unit
  return .named (← namedFields g)

def struct (g : Grammar) (attributes : List Attribute) : Parser SourceItem := do
  let _ ← word "struct"
  let name ← identifier
  let _ ← genericParameters g
  return .struct attributes name (← structFields g)

def variant (g : Grammar) : Parser Identifier := do
  let _ ← Attribute.outers g
  let _ ← visibility
  let name ← identifier
  if ← follows brace then
    let _ ← namedFields g
  else if ← follows parenthesis then tupleFields g
  maybeValue g
  return name

def enumeration (g : Grammar) (attributes : List Attribute) : Parser SourceItem := do
  let _ ← word "enum"
  let name ← identifier
  let _ ← genericParameters g
  conditions g
  return .enum attributes name (← group .brace (commaList (variant g)))

def union (g : Grammar) : Parser Unit := do
  let _ ← word "union"
  let _ ← identifier
  let _ ← genericParameters g
  conditions g
  let _ ← namedFields g

/-- Items up to the end. -/
def items (g : Grammar) : Parser (List SourceItem) := do
  let _ ← Attribute.inners g
  return (← many g.item).filterMap id

/-- A module; one that is kept elsewhere has no items here. -/
def module (g : Grammar) : Parser (Option SourceItem) := do
  maybe (word "unsafe")
  let _ ← word "mod"
  let name ← orElse identifier (word "try")
  if ← takes (operator ";") then return none
  return some (.module name (← group .brace (items g)))

def implementationMember (g : Grammar) : Parser Unit := do
  let _ ← Attribute.outers g
  let isVisible ← visibility
  let isDefault ← takes do
    let _ ← word "default"
    require !(← follows (operator "!"))
  if ← functionFollows false then
    let _ ← signature g false
    let _ ← bodyOrSemicolon g
  else if ← takes (word "const") then constantBehind g
  else if ← follows (word "type") then typeAlias g false true
  else
    require (!isVisible && !isDefault)
    memberInvocation

/-- Whether type parameters stand behind the word that starts an implementation: a type in angle
brackets may stand there too. -/
def implementationParametersFollow : Parser Bool := do
  let isName := (← followsAt 1 lifetime) || (← followsAt 1 identifier)
  let isParameter := (← followsAt 2 (oneOperator [">", ",", "="])) ||
    (← followsAt 2 (operator ":")) && !(← followsAt 2 (operator "::"))
  return (← follows (operator "<")) && ((← followsAt 1 (oneOperator [">", "#"])) ||
    isName && isParameter || (← followsAt 1 (word "const")))

/-- The last name of a type that is written as a path. -/
def targetOf? : SourceType → Option Identifier
  | .named _ name _ => some name
  | .function name => some name
  | .projection name _ => some name
  | _ => none

/-- What is implemented, and for which type. Only a path can name an interface. -/
def implementationOf? (implemented : SourceType) (self : Option SourceType) : Option SourceItem :=
  match implemented, self with
  | .named .., some t => some (.implementation implemented (targetOf? t))
  | .function _, some t => some (.implementation implemented (targetOf? t))
  | _, _ => none

def implementation (g : Grammar) (isVisible : Bool) : Parser (Option SourceItem) := do
  maybe (word "default")
  maybe (word "unsafe")
  let _ ← word "impl"
  if ← implementationParametersFollow then
    let _ ← genericParameters g
  let isConstant ← takes do
    maybe (operator "?")
    word "const"
  if !(← followsAt 1 brace) then maybe (operator "!")
  let first ← g.type true
  let self ← attempt do
    let _ ← word "for"
    g.type true
  conditions g
  let _ ← group .brace do
    let _ ← Attribute.inners g
    many (implementationMember g)
  return if isVisible || isConstant then none else implementationOf? first self

def rename : Parser Unit := do
  let _ ← word "as"
  let _ ← nameOrBlank

/-- The names that are brought in; trees in braces may nest as deep as `fuel`. -/
def useTree : Nat → Parser Unit
  | 0 => fail
  | fuel + 1 => do
    if ← takes (operator "*") then return
    if ← follows brace then
      let _ ← group .brace <| commaList do
        maybe (operator "::")
        useTree fuel
      return
    let _ ← orElse identifier (oneWord ["self", "super", "crate", "try"])
    if ← takes (operator "::") then useTree fuel else maybe rename

def use : Parser Unit := do
  let _ ← word "use"
  maybe (operator "::")
  fun s => useTree (TokenTree.listSize s.rest + 1) s
  operator ";"

def externCrate : Parser Unit := do
  let _ ← word "extern"
  let _ ← word "crate"
  let _ ← orElse identifier (word "self")
  maybe rename
  operator ";"

def static (g : Grammar) : Parser Unit := do
  let _ ← word "static"
  maybe (word "mut")
  let _ ← identifier
  if ← takes (operator ":") then
    let _ ← g.type true
  maybeValue g
  operator ";"

def foreignMember (g : Grammar) : Parser Unit := do
  let _ ← Attribute.outers g
  let isVisible ← visibility
  if ← functionFollows true then
    let _ ← signature g true
    let _ ← bodyOrSemicolon g
  else if (← follows (word "static")) ||
      (← follows (oneWord ["safe", "unsafe"])) && (← followsAt 1 (word "static")) then
    maybe (oneWord ["safe", "unsafe"])
    static g
  else if ← follows (word "type") then typeAlias g true true
  else
    require !isVisible
    memberInvocation

def foreignMembers (g : Grammar) : Parser Unit := do
  maybe (word "unsafe")
  convention
  let _ ← group .brace do
    let _ ← Attribute.inners g
    many (foreignMember g)

def externItem (g : Grammar) : Parser Unit := do
  if ← followsAt 1 (word "crate") then externCrate else foreignMembers g

/-- A definition of an invocation. -/
def definition : Parser Unit := do
  let _ ← word "macro"
  let _ ← identifier
  maybe parenthesis
  let _ ← brace

/-- An invocation in place of an item; one that defines a name has it behind the mark. -/
def itemInvocation : Parser Unit := do
  let _ ← Attribute.modulePath
  operator "!"
  maybe (orElse identifier (word "try"))
  let (d, _) ← anyGroup
  if d != .brace then operator ";"

def functionItem (g : Grammar) : Parser Unit := do
  let _ ← signature g false
  let _ ← bodyOrSemicolon g

def unsafeItem (g : Grammar) (attributes : List Attribute) (isVisible : Bool) :
    Parser (Option SourceItem) := do
  if ← followsAt 1 (oneWord ["trait", "auto"]) then return ← interface g attributes
  if ← followsAt 1 (word "impl") then return ← implementation g isVisible
  if ← followsAt 1 (word "mod") then return ← module g
  foreignMembers g
  return none

/-- An item that no declaration is read from. -/
def skippedItem (g : Grammar) (isVisible : Bool) : Parser Unit := do
  if ← follows (word "extern") then return ← externItem g
  if ← follows (word "use") then return ← use
  if ← follows (word "static") then return ← static g
  if ← takes (word "const") then return ← constantBehind g
  if ← follows (word "type") then return ← typeAlias g true false
  if (← follows (word "union")) && (← followsAt 1 identifier) then return ← union g
  if ← follows (word "macro") then return ← definition
  require !isVisible
  itemInvocation

def itemRule (g : Grammar) : Parser (Option SourceItem) := do
  let attributes ← Attribute.outers g
  let isVisible ← visibility
  if ← functionFollows false then
    functionItem g
    return none
  if ← follows (word "unsafe") then return ← unsafeItem g attributes isVisible
  if ← follows (word "mod") then return ← module g
  if ← follows (word "struct") then return some (← struct g attributes)
  if ← follows (word "enum") then return some (← enumeration g attributes)
  if (← follows (word "trait")) || (← follows (word "auto")) && (← followsAt 1 (word "trait")) then
    return ← interface g attributes
  if (← follows (word "impl")) ||
      (← follows (word "default")) && !(← followsAt 1 (operator "!")) then
    return ← implementation g isVisible
  skippedItem g isVisible
  return none

end Grammar

end ModelClasses.TraitSource
