import ModelClasses.Text.Quoted
import ModelClasses.TraitSource.Literal
import ModelClasses.TraitSource.Token

/-! # Reading tokens of trait source

Text is cut into lexemes, and then delimited ones are nested. Comments are dropped, except for
documentation, which stands for an attribute. -/

namespace ModelClasses.TraitSource

/-- A token, or the mark at either end of a group. -/
inductive Lexeme
  | token (t : TokenTree)
  | opening (d : Delimiter)
  | closing (d : Delimiter)

namespace Lexeme

abbrev Scan (α : Type) := Option (α × List Char)

def isBlank (c : Char) : Bool := Text.isBlank c || c == '\u200e' || c == '\u200f'

/-- The text after a comment in which `depth` comments are open. -/
def skipComment (depth : Nat) : List Char → Option (List Char)
  | [] => none
  | '*' :: '/' :: rest => if depth ≤ 1 then some rest else skipComment (depth - 1) rest
  | '/' :: '*' :: rest => skipComment (depth + 1) rest
  | _ :: rest => skipComment depth rest

def skipLine (cs : List Char) : List Char := cs.dropWhile (· != '\n')

/-- The text after blanks and comments; each takes one from `fuel`. -/
def skipBlanks : Nat → List Char → List Char
  | 0, cs => cs
  | fuel + 1, cs =>
    match cs with
    | '/' :: '/' :: '/' :: '/' :: rest => skipBlanks fuel (skipLine rest)
    | '/' :: '/' :: '/' :: _ => cs
    | '/' :: '/' :: '!' :: _ => cs
    | '/' :: '/' :: rest => skipBlanks fuel (skipLine rest)
    | '/' :: '*' :: '*' :: '/' :: rest => skipBlanks fuel rest
    | '/' :: '*' :: '*' :: '*' :: rest =>
      match skipComment 1 ('*' :: '*' :: rest) with
      | some after => skipBlanks fuel after
      | none => cs
    | '/' :: '*' :: '*' :: _ => cs
    | '/' :: '*' :: '!' :: _ => cs
    | '/' :: '*' :: rest =>
      match skipComment 1 rest with
      | some after => skipBlanks fuel after
      | none => cs
    | c :: rest => if isBlank c then skipBlanks fuel rest else cs
    | [] => []

/-- A carriage return stands only before a line feed. -/
def hasBareReturn : List Char → Bool
  | [] => false
  | '\r' :: '\n' :: rest => hasBareReturn rest
  | c :: rest => c == '\r' || hasBareReturn rest

/-- The lexemes of the attribute that documentation stands for. -/
def documentation (inner : Bool) (content : List Char) : List Lexeme :=
  let quoted := (Text.quoted (String.ofList content)).toList
  [.token (.punct '#' false)] ++ (if inner then [.token (.punct '!' false)] else []) ++
    [.opening .bracket, .token (.identifier ⟨"doc", false⟩), .token (.punct '=' false),
      .token (.literal quoted), .closing .bracket]

def lineContent (cs : List Char) : List Char :=
  let line := cs.takeWhile (· != '\n')
  if line.getLast? = some '\r' then line.dropLast else line

/-- Documentation in front of a text. -/
def documentation? (cs : List Char) : Scan (List Lexeme) :=
  let line (inner : Bool) (rest : List Char) : Scan (List Lexeme) :=
    if (lineContent rest).contains '\r' then none
    else some (documentation inner (lineContent rest), skipLine rest)
  let block (inner : Bool) (rest : List Char) : Scan (List Lexeme) :=
    (skipComment 1 rest).bind fun after =>
      let content := rest.take (rest.length - after.length - 2)
      if hasBareReturn content then none else some (documentation inner content, after)
  match cs with
  | '/' :: '/' :: '/' :: rest => line false rest
  | '/' :: '/' :: '!' :: rest => line true rest
  | '/' :: '*' :: '*' :: rest => block false rest
  | '/' :: '*' :: '!' :: rest => block true rest
  | _ => none

/-- The letters of a name in front of a text. -/
def plainName? (cs : List Char) : Scan String :=
  match cs with
  | c :: rest =>
    if Text.startsIdentifier c then
      some (String.ofList (c :: rest.takeWhile Text.continuesIdentifier),
        rest.dropWhile Text.continuesIdentifier)
    else none
  | [] => none

/-- The words that have no raw form. -/
def neverRaw : List String := ["_", "super", "self", "Self", "crate"]

def identifier? (cs : List Char) : Scan Identifier :=
  match cs with
  | 'r' :: '#' :: rest =>
    (plainName? rest).bind fun r => if neverRaw.contains r.1 then none else some (⟨r.1, true⟩, r.2)
  | _ => (plainName? cs).map fun r => (⟨r.1, false⟩, r.2)

/-- The starts of literals, which are no names. -/
def literalStarts : List (List Char) :=
  ["r\"".toList, "r##".toList, "b\"".toList, "b'".toList, "br\"".toList, "br#".toList,
    "c\"".toList, "cr\"".toList, "cr#".toList, "r#\"".toList]

def name? (cs : List Char) : Scan Identifier :=
  if literalStarts.any (·.isPrefixOf cs) then none else identifier? cs

def punctuation : List Char := "~!@#$%^&*-=+|;:,<.>/?'".toList

/-- The punctuation character in front of a text; the start of a comment is none. -/
def mark? : List Char → Scan Char
  | '/' :: '/' :: _ => none
  | '/' :: '*' :: _ => none
  | c :: rest => if punctuation.contains c then some (c, rest) else none
  | [] => none

/-- A lifetime is a quote and a name, with no further quote behind. -/
def lifetime? (cs : List Char) : Scan TokenTree :=
  match identifier? cs with
  | some (i, rest) =>
    if rest.head? = some '\'' ∨ (rest.head? = some '#' ∧ !i.raw) then none
    else some (.lifetime i, rest)
  | none => none

def punct? (cs : List Char) : Scan TokenTree :=
  match mark? cs with
  | some (c, rest) =>
    if c = '\'' then lifetime? rest else some (.punct c (mark? rest).isSome, rest)
  | none => none

def delimiter? (c : Char) : Option Lexeme :=
  if c = '(' then some (.opening .parenthesis)
  else if c = ')' then some (.closing .parenthesis)
  else if c = '[' then some (.opening .bracket)
  else if c = ']' then some (.closing .bracket)
  else if c = '\x7b' then some (.opening .brace)
  else if c = '\x7d' then some (.closing .brace)
  else none

/-- The token in front of a text: a literal, punctuation, or a name. -/
def leaf? (cs : List Char) : Scan TokenTree :=
  match SourceLiteral.read? cs with
  | some (l, rest) => some (.literal l.text, rest)
  | none =>
    match punct? cs with
    | some r => some r
    | none => (name? cs).map fun r => (.identifier r.1, r.2)

/-- The lexemes in front of a text that starts with no blank. -/
def next? (cs : List Char) : Scan (List Lexeme) :=
  match documentation? cs with
  | some r => some r
  | none =>
    match cs with
    | c :: rest =>
      match delimiter? c with
      | some l => some ([l], rest)
      | none => (leaf? cs).map fun r => ([.token r.1], r.2)
    | [] => none

/-- The lexemes of a text; each step takes one from `fuel`. -/
def readAll : Nat → List Char → Option (List Lexeme)
  | 0, _ => none
  | fuel + 1, cs =>
    match skipBlanks (cs.length + 1) cs with
    | [] => some []
    | rest => (next? rest).bind fun r => (readAll fuel r.2).map (r.1 ++ ·)

end Lexeme

/-- The groups that are open, each with the tokens before the current ones, the latest first. -/
abbrev OpenGroups := List (Delimiter × Tokens)

/-- Tokens of lexemes, with the groups nested. Tokens read so far are held in reverse. -/
def nest (groups : OpenGroups) (tokens : Tokens) : List Lexeme → Option Tokens
  | [] => if groups.isEmpty then some tokens.reverse else none
  | .token t :: rest => nest groups (t :: tokens) rest
  | .opening d :: rest => nest ((d, tokens) :: groups) [] rest
  | .closing d :: rest =>
    match groups with
    | (e, before) :: outer =>
      if d = e then nest outer (.group d tokens.reverse :: before) rest else none
    | [] => none

/-- A byte order mark in front of a text is no part of it. -/
def dropMark : List Char → List Char
  | c :: rest => if c = '\ufeff' then rest else c :: rest
  | [] => []

/-- The tokens of source text, if all of it is tokens and the groups are balanced. -/
def Tokens.read? (source : String) : Option Tokens :=
  let cs := dropMark source.toList
  (Lexeme.readAll (cs.length + 1) cs).bind (nest [] [])

end ModelClasses.TraitSource
