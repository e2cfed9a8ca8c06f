import ModelClasses.TraitSource.Literal
import ModelClasses.TraitSource.Token

/-! # Parsers of trait source

A parser takes tokens from the front of a list and keeps what it took. What was taken is kept with
every operator whole, so that it can be shown in one form however it was written. -/

namespace ModelClasses.TraitSource

structure ParserState where
  rest : Tokens
  /-- The tokens taken so far, the latest first. -/
  taken : Tokens := []

abbrev Parser (α : Type) := StateT ParserState Option α

namespace Parser

variable {α β : Type}

def fail : Parser α := fun _ => none

/-- What `p` gives for all of the tokens. -/
def run? (p : Parser α) (ts : Tokens) : Option α :=
  match p ⟨ts, []⟩ with
  | some (a, ⟨[], _⟩) => some a
  | _ => none

/-- The parser `p`, or nothing where `p` does not apply. -/
def attempt (p : Parser α) : Parser (Option α) := fun s =>
  match p s with
  | some (a, t) => some (some a, t)
  | none => some (none, s)

/-- Takes `p` where it applies, and tells whether it did. -/
def takes (p : Parser α) : Parser Bool := do
  return (← attempt p).isSome

def maybe (p : Parser α) : Parser Unit := do
  let _ ← attempt p

def orElse (p : Parser α) (q : Parser α) : Parser α := fun s =>
  match p s with
  | some r => some r
  | none => q s

/-- Whether `p` applies after the next `n` tokens. Nothing is taken. -/
def followsAt (n : Nat) (p : Parser α) : Parser Bool := fun s =>
  some ((p ⟨s.rest.drop n, []⟩).isSome, s)

def follows (p : Parser α) : Parser Bool := followsAt 0 p

/-- A condition without which nothing applies. -/
def require (condition : Bool) : Parser Unit := if condition then pure () else fail

/-- Whether no token is left. -/
def ended : Parser Bool := fun s => some (s.rest.isEmpty, s)

/-- What `p` gives, and the tokens that it took. -/
def captured (p : Parser α) : Parser (α × Tokens) := fun s =>
  match p ⟨s.rest, []⟩ with
  | some (a, t) => some ((a, t.taken.reverse), ⟨t.rest, t.taken ++ s.taken⟩)
  | none => none

/-- Takes `p` without keeping its tokens. -/
def unshown (p : Parser α) : Parser α := fun s =>
  match p s with
  | some (a, t) => some (a, ⟨t.rest, s.taken⟩)
  | none => none

/-- Keeps tokens as if they had been taken. -/
def show_ (ts : Tokens) : Parser Unit := fun s => some ((), ⟨s.rest, ts.reverse ++ s.taken⟩)

/-- The parser `p` for as long as it applies, at most `fuel` times. -/
def repeated (p : Parser α) : Nat → Parser (List α)
  | 0 => pure []
  | fuel + 1 => do
    match ← attempt p with
    | some a => return a :: (← repeated p fuel)
    | none => return []

/-- A parser that takes at least a token applies at most once for every token. -/
def many (p : Parser α) : Parser (List α) := fun s => repeated p s.rest.length s

/-- Up to `stop`, items with a separator between them; one may stand at the end. -/
def listUpTo (stop : Parser Bool) (separator : Parser β) (item : Parser α) : Nat → Parser (List α)
  | 0 => fail
  | fuel + 1 => do
    if ← stop then return []
    let a ← item
    if ← stop then return [a]
    let _ ← separator
    return a :: (← listUpTo stop separator item fuel)

def separatedUntil (stop : Parser Bool) (separator : Parser β) (item : Parser α) :
    Parser (List α) :=
  fun s => listUpTo stop separator item (s.rest.length + 1) s

/-- Takes a token that satisfies `f`. -/
def token (f : TokenTree → Bool) : Parser TokenTree := fun s =>
  match s.rest with
  | t :: rest => if f t then some (t, ⟨rest, t :: s.taken⟩) else none
  | [] => none

/-- The tokens after punctuation characters that follow one another directly. Behind the last one
another may follow directly. -/
def dropOperator : List Char → Tokens → Option Tokens
  | [], ts => some ts
  | [c], .punct d _ :: rest => if c = d then some rest else none
  | c :: more, .punct d true :: rest => if c = d then dropOperator more rest else none
  | _, _ => none

/-- The tokens of an operator. -/
def operatorTokens : List Char → Tokens
  | [] => []
  | [c] => [.punct c false]
  | c :: rest => .punct c true :: operatorTokens rest

def operator (text : String) : Parser Unit := fun s =>
  (dropOperator text.toList s.rest).map fun rest =>
    ((), ⟨rest, (operatorTokens text.toList).reverse ++ s.taken⟩)

/-- The first of several operators that stands in front. -/
def oneOperator : List String → Parser Unit
  | [] => fail
  | text :: rest => orElse (operator text) (oneOperator rest)

def keywords : List String := [
  "_", "abstract", "as", "async", "await", "become", "box", "break", "const", "continue", "crate",
  "do", "dyn", "else", "enum", "extern", "false", "final", "fn", "for", "if", "impl", "in", "let",
  "loop", "macro", "match", "mod", "move", "mut", "override", "priv", "pub", "ref", "return",
  "Self", "self", "static", "struct", "super", "trait", "true", "try", "type", "typeof", "unsafe",
  "unsized", "use", "virtual", "where", "while", "yield"]

/-- A name that satisfies `f`. -/
def name (f : Identifier → Bool) : Parser Identifier := fun s =>
  match s.rest with
  | .identifier i :: rest => if f i then some (i, ⟨rest, .identifier i :: s.taken⟩) else none
  | _ => none

/-- A name of any kind, keywords included. -/
def anyIdentifier : Parser Identifier := name fun _ => true

/-- A name that is no keyword; a raw name is none. -/
def identifier : Parser Identifier := name fun i => i.raw || !keywords.contains i.name

/-- One of several words. -/
def oneWord (texts : List String) : Parser Identifier :=
  name fun i => !i.raw && texts.contains i.name

def word (text : String) : Parser Identifier := oneWord [text]

def lifetime : Parser TokenTree := token fun
  | .lifetime _ => true
  | _ => false

/-- A literal, which the words for truth values are too. -/
def literal : Parser SourceLiteral := fun s =>
  match s.rest with
  | .literal text :: rest => some (.ofText text, ⟨rest, .literal text :: s.taken⟩)
  | .identifier ⟨"true", false⟩ :: rest =>
    some (⟨"true".toList, .bool true⟩, ⟨rest, .identifier ⟨"true", false⟩ :: s.taken⟩)
  | .identifier ⟨"false", false⟩ :: rest =>
    some (⟨"false".toList, .bool false⟩, ⟨rest, .identifier ⟨"false", false⟩ :: s.taken⟩)
  | _ => none

def number : Parser SourceLiteral := do
  let l ← literal
  match l.value with
  | .integer _ => return l
  | .decimal .. => return l
  | _ => fail

/-- A literal, or a number with a minus sign before it. -/
def signedLiteral : Parser SourceLiteral :=
  orElse literal do
    operator "-"
    number

/-- A group whose tokens `p` takes all. -/
def group (d : Delimiter) (p : Parser α) : Parser α := fun s =>
  match s.rest with
  | .group e ts :: rest =>
    if d = e then
      match p ⟨ts, []⟩ with
      | some (a, ⟨[], taken⟩) => some (a, ⟨rest, .group d taken.reverse :: s.taken⟩)
      | _ => none
    else none
  | _ => none

/-- A group as it is. -/
def rawGroup (f : Delimiter → Bool) : Parser (Delimiter × Tokens) := fun s =>
  match s.rest with
  | .group d ts :: rest => if f d then some ((d, ts), ⟨rest, .group d ts :: s.taken⟩) else none
  | _ => none

def anyGroup : Parser (Delimiter × Tokens) := rawGroup fun _ => true

def parenthesis : Parser (Delimiter × Tokens) := rawGroup (· == .parenthesis)

def bracket : Parser (Delimiter × Tokens) := rawGroup (· == .bracket)

def brace : Parser (Delimiter × Tokens) := rawGroup (· == .brace)

/-- Up to the end, items with commas between them. -/
def commaList (item : Parser α) : Parser (List α) := separatedUntil ended (operator ",") item

/-- Up to an operator, items with commas between them. -/
def commaListUntil (stop : String) (item : Parser α) : Parser (List α) :=
  separatedUntil (follows (operator stop)) (operator ",") item

end Parser

end ModelClasses.TraitSource
