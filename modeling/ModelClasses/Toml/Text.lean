import ModelClasses.Toml.Basic

/-! # Texts of TOML documents

Texts in double quotes have escapes, texts in single quotes have none; either kind may be written
over several lines between three quotes. -/

namespace ModelClasses.Toml

/-- What a reader finds in front of a text, and the text after it. -/
abbrev Scan (α : Type) := Option (α × List Char)

/-- Controls other than the tab stand in no text and in no comment. -/
def isForbidden (c : Char) : Bool := (c.toNat < 0x20 && c != '\t') || c.toNat == 0x7F

def isLineSpace (c : Char) : Bool := c == ' ' || c == '\t'

def hexValue? (c : Char) : Option Nat :=
  if c.isDigit then some (c.toNat - '0'.toNat)
  else if 'a' ≤ c ∧ c ≤ 'f' then some (c.toNat - 'a'.toNat + 10)
  else if 'A' ≤ c ∧ c ≤ 'F' then some (c.toNat - 'A'.toNat + 10)
  else none

/-- The character whose code has the given hexadecimal digits. -/
def scalarValue? (ds : List Char) : Option Char := do
  let values ← ds.mapM hexValue?
  let code := values.foldl (fun n d => 16 * n + d) 0
  if code.isValidChar then some (Char.ofNat code) else none

def simpleEscape? (c : Char) : Option Char :=
  if c = '"' ∨ c = '\\' then some c
  else if c = 'b' then some '\x08'
  else if c = 't' then some '\t'
  else if c = 'n' then some '\n'
  else if c = 'f' then some '\x0c'
  else if c = 'r' then some '\r'
  else none

/-- Whether the rest of a line is blank, so that a backslash before it joins the next line. -/
def endsLine (cs : List Char) : Bool :=
  match cs.dropWhile isLineSpace with
  | '\n' :: _ => true
  | '\r' :: '\n' :: _ => true
  | _ => false

def isBlank (c : Char) : Bool := isLineSpace c || c == '\n' || c == '\r'

/-- The characters of a text with escapes. After a backslash at the end of a line, blanks and line
ends are `skipping`. -/
def unescape (skipping : Bool) : List Char → Option (List Char)
  | [] => some []
  | '\\' :: 'u' :: a :: b :: c :: d :: rest =>
    match scalarValue? [a, b, c, d] with
    | some x => (unescape false rest).map (x :: ·)
    | none => none
  | '\\' :: 'U' :: a :: b :: c :: d :: e :: f :: g :: h :: rest =>
    match scalarValue? [a, b, c, d, e, f, g, h] with
    | some x => (unescape false rest).map (x :: ·)
    | none => none
  | '\\' :: c :: rest =>
    match simpleEscape? c with
    | some x => (unescape false rest).map (x :: ·)
    | none => if endsLine (c :: rest) then unescape true rest else none
  | '\r' :: '\n' :: rest =>
    if skipping then unescape true rest else (unescape false rest).map ('\n' :: ·)
  | c :: rest =>
    if skipping && isBlank c then unescape true rest
    else (unescape false rest).map (c :: ·)

/-- The characters of a text up to its closing quote, its escapes left as they are. -/
def spanQuoted : List Char → Scan (List Char)
  | [] => none
  | '"' :: rest => some ([], rest)
  | '\\' :: c :: rest =>
    if isForbidden c then none else (spanQuoted rest).map fun r => ('\\' :: c :: r.1, r.2)
  | c :: rest => if isForbidden c then none else (spanQuoted rest).map fun r => (c :: r.1, r.2)

def spanLiteral : List Char → Scan (List Char)
  | [] => none
  | '\'' :: rest => some ([], rest)
  | c :: rest => if isForbidden c then none else (spanLiteral rest).map fun r => (c :: r.1, r.2)

/-- The characters of a text over several lines. Up to two quotes may stand directly before the
three that close the text; `escapes` tells whether a backslash has a meaning. -/
def spanLines (quote : Char) (escapes : Bool) : List Char → Scan (List Char)
  | [] => none
  | a :: b :: c :: rest =>
    if a = quote ∧ b = quote ∧ c = quote then
      match rest with
      | d :: e :: after =>
        if d = quote ∧ e = quote then some ([quote, quote], after)
        else if d = quote then some ([quote], e :: after)
        else some ([], rest)
      | [d] => if d = quote then some ([quote], []) else some ([], [d])
      | [] => some ([], [])
    else if escapes ∧ a = '\\' then
      (spanLines quote escapes (c :: rest)).map fun r => (a :: b :: r.1, r.2)
    else if a = '\r' ∧ b = '\n' then
      (spanLines quote escapes (b :: c :: rest)).map fun r => (a :: r.1, r.2)
    else if isForbidden a ∧ a ≠ '\n' then none
    else (spanLines quote escapes (b :: c :: rest)).map fun r => (a :: r.1, r.2)
  | _ => none

/-- A line end directly after the opening quotes is no part of the text. -/
def dropFirstLine : List Char → List Char
  | '\n' :: rest => rest
  | '\r' :: '\n' :: rest => rest
  | cs => cs

def joinLines : List Char → List Char
  | '\r' :: '\n' :: rest => '\n' :: joinLines rest
  | c :: rest => c :: joinLines rest
  | [] => []

/-- A text on one line, in front of other text. -/
def readLineText : List Char → Scan String
  | '"' :: rest =>
    (spanQuoted rest).bind fun r => (unescape false r.1).map fun cs => (String.ofList cs, r.2)
  | '\'' :: rest => (spanLiteral rest).map fun r => (String.ofList r.1, r.2)
  | _ => none

/-- A text of any kind, in front of other text. -/
def readText : List Char → Scan String
  | '"' :: '"' :: '"' :: rest =>
    (spanLines '"' true (dropFirstLine rest)).bind fun r =>
      (unescape false r.1).map fun cs => (String.ofList cs, r.2)
  | '\'' :: '\'' :: '\'' :: rest =>
    (spanLines '\'' false (dropFirstLine rest)).map fun r => (String.ofList (joinLines r.1), r.2)
  | cs => readLineText cs

end ModelClasses.Toml
