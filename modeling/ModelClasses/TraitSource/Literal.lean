import ModelClasses.Text.CharClass

/-! # Literal tokens of trait source

What literal tokens look like and what they denote. -/

namespace ModelClasses.TraitSource

inductive LiteralValue
  | string (value : String)
  | char (value : Char)
  | bool (value : Bool)
  | integer (value : Nat)
  /-- Decimal digits, with a suffix for single precision or without. -/
  | decimal (isSingle : Bool) (digits : List Char)
  /-- A literal that stands for no value of an argument. -/
  | other
deriving DecidableEq

/-- A literal as it is written, and what it denotes. -/
structure SourceLiteral where
  text : List Char
  value : LiteralValue
deriving DecidableEq

namespace SourceLiteral

/-- What is found in front of a text, and the text after it. -/
abbrev Scan (α : Type) := Option (α × List Char)

def hexValue? (c : Char) : Option Nat :=
  if c.isDigit then some (c.toNat - '0'.toNat)
  else if 'a' ≤ c ∧ c ≤ 'f' then some (c.toNat - 'a'.toNat + 10)
  else if 'A' ≤ c ∧ c ≤ 'F' then some (c.toNat - 'A'.toNat + 10)
  else none

/-- Which escapes and characters a quoted literal may have. -/
inductive Coding
  | text
  | bytes
  | terminated
deriving DecidableEq

/-- The code of a braced escape with one to six digits and any underscores after the first. -/
def bracedCode? (n count : Nat) : List Char → Scan Nat
  | [] => none
  | c :: rest =>
    if c = '\x7d' then (if count = 0 then none else some (n, rest))
    else if c = '_' then (if count = 0 then none else bracedCode? n count rest)
    else
      match hexValue? c with
      | some d => if count < 6 then bracedCode? (16 * n + d) (count + 1) rest else none
      | none => none

def scalar? (code : Nat) : Option Char :=
  if code.isValidChar then some (Char.ofNat code) else none

def letterEscape? (c : Char) : Option Char :=
  if c = 'n' then some '\n'
  else if c = 'r' then some '\r'
  else if c = 't' then some '\t'
  else if c = '0' then some '\x00'
  else if c = '\\' ∨ c = '\'' ∨ c = '"' then some c
  else none

/-- The character of an escape after its backslash. -/
def escape? (coding : Coding) : List Char → Scan Char
  | 'x' :: a :: b :: rest =>
    match hexValue? a, hexValue? b with
    | some h, some l =>
      if coding = .text ∧ 8 ≤ h then none else some (Char.ofNat (16 * h + l), rest)
    | _, _ => none
  | 'u' :: '\x7b' :: rest =>
    if coding = .bytes then none
    else
      match bracedCode? 0 0 rest with
      | some (code, after) => (scalar? code).map fun c => (c, after)
      | none => none
  | c :: rest => (letterEscape? c).map fun x => (x, rest)
  | [] => none

/-- The text after a backslash at the end of a line, without the blanks and line ends there. A
carriage return stands only before a line feed. -/
def skipContinuation : List Char → Option (List Char)
  | [] => none
  | '\r' :: '\n' :: rest => skipContinuation rest
  | c :: rest =>
    if c = '\r' then none
    else if c = ' ' ∨ c = '\t' ∨ c = '\n' then skipContinuation rest
    else some (c :: rest)

/-- The characters of a quoted literal up to its closing quote. Each takes one from `fuel`. -/
def readCooked (coding : Coding) : Nat → List Char → Scan (List Char)
  | 0, _ => none
  | fuel + 1, cs =>
    match cs with
    | [] => none
    | '"' :: rest => some ([], rest)
    | '\r' :: '\n' :: rest => (readCooked coding fuel rest).map fun r => ('\n' :: r.1, r.2)
    | '\\' :: '\n' :: rest => (skipContinuation rest).bind (readCooked coding fuel)
    | '\\' :: '\r' :: rest => (skipContinuation ('\r' :: rest)).bind (readCooked coding fuel)
    | '\\' :: rest =>
      (escape? coding rest).bind fun e =>
        if coding = .terminated ∧ e.1 = '\x00' then none
        else (readCooked coding fuel e.2).map fun r => (e.1 :: r.1, r.2)
    | c :: rest =>
      if c = '\r' ∨ (coding = .bytes ∧ !Text.isAscii c) ∨ (coding = .terminated ∧ c = '\x00') then none
      else (readCooked coding fuel rest).map fun r => (c :: r.1, r.2)

/-- The text after the closing quote and marks of a raw literal. -/
def dropHashes : Nat → List Char → Option (List Char)
  | 0, cs => some cs
  | n + 1, '#' :: rest => dropHashes n rest
  | _ + 1, _ => none

/-- The characters of a raw literal that ends with a quote and `hashes` marks. -/
def readRaw (coding : Coding) (hashes : Nat) : List Char → Scan (List Char)
  | [] => none
  | c :: rest =>
    match (if c = '"' then dropHashes hashes rest else none) with
    | some after => some ([], after)
    | none =>
      if (c = '\r' ∧ rest.head? ≠ some '\n') ∨ (coding = .bytes ∧ !Text.isAscii c) ∨
          (coding = .terminated ∧ c = '\x00') then none
      else (readRaw coding hashes rest).map fun r => (c :: r.1, r.2)

/-- A raw literal after its letter: marks, a quote, and the characters. -/
def readHashed (coding : Coding) (cs : List Char) : Scan (List Char) :=
  let hashes := (cs.takeWhile (· == '#')).length
  match cs.drop hashes with
  | '"' :: rest => if hashes < 256 then readRaw coding hashes rest else none
  | _ => none

/-- The character of a literal in single quotes, and the text after the closing quote. -/
def readSingle (coding : Coding) (cs : List Char) : Scan Char :=
  let first : Scan Char :=
    match cs with
    | [] => none
    | '\\' :: rest => escape? coding rest
    | c :: rest => if coding = .bytes ∧ !Text.isAscii c then none else some (c, rest)
  match first with
  | some (c, '\'' :: rest) => some (c, rest)
  | _ => none

/-- A name directly behind a literal belongs to it. -/
def spanSuffix (cs : List Char) : List Char × List Char :=
  match cs with
  | c :: rest =>
    if Text.startsIdentifier c then
      (c :: rest.takeWhile Text.continuesIdentifier, rest.dropWhile Text.continuesIdentifier)
    else ([], cs)
  | [] => ([], [])

def isDigitOrBar (c : Char) : Bool := c.isDigit || c == '_'

/-- The point and the digits after it, if a fraction stands there. -/
def spanPoint (cs : List Char) : List Char × List Char :=
  match cs with
  | '.' :: rest =>
    match rest with
    | c :: _ =>
      if c = '.' ∨ Text.startsIdentifier c then ([], cs)
      else ('.' :: rest.takeWhile isDigitOrBar, rest.dropWhile isDigitOrBar)
    | [] => (['.'], [])
  | _ => ([], cs)

/-- The mark, sign and digits of an exponent; `some ([], cs)` when there is no mark, and `none` when
there is a mark without digits. -/
def spanPower (cs : List Char) : Scan (List Char) :=
  match cs with
  | c :: rest =>
    if c = 'e' ∨ c = 'E' then
      let bars := rest.takeWhile (· == '_')
      let afterBars := rest.dropWhile (· == '_')
      let sign := if afterBars.head? = some '+' ∨ afterBars.head? = some '-' then afterBars.take 1 else []
      let digits := (afterBars.drop sign.length).takeWhile isDigitOrBar
      if digits.any Char.isDigit then
        some (c :: bars ++ sign ++ digits, (afterBars.drop sign.length).dropWhile isDigitOrBar)
      else none
    else some ([], cs)
  | [] => some ([], [])

/-- The digits, fraction and exponent of a number that is not whole. -/
def spanDecimal (cs : List Char) : Scan (List Char) :=
  let whole := cs.takeWhile isDigitOrBar
  let (fraction, afterFraction) := spanPoint (cs.dropWhile isDigitOrBar)
  match spanPower afterFraction with
  | some (power, rest) =>
    if fraction.isEmpty && power.isEmpty then none else some (whole ++ fraction ++ power, rest)
  | none => if fraction.isEmpty then none else some (whole ++ fraction, afterFraction)

/-- The base of a whole number and its digits. -/
def splitBase : List Char → Nat × List Char
  | '0' :: 'x' :: rest => (16, rest)
  | '0' :: 'o' :: rest => (8, rest)
  | '0' :: 'b' :: rest => (2, rest)
  | cs => (10, cs)

/-- The value of the digits of a base, and the text after them. A decimal digit beyond the base is
no part of any number. -/
def readDigits (base : Nat) (started : Bool) (n : Nat) : List Char → Scan Nat
  | [] => if started then some (n, []) else none
  | c :: rest =>
    if c = '_' then (if !started && base = 10 then none else readDigits base started n rest)
    else
      match hexValue? c with
      | some d =>
        if d < base then readDigits base true (base * n + d) rest
        else if c.isDigit then none
        else if started then some (n, c :: rest) else none
      | none => if started then some (n, c :: rest) else none

/-- A name goes on where a number ends, so the number is none. -/
def breaksWord (cs : List Char) : Bool :=
  match cs with
  | c :: _ => !Text.continuesIdentifier c
  | [] => true

/-- A number in front of a text: its value, and the text after it and its suffix. -/
def readNumber (cs : List Char) : Scan LiteralValue :=
  match spanDecimal cs with
  | some (digits, rest) =>
    let (suffix, after) := spanSuffix rest
    if breaksWord after then
      some (.decimal (suffix = ['f', '3', '2']) (digits.filter (· != '_')), after)
    else none
  | none =>
    let (base, digits) := splitBase cs
    match readDigits base false 0 digits with
    | some (n, rest) =>
      let (_, after) := spanSuffix rest
      if breaksWord after then some (.integer n, after) else none
    | none => none

def readText (coding : Coding) (value : List Char → LiteralValue) (cs : List Char) :
    Scan LiteralValue :=
  (readCooked coding (cs.length + 1) cs).map fun r => (value r.1, (spanSuffix r.2).2)

def readRawText (coding : Coding) (value : List Char → LiteralValue) (cs : List Char) :
    Scan LiteralValue :=
  (readHashed coding cs).map fun r => (value r.1, (spanSuffix r.2).2)

def stringValue (cs : List Char) : LiteralValue := .string (String.ofList cs)

def otherValue (_ : List Char) : LiteralValue := .other

/-- The literal in front of a text: what it denotes and the text after it. -/
def readValue (cs : List Char) : Scan LiteralValue :=
  match cs with
  | '"' :: rest => readText .text stringValue rest
  | '\'' :: rest => (readSingle .text rest).map fun r => (.char r.1, (spanSuffix r.2).2)
  | 'b' :: '"' :: rest => readText .bytes otherValue rest
  | 'b' :: '\'' :: rest => (readSingle .bytes rest).map fun r => (.other, (spanSuffix r.2).2)
  | 'b' :: 'r' :: rest => readRawText .bytes otherValue rest
  | 'c' :: '"' :: rest => readText .terminated otherValue rest
  | 'c' :: 'r' :: rest => readRawText .terminated otherValue rest
  | 'r' :: rest => readRawText .text stringValue rest
  | c :: _ => if c.isDigit then readNumber cs else none
  | [] => none

/-- The literal in front of a text. -/
def read? (cs : List Char) : Scan SourceLiteral :=
  (readValue cs).map fun r => (⟨cs.take (cs.length - r.2.length), r.1⟩, r.2)

/-- The literal that a whole text is. -/
def ofText (text : List Char) : SourceLiteral :=
  match read? text with
  | some (l, []) => l
  | _ => ⟨text, .other⟩

end SourceLiteral

end ModelClasses.TraitSource
