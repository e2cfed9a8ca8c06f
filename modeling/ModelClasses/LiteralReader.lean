import ModelClasses.Decimal.Reader
import ModelClasses.Literal

/-! # Reading literals

The value that a literal denotes. What kind of reference a name is, a graph may decide; without
one its spelling does. -/

namespace ModelClasses

open Decimal

inductive LiteralError
  | unexpectedEnd
  | unexpectedChar (offset : Nat) (found : Char)
  | invalidEscape (offset : Nat)
  | invalidNumber (text : String)
  | trailingInput (offset : Nat)
deriving DecidableEq

def LiteralError.message : LiteralError → String
  | unexpectedEnd => "unexpected end of literal"
  | unexpectedChar offset found =>
    "unexpected character " ++ Text.quotedChar found ++ " at offset " ++ toString offset
  | invalidEscape offset => "invalid escape sequence at offset " ++ toString offset
  | invalidNumber text => "invalid number literal " ++ text
  | trailingInput offset => "trailing input at offset " ++ toString offset

namespace Literal

/-- Where reading stops: each fault but the first holds the text from the offending place on. -/
inductive Fault
  | ended
  | unexpected (found : Char) (after : List Char)
  /-- The text starts with the escape's backslash. -/
  | escape (rest : List Char)
  | number (text : List Char)

abbrev Read (α : Type) := Except Fault (α × List Char)

/-- What an escape that is one letter stands for. -/
def simpleEscape? (c : Char) : Option Char :=
  if c = 'n' then some '\n'
  else if c = 'r' then some '\r'
  else if c = 't' then some '\t'
  else if c = 'b' then some '\x08'
  else if c = '\\' ∨ c = '"' ∨ c = '\'' ∨ c = '$' then some c
  else none

def hexValue? (c : Char) : Option Nat :=
  if c.isDigit then some (c.toNat - '0'.toNat)
  else if 'a' ≤ c ∧ c ≤ 'f' then some (c.toNat - 'a'.toNat + 10)
  else if 'A' ≤ c ∧ c ≤ 'F' then some (c.toNat - 'A'.toNat + 10)
  else none

/-- The number that hexadecimal digits denote, continuing from `n`. -/
def hexNumber? (n : Nat) : List Char → Option Nat
  | [] => some n
  | c :: rest =>
    match hexValue? c with
    | some d => hexNumber? (16 * n + d) rest
    | none => none

/-- The code of an escape with four places, of which the first may be a plus sign. -/
def escapeCode? (a b c d : Char) : Option Nat :=
  if a = '+' then hexNumber? 0 [b, c, d] else hexNumber? 0 [a, b, c, d]

def scalar? (code : Nat) : Option Char :=
  if code.isValidChar then some (Char.ofNat code) else none

/-- The character of an escape, after its backslash. -/
def readEscape : List Char → Read Char
  | [] => .error .ended
  | 'u' :: a :: b :: c :: d :: rest =>
    match (escapeCode? a b c d).bind scalar? with
    | some x => .ok (x, rest)
    | none => .error (.escape ('\\' :: 'u' :: a :: b :: c :: d :: rest))
  | e :: rest =>
    match simpleEscape? e with
    | some x => .ok (x, rest)
    | none => .error (.escape ('\\' :: e :: rest))

theorem readEscape_shorter {cs rest : List Char} {c : Char} (h : readEscape cs = .ok (c, rest)) :
    rest.length < cs.length := by
  unfold readEscape at h
  split at h
  · simp at h
  · split at h <;> simp at h
    simp [← h.2]; omega
  · split at h <;> simp at h
    simp [← h.2]

/-- The characters of a text up to its closing quote. -/
def readText (cs : List Char) : Read (List Char) :=
  match cs with
  | [] => .error .ended
  | '"' :: rest => .ok ([], rest)
  | '\\' :: escaped =>
    match _h : readEscape escaped with
    | .error e => .error e
    | .ok (c, rest) => (readText rest).map fun r => (c :: r.1, r.2)
  | c :: rest => (readText rest).map fun r => (c :: r.1, r.2)
termination_by cs.length
decreasing_by
  · have := readEscape_shorter _h
    simp; omega
  · simp

def expect (expected : Char) : List Char → Except Fault (List Char)
  | [] => .error .ended
  | c :: rest => if c = expected then .ok rest else .error (.unexpected c rest)

/-- A character and its closing quote. -/
def readChar (cs : List Char) : Read Char :=
  let first : Read Char :=
    match cs with
    | [] => .error .ended
    | '\\' :: escaped => readEscape escaped
    | c :: rest => .ok (c, rest)
  match first with
  | .error e => .error e
  | .ok (c, rest) => (expect '\'' rest).map fun after => (c, after)

/-- A number goes on with digits, points, exponent marks, and signs directly after a mark. The
character before is `last`. -/
def continuesNumber (last c : Char) : Bool :=
  c.isDigit || c == '.' || c == 'e' || c == 'E' ||
    ((c == '+' || c == '-') && (last == 'e' || last == 'E'))

/-- The characters of a number after its sign. -/
def spanNumber (last : Char) : List Char → List Char × List Char
  | [] => ([], [])
  | c :: rest =>
    if continuesNumber last c then (c :: (spanNumber c rest).1, (spanNumber c rest).2)
    else ([], c :: rest)

/-- A number with its sign, as a run of characters, and what follows. -/
def spanSigned : List Char → List Char × List Char
  | '-' :: rest => ('-' :: (spanNumber '-' rest).1, (spanNumber '-' rest).2)
  | cs => spanNumber ' ' cs

def isFractional (run : List Char) : Bool := run.any fun c => c == '.' || c == 'e' || c == 'E'

/-- The integers of 64 bits. -/
def readLong? (run : List Char) : Option Int64 := (readInteger? run).bind Word.long?

def orNumber (run : List Char) (v : Option AnnotationValue) (rest : List Char) :
    Read AnnotationValue :=
  match v with
  | some v => .ok (v, rest)
  | none => .error (.number run)

def readNumber (cs : List Char) : Read AnnotationValue :=
  let (run, rest) := spanSigned cs
  match rest with
  | 'F' :: after => orNumber run ((Binary.read? .single run).map .float) after
  | 'f' :: after => orNumber run ((Binary.read? .single run).map .float) after
  | _ =>
    if isFractional run then orNumber run ((Binary.read? .double run).map .double) rest
    else orNumber run ((readLong? run).map .integer) rest

def startsName (c : Char) : Bool := c == '_' || Text.isAlphabetic c

def continuesName (c : Char) : Bool := c == '_' || c == '.' || Text.isAlphanumeric c

/-- A reference whose kind the graph decides, if it declares the name. -/
def reference (g : Option DeclarationGraph) (name : List Char) (written : ReferenceKind) :
    AnnotationValue :=
  let qualified := String.ofList name
  let kind := (g.bind (·.get? qualified)).map fun d => ReferenceKind.ofDeclaration d.kind
  .reference ⟨qualified, kind.getD written⟩

/-- The text after the mark of a class literal. -/
def classMark? : List Char → Option (List Char)
  | ':' :: ':' :: 'c' :: 'l' :: 'a' :: 's' :: 's' :: rest => some rest
  | _ => none

def readName (g : Option DeclarationGraph) (cs : List Char) : Read AnnotationValue :=
  let name := cs.takeWhile continuesName
  let rest := cs.dropWhile continuesName
  match classMark? rest with
  | some after => .ok (reference g name .class_, after)
  | none =>
    match reserved.lookup name with
    | some v => .ok (v, rest)
    | none => .ok (reference g name .enumConstant, rest)

mutual
/-- A value in front of a text. Each array that is open and each item before the value takes one
from `fuel`. -/
def readValue (g : Option DeclarationGraph) : Nat → List Char → Read AnnotationValue
  | 0, _ => .error .ended
  | fuel + 1, cs =>
    match cs with
    | [] => .error .ended
    | '[' :: ']' :: rest => .ok (.array [], rest)
    | '[' :: rest => (readItems g fuel rest).map fun r => (.array r.1, r.2)
    | '"' :: rest => (readText rest).map fun r => (.string (String.ofList r.1), r.2)
    | '\'' :: rest => (readChar rest).map fun r => (.char r.1, r.2)
    | c :: rest =>
      if c = '-' ∨ c.isDigit then readNumber (c :: rest)
      else if startsName c then readName g (c :: rest)
      else .error (.unexpected c rest)

/-- The items of an array from a place where an item is due. -/
def readItems (g : Option DeclarationGraph) : Nat → List Char → Read (List AnnotationValue)
  | 0, _ => .error .ended
  | fuel + 1, cs =>
    match readValue g fuel cs with
    | .error e => .error e
    | .ok (_, []) => .error .ended
    | .ok (v, ']' :: rest) => .ok ([v], rest)
    | .ok (v, ',' :: rest) =>
      (readItems g fuel (rest.dropWhile (· == ' '))).map fun r => (v :: r.1, r.2)
    | .ok (_, c :: rest) => .error (.unexpected c rest)
end

def utf8Length : List Char → Nat
  | [] => 0
  | c :: rest => c.utf8Size + utf8Length rest

/-- How many bytes of a text come before a part that ends it. -/
def offset (cs rest : List Char) : Nat := utf8Length cs - utf8Length rest

def Fault.toError (cs : List Char) : Fault → LiteralError
  | .ended => .unexpectedEnd
  | .unexpected c rest => .unexpectedChar (offset cs (c :: rest)) c
  | .escape rest => .invalidEscape (offset cs rest)
  | .number run => .invalidNumber (String.ofList run)

/-- Every item and every array takes at least one character, so the fuel is never short. -/
def fuelFor (cs : List Char) : Nat := 2 * cs.length + 2

/-- The value that a whole text denotes. -/
def read (g : Option DeclarationGraph) (cs : List Char) : Except LiteralError AnnotationValue :=
  match readValue g (fuelFor cs) cs with
  | .error e => .error (e.toError cs)
  | .ok (v, []) => .ok v
  | .ok (_, rest) => .error (.trailingInput (offset cs rest))

end Literal

/-- The value that a literal denotes; the kinds of its references are those it is spelled with. -/
def AnnotationValue.parse (text : String) : Except LiteralError AnnotationValue :=
  Literal.read none text.toList

/-- The value that a literal denotes where the declarations of a graph are known. -/
def AnnotationValue.parseIn (g : DeclarationGraph) (text : String) :
    Except LiteralError AnnotationValue :=
  Literal.read (some g) text.toList

end ModelClasses
