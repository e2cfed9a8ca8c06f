import ModelClasses.Decimal.Layout
import ModelClasses.Decimal.Reader
import ModelClasses.Decimal.Word
import ModelClasses.Json.Basic

/-! # Numbers in documents

An integer is read exactly. Any other number is read in steps, each of which rounds to the nearest number
in double precision: the digits that fit in a word become a number, and this is multiplied with a power
of ten or divided by one. So what is read for a number need not be the number that is nearest to its
text. -/

namespace ModelClasses.Json

open Decimal

/-- A number written without a fraction and without an exponent. A negative zero is not one. -/
def integerText? (n : List Char) : Option Int :=
  if n = ['-', '0'] then none else readInteger? n

/-- Signed integers of 64 bits. -/
def long? : Json → Option Int64
  | .number n => (integerText? n).bind Word.long?
  | _ => none

/-- The digits of a number, continued for as long as it is an unsigned word of 64 bits, and the digits
that are left. -/
def continueWord (n : Nat) : List Char → Nat × List Char
  | [] => (n, [])
  | c :: rest =>
    let longer := 10 * n + (c.toNat - '0'.toNat)
    if Word.isUnsigned 64 longer then continueWord longer rest else (n, c :: rest)

/-- A finite number without its sign, as a ratio. -/
def magnitude? : Binary .double → Option (Nat × Nat)
  | .finite _ s e _ => some (s * Nat.pow 2 e.toNat, Nat.pow 2 (-e).toNat)
  | _ => none

/-- The number nearest to a product, if that is finite. -/
def times? (x y : Binary .double) : Option (Binary .double) := do
  let (a, b) ← magnitude? x
  let (c, d) ← magnitude? y
  (some (.ofRatio .double false (a * c) (b * d))).filter (·.isFinite)

/-- The number nearest to a quotient. -/
def over? (x y : Binary .double) : Option (Binary .double) := do
  let (a, b) ← magnitude? x
  let (c, d) ← magnitude? y
  return .ofRatio .double false (a * d) (b * c)

def greatestPower : Nat := 308

/-- The number nearest to a power of ten. -/
def tenTo (k : Nat) : Binary .double := .ofDecimal .double false 1 k

/-- A word with so many places behind it, or before its point. Beyond the powers of ten that are numbers,
division takes two steps, and what is left after these is zero. -/
def scale? (word : Nat) (places : Int) : Option (Binary .double) :=
  let x : Binary .double := .ofInt .double word
  let down := (-places).toNat
  if word = 0 then some x
  else if 0 ≤ places then
    if places ≤ greatestPower then times? x (tenTo places.toNat) else none
  else if down ≤ greatestPower then over? x (tenTo down)
  else if down ≤ 2 * greatestPower then
    (over? x (tenTo greatestPower)).bind (over? · (tenTo (down - greatestPower)))
  else some (.zero .double false)

/-- The number that is read for a decimal text. Digits that do not fit in the word are counted as places
in front of the point, and are nothing behind it. -/
def approximate? (cs : List Char) : Option (Binary .double) := do
  let (negative, unsigned) := readSign cs
  let (whole, afterWhole) := takeDigits unsigned
  let (fraction, afterFraction) := readFraction afterWhole
  let e ← readExponent afterFraction
  let (front, leftInFront) := continueWord 0 whole
  let (word, left) := continueWord front fraction
  let x ← scale? word (e + leftInFront.length - (fraction.length - left.length : Nat))
  return if negative then x.negate else x

def double? : Json → Option (Binary .double)
  | .number n => approximate? n
  | _ => none

/-- Integers of up to 64 bits are rounded once; other numbers are read in double precision
first. -/
def single? : Json → Option (Binary .single)
  | .number n =>
    match (integerText? n).filter (Word.fits 64) with
    | some i => some (Binary.ofInt .single i)
    | none => (approximate? n).map (·.convert .single)
  | _ => none

def ofInt (i : Int) : Json := .number (Layout.intText i)

/-- What is not finite has no number in a document. -/
def ofBinary {w : Width} (x : Binary w) : Json :=
  if x.isFinite then .number (Layout.document.render x) else .null

end ModelClasses.Json
