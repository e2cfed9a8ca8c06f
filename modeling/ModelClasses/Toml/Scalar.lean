import ModelClasses.Decimal.Word
import ModelClasses.Toml.Text

/-! # Scalars of TOML documents

Truth values, numbers, dates and times. -/

namespace ModelClasses.Toml

/-- Digits with single underscores between them, which are dropped. -/
def ungroup? (isDigit : Char → Bool) : List Char → Option (List Char)
  | [] => none
  | [c] => if isDigit c then some [c] else none
  | c :: '_' :: rest => if isDigit c then (ungroup? isDigit rest).map (c :: ·) else none
  | c :: rest => if isDigit c then (ungroup? isDigit rest).map (c :: ·) else none

def radixValue (radix : Nat) (ds : List Char) : Nat :=
  ds.foldl (fun n c => radix * n + (hexValue? c).getD 0) 0

def splitSign : List Char → Bool × List Char
  | '-' :: rest => (true, rest)
  | '+' :: rest => (false, rest)
  | cs => (false, cs)

/-- Decimal digits without a zero in front. -/
def wholeDigits? (cs : List Char) : Option (List Char) :=
  (ungroup? Char.isDigit cs).filter fun ds => ds.length == 1 || ds.head? != some '0'

def digitsUnder (radix : Nat) (c : Char) : Bool :=
  match hexValue? c with
  | some d => d < radix
  | none => false

def radixInteger? (radix : Nat) (cs : List Char) : Option Int :=
  (ungroup? (digitsUnder radix) cs).map fun ds => (radixValue radix ds : Int)

/-- Integers have at most 64 bits. -/
def integer? (cs : List Char) : Option Int :=
  let value : Option Int :=
    match cs with
    | '0' :: 'x' :: rest => radixInteger? 16 rest
    | '0' :: 'o' :: rest => radixInteger? 8 rest
    | '0' :: 'b' :: rest => radixInteger? 2 rest
    | cs =>
      let (negative, unsigned) := splitSign cs
      (wholeDigits? unsigned).map fun ds =>
        let n : Int := radixValue 10 ds
        if negative then -n else n
  value.filter (Decimal.Word.fits 64)

def isFraction (cs : List Char) : Bool := (ungroup? Char.isDigit cs).isSome

def isExponent (cs : List Char) : Bool := isFraction (splitSign cs).2

def isMark (c : Char) : Bool := c == 'e' || c == 'E'

/-- A number with a fraction, an exponent or both, or one of the words for numbers. -/
def isFloat (cs : List Char) : Bool :=
  let unsigned := (splitSign cs).2
  if unsigned = "inf".toList ∨ unsigned = "nan".toList then true
  else
    let mantissa := unsigned.takeWhile (!isMark ·)
    let exponent := unsigned.dropWhile (!isMark ·)
    let whole := mantissa.takeWhile (· != '.')
    let fraction := mantissa.dropWhile (· != '.')
    (wholeDigits? whole).isSome && (!fraction.isEmpty || !exponent.isEmpty) &&
      (fraction.isEmpty || isFraction (fraction.drop 1)) &&
      (exponent.isEmpty || isExponent (exponent.drop 1))

/-- A number of exactly `count` digits between two bounds. -/
def isField (count low high : Nat) (cs : List Char) : Bool :=
  cs.length == count && cs.all Char.isDigit &&
    low ≤ radixValue 10 cs && radixValue 10 cs ≤ high

def daysIn (year month : Nat) : Nat :=
  if month = 2 then
    (if year % 4 = 0 ∧ (year % 100 ≠ 0 ∨ year % 400 = 0) then 29 else 28)
  else if [4, 6, 9, 11].contains month then 30
  else 31

def isDate (cs : List Char) : Bool :=
  let year := cs.take 4
  let month := (cs.drop 5).take 2
  let day := cs.drop 8
  isField 4 0 9999 year && cs[4]? == some '-' && isField 2 1 12 month && cs[7]? == some '-' &&
    isField 2 1 (daysIn (radixValue 10 year) (radixValue 10 month)) day

def isTime (cs : List Char) : Bool :=
  let fraction := cs.drop 8
  isField 2 0 23 (cs.take 2) && cs[2]? == some ':' && isField 2 0 59 ((cs.drop 3).take 2) &&
    cs[5]? == some ':' && isField 2 0 60 ((cs.drop 6).take 2) &&
    (fraction.isEmpty ||
      (fraction.head? == some '.' && fraction.length > 1 && (fraction.drop 1).all Char.isDigit))

/-- The text of a time without its offset, if the offset is well formed. -/
def dropOffset? (cs : List Char) : Option (List Char) :=
  let time := cs.takeWhile fun c => c.isDigit || c == ':' || c == '.'
  match cs.drop time.length with
  | [] => some time
  | ['Z'] => some time
  | ['z'] => some time
  | [s, a, b, c, d, e] =>
    if (s = '+' ∨ s = '-') ∧ isField 2 0 23 [a, b] ∧ c = ':' ∧ isField 2 0 59 [d, e] then some time
    else none
  | _ => none

/-- A date, a time, or both with an optional offset. -/
def isDateTime (cs : List Char) : Bool :=
  isDate cs || isTime cs ||
    (isDate (cs.take 10) && (["T".toList, "t".toList, " ".toList].contains ((cs.drop 10).take 1)) &&
      match dropOffset? (cs.drop 11) with
      | some time => isTime time
      | none => false)

def isScalarChar (c : Char) : Bool :=
  c.isAlphanum || c == '_' || c == '+' || c == '-' || c == '.' || c == ':'

/-- The characters of a scalar; a date and its time may have a space between them. -/
def spanScalar (cs : List Char) : List Char × List Char :=
  let first := cs.takeWhile isScalarChar
  let rest := cs.dropWhile isScalarChar
  match rest with
  | ' ' :: c :: _ =>
    if isDate first && c.isDigit then
      (first ++ ' ' :: (rest.drop 1).takeWhile isScalarChar, (rest.drop 1).dropWhile isScalarChar)
    else (first, rest)
  | _ => (first, rest)

def scalar? (cs : List Char) : Option Toml :=
  if cs = "true".toList then some (.bool true)
  else if cs = "false".toList then some (.bool false)
  else
    match integer? cs with
    | some i => some (.integer i)
    | none => if isFloat cs || isDateTime cs then some (.scalar cs) else none

end ModelClasses.Toml
