import ModelClasses.Decimal.Binary

/-! # Reading decimal text

A decimal is an optional sign, digits with at most one point among or around them, and an optional
exponent. At least one digit stands before the exponent, and at least one in it. -/

namespace ModelClasses.Decimal

/-- The number that decimal digits denote. -/
def digitsValue (ds : List Char) : Nat :=
  ds.foldl (fun n c => 10 * n + (c.toNat - '0'.toNat)) 0

/-- A sign in front of a number, and what follows it. -/
def readSign : List Char → Bool × List Char
  | '-' :: rest => (true, rest)
  | '+' :: rest => (false, rest)
  | cs => (false, cs)

def takeDigits (cs : List Char) : List Char × List Char :=
  (cs.takeWhile Char.isDigit, cs.dropWhile Char.isDigit)

/-- The digits after a point, if there is one, and what follows. -/
def readFraction : List Char → List Char × List Char
  | '.' :: rest => takeDigits rest
  | cs => ([], cs)

/-- The exponent that ends a decimal; no text is the exponent zero. -/
def readExponent : List Char → Option Int
  | [] => some 0
  | c :: rest =>
    if c = 'e' ∨ c = 'E' then
      let (negative, cs) := readSign rest
      let (ds, after) := takeDigits cs
      if ds.isEmpty || !after.isEmpty then none
      else
        let n : Int := digitsValue ds
        some (if negative then -n else n)
    else none

/-- The number of a format that is nearest to a decimal text. -/
def Binary.read? (w : Width) (cs : List Char) : Option (Binary w) :=
  let (negative, unsigned) := readSign cs
  let (whole, afterWhole) := takeDigits unsigned
  let (fraction, afterFraction) := readFraction afterWhole
  if whole.isEmpty && fraction.isEmpty then none
  else
    match readExponent afterFraction with
    | none => none
    | some e => some (ofDecimal w negative (digitsValue (whole ++ fraction)) (e - fraction.length))

/-- An optional sign and decimal digits. -/
def readInteger? (cs : List Char) : Option Int :=
  let (negative, unsigned) := readSign cs
  let (ds, after) := takeDigits unsigned
  if ds.isEmpty || !after.isEmpty then none
  else
    let n : Int := digitsValue ds
    some (if negative then -n else n)

end ModelClasses.Decimal
