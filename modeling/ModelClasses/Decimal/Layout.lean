import ModelClasses.Decimal.Shortest

/-! # Decimal text of numbers

How a number is written, in two layouts: the one of literals and messages, and the one of JSON
documents. -/

namespace ModelClasses.Decimal

/-- A number is written positionally when the exponent of its leading digit lies between `least`
and `greatest`, and otherwise with an exponent, which has a plus sign when `plus` is set. -/
structure Layout where
  least : Int
  greatest : Int
  plus : Bool
  tie : Tie

namespace Layout

/-- Literals and messages: positional from `1e-4` to below `1e16`, and a tie goes up. -/
def literal : Layout := ⟨-4, 15, false, .up⟩

/-- JSON documents: positional from `1e-5` to below `1e16`, and a tie goes to the even digit. -/
def document : Layout := ⟨-5, 15, true, .even⟩

/-- Digits from the left without the zeros at the end. -/
def stripZeros (ds : List Char) : List Char :=
  (ds.reverse.dropWhile (· == '0')).reverse

def natText (n : Nat) : List Char := Nat.toDigits 10 n

def intText (i : Int) : List Char :=
  if i < 0 then '-' :: natText i.natAbs else natText i.natAbs

/-- Digits `ds` whose first one stands for `10 ^ lead`, with a point and a digit after it. -/
def positional (ds : List Char) (lead : Int) : List Char :=
  if lead < 0 then '0' :: '.' :: List.replicate (-lead - 1).toNat '0' ++ ds
  else
    let whole := lead.toNat + 1
    if whole < ds.length then ds.take whole ++ '.' :: ds.drop whole
    else ds ++ List.replicate (whole - ds.length) '0' ++ ['.', '0']

def scientific (plus : Bool) (ds : List Char) (lead : Int) : List Char :=
  let mantissa :=
    match ds with
    | d :: e :: rest => d :: '.' :: e :: rest
    | ds => ds
  mantissa ++ 'e' :: (if plus && 0 ≤ lead then ['+'] else []) ++ intText lead

def magnitude (layout : Layout) (d : Digits) : List Char :=
  let all := natText d.digits
  let lead : Int := d.exponent + all.length - 1
  let ds := stripZeros all
  if layout.least ≤ lead && lead ≤ layout.greatest then positional ds lead
  else scientific layout.plus ds lead

def sign (negative : Bool) : List Char := if negative then ['-'] else []

def render {w : Width} (layout : Layout) : Binary w → List Char
  | .nan => ['N', 'a', 'N']
  | .infinite n => sign n ++ ['i', 'n', 'f']
  | .finite n s e h =>
    sign n ++ if s = 0 then ['0', '.', '0'] else magnitude layout (Shortest.find layout.tie s e h)

end Layout

/-- The text of a number in messages. -/
def Binary.text {w : Width} (x : Binary w) : String := String.ofList (Layout.literal.render x)

end ModelClasses.Decimal
