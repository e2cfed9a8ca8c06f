import ModelClasses.Decimal.Binary

/-! # Shortest decimals

The decimal with the fewest digits that reads back as a given number; of two such decimals the
nearer one. -/

namespace ModelClasses.Decimal

/-- The value `digits * 10 ^ exponent`. -/
structure Digits where
  digits : Nat
  exponent : Int
deriving DecidableEq

/-- Which of two equally near decimals is written. -/
inductive Tie
  | up
  | even
deriving DecidableEq

namespace Shortest

def decimalLength (n : Nat) : Nat := (Nat.toDigits 10 n).length

/-- The greatest `k` with `10 ^ k ≤ num / den`. -/
def floorLogTen (num den : Nat) : Int :=
  let k : Int := (decimalLength num : Int) - decimalLength den
  if den * Nat.pow 10 k.toNat ≤ num * Nat.pow 10 (-k).toNat then k else k - 1

def readsBack {w : Width} (x : Binary w) (d : Digits) : Bool :=
  Binary.ofDecimal w false d.digits d.exponent = x

/-- The better of the two neighbours of `num / den` on the grid of multiples of
`10 ^ exponent`, among those that read back as `x`. -/
def onGrid {w : Width} (tie : Tie) (x : Binary w) (num den : Nat) (exponent : Int) :
    Option Digits :=
  let n := num * Nat.pow 10 (-exponent).toNat
  let d := den * Nat.pow 10 exponent.toNat
  let low : Digits := ⟨n / d, exponent⟩
  let high : Digits := ⟨n / d + 1, exponent⟩
  let twice := 2 * (n % d)
  match readsBack x low, readsBack x high with
  | false, false => none
  | true, false => some low
  | false, true => some high
  | true, true =>
    if twice < d then some low
    else if d < twice then some high
    else
      match tie with
      | .up => some high
      | .even => if n / d % 2 = 0 then some low else some high

/-- The exact value as a decimal. -/
def exact (significand : Nat) (exponent : Int) : Digits :=
  if 0 ≤ exponent then ⟨significand * Nat.pow 2 exponent.toNat, 0⟩
  else ⟨significand * Nat.pow 5 (-exponent).toNat, exponent⟩

/-- Grids of one, two, … digits are tried in turn; seventeen digits are enough for both formats,
and the exact value stands behind them. -/
def find {w : Width} (tie : Tie) (significand : Nat) (exponent : Int)
    (h : w.Canonical significand exponent) : Digits :=
  let x : Binary w := .finite false significand exponent h
  let num := significand * Nat.pow 2 exponent.toNat
  let den := Nat.pow 2 (-exponent).toNat
  let lead := floorLogTen num den
  ((List.range 17).findSome? fun (i : Nat) => onGrid tie x num den (lead - (i : Int))).getD
    (exact significand exponent)

end Shortest

end ModelClasses.Decimal
