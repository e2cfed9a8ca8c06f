/-! # Binary floating point numbers

The two binary formats of a class's literals, as exact values: a number is a sign, a significand
and a power of two. There is one value that is not a number. Rounding takes an exact ratio to the
nearest number, and a tie to the even significand. -/

namespace ModelClasses.Decimal

inductive Width
  | single
  | double
deriving DecidableEq

namespace Width

/-- The bits of a significand, the leading one included. -/
def precision : Width → Nat
  | single => 24
  | double => 53

/-- The exponent of the last bit of the smallest numbers. -/
def leastExponent : Width → Int
  | single => -149
  | double => -1074

/-- The exponent of the last bit of the largest numbers. -/
def greatestExponent : Width → Int
  | single => 104
  | double => 971

/-- Every finite number has one form: its significand is full unless the exponent is the least. -/
structure Canonical (w : Width) (significand : Nat) (exponent : Int) : Prop where
  lower : w.leastExponent ≤ exponent
  upper : exponent ≤ w.greatestExponent
  fits : significand < Nat.pow 2 w.precision
  full : Nat.pow 2 (w.precision - 1) ≤ significand ∨ exponent = w.leastExponent

theorem canonical_iff (w : Width) (s : Nat) (e : Int) :
    w.Canonical s e ↔ w.leastExponent ≤ e ∧ e ≤ w.greatestExponent ∧ s < Nat.pow 2 w.precision ∧
      (Nat.pow 2 (w.precision - 1) ≤ s ∨ e = w.leastExponent) :=
  ⟨fun h => ⟨h.lower, h.upper, h.fits, h.full⟩, fun ⟨a, b, c, d⟩ => ⟨a, b, c, d⟩⟩

instance (w : Width) (s : Nat) (e : Int) : Decidable (w.Canonical s e) :=
  decidable_of_iff' _ (canonical_iff w s e)

theorem canonical_zero (w : Width) : w.Canonical 0 w.leastExponent := by
  cases w <;> decide

end Width

/-- A number of a binary format. -/
inductive Binary (w : Width)
  | nan
  | infinite (negative : Bool)
  | finite (negative : Bool) (significand : Nat) (exponent : Int)
      (canonical : w.Canonical significand exponent)
deriving DecidableEq

namespace Binary

def zero (w : Width) (negative : Bool) : Binary w :=
  .finite negative 0 w.leastExponent w.canonical_zero

instance (w : Width) : Inhabited (Binary w) := ⟨zero w false⟩

def negate {w : Width} : Binary w → Binary w
  | .nan => .nan
  | .infinite n => .infinite (!n)
  | .finite n s e h => .finite (!n) s e h

def isFinite {w : Width} : Binary w → Bool
  | .finite .. => true
  | _ => false

/-- What is beyond the largest number is infinite. -/
def ofParts (w : Width) (negative : Bool) (significand : Nat) (exponent : Int) : Binary w :=
  if h : w.Canonical significand exponent then .finite negative significand exponent h
  else .infinite negative

/-- The quotient `num / den`, rounded to the nearest integer and a tie to the even one. -/
def divideToEven (num den : Nat) : Nat :=
  let q := num / den
  let twice := 2 * (num % den)
  if twice < den then q
  else if den < twice then q + 1
  else if q % 2 = 0 then q else q + 1

/-- The greatest `k` with `2 ^ k ≤ num / den`. -/
def floorLogTwo (num den : Nat) : Int :=
  let k : Int := (num.log2 : Int) - den.log2
  if den * Nat.pow 2 k.toNat ≤ num * Nat.pow 2 (-k).toNat then k else k - 1

/-- The number nearest to `num / den`. -/
def ofRatio (w : Width) (negative : Bool) (num den : Nat) : Binary w :=
  if num = 0 then zero w negative
  else
    let e := max w.leastExponent (floorLogTwo num den - (w.precision - 1))
    let q := divideToEven (num * Nat.pow 2 (-e).toNat) (den * Nat.pow 2 e.toNat)
    if q = Nat.pow 2 w.precision then ofParts w negative (Nat.pow 2 (w.precision - 1)) (e + 1)
    else ofParts w negative q e

/-- The number nearest to `digits * 10 ^ exponent`. Powers of ten out of the reach of both formats
are decided without being computed. -/
def ofDecimal (w : Width) (negative : Bool) (digits : Nat) (exponent : Int) : Binary w :=
  if digits = 0 then zero w negative
  else if 400 < exponent then .infinite negative
  else if exponent < -(400 + (digits.log2 : Int)) then zero w negative
  else ofRatio w negative (digits * Nat.pow 10 exponent.toNat) (Nat.pow 10 (-exponent).toNat)

def ofInt (w : Width) (i : Int) : Binary w :=
  ofRatio w (i < 0) i.natAbs 1

/-- The nearest number of another format. -/
def convert {v : Width} (w : Width) : Binary v → Binary w
  | .nan => .nan
  | .infinite n => .infinite n
  | .finite n s e _ => ofRatio w n (s * Nat.pow 2 e.toNat) (Nat.pow 2 (-e).toNat)

end Binary

end ModelClasses.Decimal
