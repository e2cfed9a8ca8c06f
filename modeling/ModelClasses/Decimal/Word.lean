/-! # Words

Whole numbers of a fixed number of bits. -/

namespace ModelClasses.Decimal.Word

/-- The smallest signed number. -/
def least (bits : Nat) : Int := -(Nat.pow 2 (bits - 1) : Int)

def isSigned (bits : Nat) (i : Int) : Bool := least bits ≤ i && i < Nat.pow 2 (bits - 1)

def isUnsigned (bits : Nat) (i : Int) : Bool := 0 ≤ i && i < Nat.pow 2 bits

/-- Whether a number is signed or unsigned with so many bits. -/
def fits (bits : Nat) (i : Int) : Bool := isSigned bits i || isUnsigned bits i

/-- The signed word of 64 bits that a number is. -/
def long? (i : Int) : Option Int64 := if isSigned 64 i then some (Int64.ofInt i) else none

theorem isSigned_iff (bits : Nat) (i : Int) :
    isSigned bits i ↔ least bits ≤ i ∧ i < Nat.pow 2 (bits - 1) := by
  rw [isSigned, Bool.and_eq_true, decide_eq_true_iff, decide_eq_true_iff]

theorem isSigned_toInt (i : Int64) : isSigned 64 i.toInt :=
  (isSigned_iff 64 i.toInt).2 ⟨i.le_toInt, i.toInt_lt⟩

@[simp] theorem long?_toInt (i : Int64) : long? i.toInt = some i := by
  simp [long?, isSigned_toInt]

theorem long?_eq_some_iff {n : Int} {i : Int64} : long? n = some i ↔ i.toInt = n := by
  constructor
  · intro h
    by_cases hn : isSigned 64 n
    · obtain ⟨lower, upper⟩ := (isSigned_iff 64 n).1 hn
      simp only [long?, hn, ↓reduceIte, Option.some.injEq] at h
      rw [← h, Int64.toInt_ofInt_of_le lower upper]
    · simp [long?, hn] at h
  · rintro rfl
    exact long?_toInt i

end ModelClasses.Decimal.Word
