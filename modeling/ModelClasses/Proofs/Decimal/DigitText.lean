import Mathlib.Algebra.Group.Nat.Defs
import Mathlib.Data.List.TakeWhile
import ModelClasses.Decimal.Layout
import ModelClasses.Decimal.Reader
import ModelClasses.Decimal.Word
import ModelClasses.Proofs.Text.Span

/-! # Text of digits

Digits are read as the number that they were written for, and the text of an integer as the
integer. -/

namespace ModelClasses.Decimal

open Text

def AreDigits (ds : List Char) : Prop := ∀ c ∈ ds, c.isDigit

theorem areDigits_append {ds es : List Char} (hd : AreDigits ds) (he : AreDigits es) :
    AreDigits (ds ++ es) := by
  intro c hc
  rcases List.mem_append.1 hc with hc | hc
  · exact hd c hc
  · exact he c hc

theorem areDigits_zeros (n : ℕ) : AreDigits (List.replicate n '0') := by
  intro c hc
  rw [List.eq_of_mem_replicate hc]
  rfl

theorem AreDigits.of_append_left {ds es : List Char} (h : AreDigits (ds ++ es)) : AreDigits ds :=
  fun c hc => h c (List.mem_append_left es hc)

theorem AreDigits.of_append_right {ds es : List Char} (h : AreDigits (ds ++ es)) : AreDigits es :=
  fun c hc => h c (List.mem_append_right ds hc)

theorem digitsValue_eq_ofDigitChars (ds : List Char) : digitsValue ds = Nat.ofDigitChars 10 ds 0 :=
  rfl

theorem digitsValue_append (ds es : List Char) :
    digitsValue (ds ++ es) = digitsValue ds * 10 ^ es.length + digitsValue es := by
  rw [digitsValue_eq_ofDigitChars, Nat.ofDigitChars_append, Nat.ofDigitChars_eq_ofDigitChars_zero,
    Nat.mul_comm]
  rfl

theorem digitsValue_zeros (n : ℕ) : digitsValue (List.replicate n '0') = 0 := by
  rw [digitsValue_eq_ofDigitChars, Nat.ofDigitChars_replicate_zero, Nat.mul_zero]

theorem digitsValue_append_zeros (ds : List Char) (n : ℕ) :
    digitsValue (ds ++ List.replicate n '0') = digitsValue ds * 10 ^ n := by
  rw [digitsValue_append, digitsValue_zeros, List.length_replicate, Nat.add_zero]

theorem digitsValue_zeros_append (n : ℕ) (ds : List Char) :
    digitsValue (List.replicate n '0' ++ ds) = digitsValue ds := by
  rw [digitsValue_append, digitsValue_zeros, Nat.zero_mul, Nat.zero_add]

theorem digitsValue_natText (n : ℕ) : digitsValue (Layout.natText n) = n :=
  Nat.ofDigitChars_ten_toDigits

theorem areDigits_natText (n : ℕ) : AreDigits (Layout.natText n) :=
  fun _ hc => Nat.isDigit_of_mem_toDigits (by decide) (by decide) hc

theorem natText_ne_nil (n : ℕ) : Layout.natText n ≠ [] := Nat.toDigits_ne_nil

/-- The zeros at the end of digits are what stripping takes away. -/
theorem eq_stripZeros_append (ds : List Char) :
    ∃ n, ds = Layout.stripZeros ds ++ List.replicate n '0' := by
  refine ⟨(ds.reverse.takeWhile (· == '0')).length, ?_⟩
  have zeros : ds.reverse.takeWhile (· == '0') =
      List.replicate (ds.reverse.takeWhile (· == '0')).length '0' := by
    apply List.eq_replicate_of_mem
    intro c hc
    simpa using List.mem_takeWhile_imp hc
  calc ds = ds.reverse.reverse := (List.reverse_reverse ds).symm
    _ = (ds.reverse.takeWhile (· == '0') ++ ds.reverse.dropWhile (· == '0')).reverse := by
      rw [List.takeWhile_append_dropWhile]
    _ = _ := by
      rw [List.reverse_append, zeros, List.reverse_replicate, List.length_replicate]
      rfl

theorem takeDigits_append {ds rest : List Char} (hd : AreDigits ds) (hr : Stops Char.isDigit rest) :
    takeDigits (ds ++ rest) = (ds, rest) := by
  rw [takeDigits, takeWhile_append_stops hd hr, dropWhile_append_stops hd hr]

theorem takeDigits_self {ds : List Char} (hd : AreDigits ds) : takeDigits ds = (ds, []) := by
  simpa using takeDigits_append hd (stops_nil _)

theorem readSign_digits {ds : List Char} (hd : AreDigits ds) (hne : ds ≠ []) (rest : List Char) :
    readSign (ds ++ rest) = (false, ds ++ rest) := by
  cases ds with
  | nil => exact absurd rfl hne
  | cons c ds =>
    have hc : c.isDigit := hd c List.mem_cons_self
    unfold readSign
    split
    · simp_all
    · simp_all
    · rfl

/-- Digits with a sign in front of them, or without. -/
theorem readSign_sign {ds : List Char} (hd : AreDigits ds) (hne : ds ≠ []) (negative : Bool)
    (rest : List Char) : readSign (Layout.sign negative ++ (ds ++ rest)) = (negative, ds ++ rest) := by
  cases negative with
  | false => exact readSign_digits hd hne rest
  | true => rfl

/-- The text of an integer is a sign or none, and the digits of its magnitude. -/
theorem intText_eq (i : ℤ) : Layout.intText i = Layout.sign (decide (i < 0)) ++
    Layout.natText i.natAbs := by
  by_cases h : i < 0 <;> simp [Layout.intText, Layout.sign, h]

theorem readInteger?_intText (i : ℤ) : readInteger? (Layout.intText i) = some i := by
  have sign := readSign_sign (areDigits_natText i.natAbs) (natText_ne_nil i.natAbs)
    (decide (i < 0)) []
  rw [List.append_nil] at sign
  have digits := takeDigits_self (areDigits_natText i.natAbs)
  have nonempty : (Layout.natText i.natAbs).isEmpty = false := by
    simpa using natText_ne_nil i.natAbs
  rw [intText_eq]
  simp only [readInteger?, sign, digits, nonempty, digitsValue_natText, List.isEmpty_nil,
    Bool.not_true, Bool.or_self, Bool.false_eq_true, ↓reduceIte, Option.some.injEq,
    decide_eq_true_eq]
  split <;> omega

end ModelClasses.Decimal
