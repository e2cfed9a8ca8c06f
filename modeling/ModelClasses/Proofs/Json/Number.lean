import ModelClasses.Json.Record
import ModelClasses.Json.Token
import ModelClasses.Proofs.Decimal.Numeral

/-! # Numbers in documents

A number of a document has no zeros in front of its whole part and digits on both sides of its point.
What is written for an integer and for a finite number is of this form, so it is taken from the front of
a text as one token wherever no character behind it belongs to a number. -/

namespace ModelClasses.Json

open Decimal Text

/-- Digits the first of which is not zero. -/
inductive LeadingDigits : List Char → Prop
  | cons {c : Char} {ds : List Char} (digit : c.isDigit) (nonzero : c ≠ '0') (hd : AreDigits ds) :
      LeadingDigits (c :: ds)

inductive WholePart : List Char → Prop
  | zero : WholePart ['0']
  | leading {ds : List Char} (h : LeadingDigits ds) : WholePart ds

inductive FractionPart : List Char → Prop
  | absent : FractionPart []
  | digits {ds : List Char} (hd : AreDigits ds) (nonempty : ds ≠ []) : FractionPart ('.' :: ds)

inductive IsNumber : List Char → Prop
  | parts (negative : Bool) {whole fraction tail : List Char} {e : ℤ} (first : WholePart whole)
      (second : FractionPart fraction) (third : ExponentText tail e) :
      IsNumber (Layout.sign negative ++ (whole ++ (fraction ++ tail)))

/-- A text that does not start with a character that a number may have behind its sign. -/
def EndsNumber (rest : List Char) : Prop :=
  Stops (fun c => c.isDigit || c == '.' || c == 'e' || c == 'E') rest

theorem EndsNumber.stopsDigits {rest : List Char} (h : EndsNumber rest) : Stops Char.isDigit rest :=
  h.mono fun c hc => by simp [hc]

theorem LeadingDigits.areDigits {ds : List Char} (h : LeadingDigits ds) : AreDigits ds := by
  obtain ⟨digit, -, hd⟩ := h
  exact List.forall_mem_cons.2 ⟨digit, hd⟩

theorem lexWhole_append {whole rest : List Char} (h : WholePart whole)
    (ends : Stops Char.isDigit rest) : lexWhole (whole ++ rest) = some (whole, rest) := by
  cases h with
  | zero => rfl
  | leading h =>
    obtain ⟨digit, nonzero, hd⟩ := h
    rw [List.cons_append, lexWhole, if_neg nonzero, if_pos digit, takeWhile_append_stops hd ends,
      dropWhile_append_stops hd ends]

theorem lexFraction_append {fraction rest : List Char} (h : FractionPart fraction)
    (ends : Stops (fun c => c.isDigit || c == '.') rest) :
    lexFraction (fraction ++ rest) = some (fraction, rest) := by
  have stops : Stops Char.isDigit rest := ends.mono fun c hc => by simp [hc]
  cases h with
  | absent =>
    rw [List.nil_append, lexFraction.eq_def]
    split
    · simpa using ends '.' rfl
    · rfl
  | digits hd nonempty =>
    rw [List.cons_append, lexFraction, takeWhile_append_stops hd stops,
      dropWhile_append_stops hd stops, if_neg (by simpa using nonempty)]

theorem lexSign_sign {ds : List Char} (hd : AreDigits ds) (nonempty : ds ≠ []) (negative : Bool)
    (rest : List Char) :
    lexSign (Layout.sign negative ++ (ds ++ rest)) = (Layout.sign negative, ds ++ rest) := by
  cases negative with
  | true => rfl
  | false =>
    obtain ⟨c, ds, rfl⟩ := List.exists_cons_of_ne_nil nonempty
    have digit : c.isDigit := hd c List.mem_cons_self
    rw [Layout.sign, if_neg (by simp), List.nil_append, List.cons_append, lexSign.eq_def]
    split
    · simp_all
    · simp_all
    · rfl

theorem lexExponent_append {tail rest : List Char} {e : ℤ} (h : ExponentText tail e)
    (ends : EndsNumber rest) : lexExponent (tail ++ rest) = some (tail, rest) := by
  have digits := areDigits_natText e.natAbs
  have nonempty : (Layout.natText e.natAbs).isEmpty = false := by simpa using natText_ne_nil e.natAbs
  have taken := takeWhile_append_stops digits ends.stopsDigits
  have left := dropWhile_append_stops digits ends.stopsDigits
  cases h with
  | absent =>
    cases rest with
    | nil => rfl
    | cons c rest =>
      have outside := ends c rfl
      simp only [Bool.or_eq_false_iff, beq_eq_false_iff_ne] at outside
      rw [List.nil_append, lexExponent, if_neg (by simp [outside])]
  | plain =>
    have signed := lexSign_sign digits (natText_ne_nil _) (decide (e < 0)) rest
    rw [← List.append_assoc, ← intText_eq] at signed
    rw [List.cons_append, lexExponent, if_pos (.inl rfl)]
    simp only [signed, taken, left, nonempty, Bool.false_eq_true, ↓reduceIte]
    rw [intText_eq]
    rfl
  | plus positive =>
    have unsigned : Layout.intText e = Layout.natText e.natAbs := by
      rw [Layout.intText, if_neg (by omega)]
    rw [List.cons_append, lexExponent, if_pos (.inl rfl), unsigned]
    simp only [List.cons_append, lexSign, taken, left, nonempty, Bool.false_eq_true, ↓reduceIte,
      List.nil_append]

theorem WholePart.ne_nil {whole : List Char} (h : WholePart whole) : whole ≠ [] := by
  cases h with
  | zero => simp
  | leading h => cases h; simp

theorem WholePart.areDigits {whole : List Char} (h : WholePart whole) : AreDigits whole := by
  cases h with
  | zero => exact areDigits_zeros 1
  | leading h => exact h.areDigits

theorem lexMinus_sign {ds : List Char} (hd : AreDigits ds) (nonempty : ds ≠ []) (negative : Bool)
    (rest : List Char) :
    lexMinus (Layout.sign negative ++ (ds ++ rest)) = (Layout.sign negative, ds ++ rest) := by
  cases negative with
  | true => rfl
  | false =>
    obtain ⟨c, ds, rfl⟩ := List.exists_cons_of_ne_nil nonempty
    have digit : c.isDigit := hd c List.mem_cons_self
    rw [Layout.sign, if_neg (by simp), List.nil_append, List.cons_append, lexMinus.eq_def]
    split
    · simp_all
    · rfl

/-- The parts of a number end where the next one begins. -/
theorem ExponentText.endsFraction {tail rest : List Char} {e : ℤ} (h : ExponentText tail e)
    (ends : EndsNumber rest) : Stops (fun c => c.isDigit || c == '.') (tail ++ rest) := by
  cases h with
  | absent => exact ends.mono fun c hc => by simp [or_assoc] at hc ⊢; tauto
  | plain => exact stops_cons rfl
  | plus => exact stops_cons rfl

theorem FractionPart.endsWhole {fraction rest : List Char} (h : FractionPart fraction)
    (ends : Stops (fun c => c.isDigit || c == '.') rest) : Stops Char.isDigit (fraction ++ rest) := by
  cases h with
  | absent => exact ends.mono fun c hc => by simp [hc]
  | digits => exact stops_cons rfl

theorem lexNumber_append {n rest : List Char} (h : IsNumber n) (ends : EndsNumber rest) :
    lexNumber (n ++ rest) = some (n, rest) := by
  obtain @⟨negative, whole, fraction, tail, e, first, second, third⟩ := h
  have endsFraction := ExponentText.endsFraction third ends
  have minus := lexMinus_sign first.areDigits first.ne_nil negative (fraction ++ (tail ++ rest))
  have taken := lexWhole_append first (second.endsWhole endsFraction)
  simp only [lexNumber, List.append_assoc, minus, taken, lexFraction_append second endsFraction,
    lexExponent_append third ends, Option.bind_eq_bind, Option.bind_some, Option.pure_def]

theorem IsNumber.head {n : List Char} (h : IsNumber n) :
    ∃ c tail, n = c :: tail ∧ (c = '-' ∨ c.isDigit) := by
  obtain ⟨negative, first, -, -⟩ := h
  cases negative with
  | true => exact ⟨_, _, rfl, .inl rfl⟩
  | false =>
    obtain ⟨c, whole, rfl⟩ := List.exists_cons_of_ne_nil first.ne_nil
    exact ⟨c, _, rfl, .inr (first.areDigits c List.mem_cons_self)⟩

theorem other_of_number {c : Char} (first : c = '-' ∨ c.isDigit) :
    mark? c = none ∧ c ≠ '"' ∧ isSpace c = false := by
  have others : ∀ d ∈ ['[', ']', '\x7b', '\x7d', ',', ':', '"', ' ', '\n', '\r', '\t'],
      ¬ (d = '-' ∨ d.isDigit) := by simp
  have different := mt (others c) (not_not.2 first)
  simp only [List.mem_cons, List.not_mem_nil, or_false, not_or] at different
  simp [mark?, isSpace, different]

theorem LeadingDigits.append {ds es : List Char} (h : LeadingDigits ds) (he : AreDigits es) :
    LeadingDigits (ds ++ es) := by
  obtain ⟨digit, nonzero, hd⟩ := h
  exact .cons digit nonzero (areDigits_append hd he)

theorem LeadingDigits.of_append {ds es : List Char} (h : LeadingDigits (ds ++ es))
    (nonempty : ds ≠ []) : LeadingDigits ds := by
  obtain ⟨d, ds, rfl⟩ := List.exists_cons_of_ne_nil nonempty
  obtain ⟨digit, nonzero, hd⟩ := h
  exact .cons digit nonzero hd.of_append_left

theorem leadingDigits_natText {n : ℕ} (h : 0 < n) : LeadingDigits (Layout.natText n) := by
  induction n using Nat.strong_induction_on with
  | _ n ih =>
    by_cases small : n < 10
    · rw [Layout.natText, Nat.toDigits_of_lt_base small]
      have digit : ∀ m < 10, 0 < m → m.digitChar.isDigit = true ∧ m.digitChar ≠ '0' := by decide
      exact .cons (digit n small h).1 (digit n small h).2 (by simp [AreDigits])
    · have last : AreDigits [(n % 10).digitChar] := by
        have digits := areDigits_natText n
        rw [Layout.natText, Nat.toDigits_of_base_le (by omega) (by omega)] at digits
        exact digits.of_append_right
      rw [Layout.natText, Nat.toDigits_of_base_le (by omega) (by omega)]
      exact (ih (n / 10) (by omega) (by omega)).append last

theorem wholePart_natText (n : ℕ) : WholePart (Layout.natText n) := by
  rcases Nat.eq_zero_or_pos n with rfl | positive
  · exact .zero
  · exact .leading (leadingDigits_natText positive)

theorem isNumber_intText (i : ℤ) : IsNumber (Layout.intText i) := by
  have number := IsNumber.parts (decide (i < 0)) (wholePart_natText i.natAbs) .absent .absent
  rw [List.append_nil, List.append_nil] at number
  rwa [intText_eq]

theorem leadingDigits_stripZeros {ds : List Char} (h : LeadingDigits ds) :
    LeadingDigits (Layout.stripZeros ds) := by
  obtain ⟨zeros, split⟩ := eq_stripZeros_append ds
  refine LeadingDigits.of_append (split ▸ h) fun none => ?_
  -- digits that are nothing but zeros would start with one
  rw [none, List.nil_append] at split
  obtain ⟨-, nonzero, -⟩ := h
  exact nonzero (List.eq_of_mem_replicate (split ▸ List.mem_cons_self))

variable {ds : List Char}

/-- A sign, and what is a number without one. -/
theorem isNumber_positional (h : LeadingDigits ds) (lead : ℤ) (negative : Bool) :
    IsNumber (Layout.sign negative ++ Layout.positional ds lead) := by
  have nonempty : ds ≠ [] := by obtain ⟨-, -, -⟩ := h; simp
  by_cases small : lead < 0
  · have text : Layout.positional ds lead =
        ['0'] ++ ('.' :: (List.replicate (-lead - 1).toNat '0' ++ ds) ++ []) := by
      simp [Layout.positional, small]
    rw [text]
    exact .parts negative .zero
      (.digits (areDigits_append (areDigits_zeros _) h.areDigits) (by simp [nonempty])) .absent
  by_cases inside : lead.toNat + 1 < ds.length
  · have text : Layout.positional ds lead =
        ds.take (lead.toNat + 1) ++ ('.' :: ds.drop (lead.toNat + 1) ++ []) := by
      simp [Layout.positional, small, inside]
    rw [← List.take_append_drop (lead.toNat + 1) ds] at h
    rw [text]
    exact .parts negative (.leading (h.of_append (by simp [nonempty])))
      (.digits h.areDigits.of_append_right (by simpa using inside)) .absent
  · have text : Layout.positional ds lead =
        ds ++ List.replicate (lead.toNat + 1 - ds.length) '0' ++ (['.', '0'] ++ []) := by
      simp [Layout.positional, small, inside]
    rw [text]
    exact .parts negative (.leading (h.append (areDigits_zeros _)))
      (.digits (areDigits_zeros 1) (by simp)) .absent

theorem isNumber_scientific (h : LeadingDigits ds) (plus : Bool) (lead : ℤ) (negative : Bool) :
    IsNumber (Layout.sign negative ++ Layout.scientific plus ds lead) := by
  have mark := exponentText_mark plus lead
  obtain @⟨d, ds, digit, nonzero, hd⟩ := h
  have first : WholePart [d] := .leading (.cons digit nonzero (by simp [AreDigits]))
  cases ds with
  | nil =>
    have text : Layout.scientific plus [d] lead = [d] ++ ([] ++ 'e' ::
        ((if plus && decide (0 ≤ lead) then ['+'] else []) ++ Layout.intText lead)) := by
      simp [Layout.scientific]
    rw [text]
    exact .parts negative first .absent mark
  | cons d' ds =>
    have text : Layout.scientific plus (d :: d' :: ds) lead = [d] ++ ('.' :: (d' :: ds) ++ 'e' ::
        ((if plus && decide (0 ≤ lead) then ['+'] else []) ++ Layout.intText lead)) := by
      simp [Layout.scientific]
    rw [text]
    exact .parts negative first (.digits hd (by simp)) mark

theorem isNumber_render {w : Width} (layout : Layout) {x : Binary w} (finite : x.isFinite) :
    IsNumber (layout.render x) := by
  cases x with
  | nan => cases finite
  | infinite => cases finite
  | finite negative s e h =>
    by_cases zero : s = 0
    · rw [Layout.render, if_pos zero]
      exact .parts negative .zero (.digits (areDigits_zeros 1) (by simp)) .absent
    · have leading := leadingDigits_stripZeros
        (leadingDigits_natText (find_positive layout.tie h zero))
      rw [Layout.render, if_neg zero, Layout.magnitude]
      split
      · exact isNumber_positional leading _ negative
      · exact isNumber_scientific leading _ _ negative

end ModelClasses.Json
