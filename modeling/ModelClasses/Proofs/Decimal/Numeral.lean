import ModelClasses.Proofs.Decimal.DigitText
import ModelClasses.Proofs.Decimal.Rounding

/-! # Written numbers read back

A finite number is written as a numeral: digits with a point among them, an exponent behind them,
or both. A numeral is read as the decimal that it shows, and the numeral of a number shows a decimal
that is rounded to the number; so what is written for a number is read as that number. -/

namespace ModelClasses.Decimal

open Text

/-- An exponent behind digits. A plus sign may stand before an exponent that has no sign. -/
inductive ExponentText : List Char → ℤ → Prop
  | absent : ExponentText [] 0
  | plain (e : ℤ) : ExponentText ('e' :: Layout.intText e) e
  | plus {e : ℤ} (h : 0 ≤ e) : ExponentText ('e' :: '+' :: Layout.intText e) e

/-- A text that shows the decimal `digits * 10 ^ exponent`. -/
inductive Numeral : List Char → ℕ → ℤ → Prop
  | pointed {whole fraction tail : List Char} {e : ℤ} (wholeDigits : AreDigits whole)
      (nonempty : whole ≠ []) (fractionDigits : AreDigits fraction) (mark : ExponentText tail e) :
      Numeral (whole ++ '.' :: (fraction ++ tail)) (digitsValue (whole ++ fraction))
        (e - fraction.length)
  | marked {whole rest : List Char} {e : ℤ} (wholeDigits : AreDigits whole) (nonempty : whole ≠ [])
      (mark : ExponentText ('e' :: rest) e) : Numeral (whole ++ 'e' :: rest) (digitsValue whole) e

theorem ExponentText.stops {tail : List Char} {e : ℤ} (h : ExponentText tail e) :
    Stops Char.isDigit tail := by
  cases h with
  | absent => exact stops_nil _
  | plain => exact stops_cons rfl
  | plus => exact stops_cons rfl

theorem readExponent_eq {tail : List Char} {e : ℤ} (h : ExponentText tail e) :
    readExponent tail = some e := by
  have digits (n : ℕ) : takeDigits (Layout.natText n) = (Layout.natText n, []) :=
    takeDigits_self (areDigits_natText n)
  have nonempty (n : ℕ) : (Layout.natText n).isEmpty = false := by simpa using natText_ne_nil n
  cases h with
  | absent => rfl
  | plain =>
    have sign := readSign_sign (areDigits_natText e.natAbs) (natText_ne_nil e.natAbs)
      (decide (e < 0)) []
    rw [List.append_nil] at sign
    rw [intText_eq]
    simp only [readExponent, true_or, ↓reduceIte, sign, digits, nonempty, digitsValue_natText,
      List.isEmpty_nil, Bool.not_true, Bool.or_self, Bool.false_eq_true, decide_eq_true_eq,
      Option.some.injEq]
    split <;> omega
  | plus h =>
    have positive : ¬ e < 0 := by omega
    simp only [readExponent, readSign, Layout.intText, positive, true_or, ↓reduceIte, digits,
      nonempty, digitsValue_natText, List.isEmpty_nil, Bool.not_true, Bool.or_self,
      Bool.false_eq_true, Option.some.injEq]
    omega

theorem read?_numeral {text : List Char} {digits : ℕ} {exponent : ℤ}
    (h : Numeral text digits exponent) (w : Width) (negative : Bool) :
    Binary.read? w (Layout.sign negative ++ text) =
      some (Binary.ofDecimal w negative digits exponent) := by
  cases h with
  | @pointed whole fraction tail e wholeDigits nonempty fractionDigits mark =>
    have sign := readSign_sign wholeDigits nonempty negative ('.' :: (fraction ++ tail))
    have front : takeDigits (whole ++ '.' :: (fraction ++ tail)) = (whole, '.' :: (fraction ++ tail)) :=
      takeDigits_append wholeDigits (stops_cons rfl)
    have back := takeDigits_append fractionDigits mark.stops
    have some_digit : whole.isEmpty = false := by simpa using nonempty
    simp only [Binary.read?, sign, front, readFraction, back, some_digit, Bool.false_and,
      Bool.false_eq_true, ↓reduceIte, readExponent_eq mark]
  | @marked whole rest e wholeDigits nonempty mark =>
    have sign := readSign_sign wholeDigits nonempty negative ('e' :: rest)
    have front := takeDigits_append wholeDigits mark.stops
    have back : readFraction ('e' :: rest) = ([], 'e' :: rest) := rfl
    have some_digit : whole.isEmpty = false := by simpa using nonempty
    simp only [Binary.read?, sign, front, back, some_digit, Bool.false_and, Bool.false_eq_true,
      ↓reduceIte, readExponent_eq mark, List.append_nil, List.length_nil, Nat.cast_zero, sub_zero]

variable {ds : List Char}

theorem positional_numeral (hd : AreDigits ds) (hne : ds ≠ []) (lead : ℤ) :
    ∃ digits exponent, Numeral (Layout.positional ds lead) digits exponent ∧
      (digits : ℚ) * 10 ^ exponent = digitsValue ds * 10 ^ (lead + 1 - ds.length) := by
  by_cases small : lead < 0
  · -- zeros stand between the point and the digits
    have text : Layout.positional ds lead =
        ['0'] ++ '.' :: (List.replicate (-lead - 1).toNat '0' ++ ds ++ []) := by
      simp [Layout.positional, small]
    rw [text]
    refine ⟨_, _, Numeral.pointed (areDigits_zeros 1) (by simp)
      (areDigits_append (areDigits_zeros _) hd) ExponentText.absent, ?_⟩
    rw [← List.replicate_one, ← List.append_assoc, List.replicate_append_replicate,
      digitsValue_zeros_append, List.length_append, List.length_replicate]
    congr 2
    omega
  by_cases inside : lead.toNat + 1 < ds.length
  · -- the point stands among the digits
    have text : Layout.positional ds lead =
        ds.take (lead.toNat + 1) ++ '.' :: (ds.drop (lead.toNat + 1) ++ []) := by
      simp [Layout.positional, small, inside]
    have digits : AreDigits (ds.take (lead.toNat + 1) ++ ds.drop (lead.toNat + 1)) := by
      rwa [List.take_append_drop]
    rw [text]
    refine ⟨_, _, Numeral.pointed digits.of_append_left (by simp [hne]) digits.of_append_right
      ExponentText.absent, ?_⟩
    rw [List.take_append_drop, List.length_drop]
    congr 2
    omega
  · -- zeros fill the places up to the point
    have text : Layout.positional ds lead =
        ds ++ List.replicate (lead.toNat + 1 - ds.length) '0' ++ '.' :: (['0'] ++ []) := by
      simp [Layout.positional, small, inside]
    rw [text]
    refine ⟨_, _, Numeral.pointed (areDigits_append hd (areDigits_zeros _)) (by simp [hne])
      (areDigits_zeros 1) ExponentText.absent, ?_⟩
    have power (n : ℕ) : ((10 ^ n : ℕ) : ℚ) = 10 ^ (n : ℤ) := by rw [zpow_natCast, Nat.cast_pow]; rfl
    rw [List.append_assoc, ← List.replicate_succ', digitsValue_append_zeros, List.length_singleton,
      Nat.cast_mul, power, mul_assoc, ← zpow_add₀ (by norm_num)]
    congr 2
    omega

theorem exponentText_mark (plus : Bool) (lead : ℤ) : ExponentText
    ('e' :: ((if plus && decide (0 ≤ lead) then ['+'] else []) ++ Layout.intText lead)) lead := by
  by_cases h : (plus && decide (0 ≤ lead)) = true
  · rw [if_pos h]
    rw [Bool.and_eq_true, decide_eq_true_iff] at h
    exact ExponentText.plus h.2
  · rw [if_neg h]
    exact ExponentText.plain lead

theorem scientific_numeral (hd : AreDigits ds) (hne : ds ≠ []) (plus : Bool) (lead : ℤ) :
    ∃ digits exponent, Numeral (Layout.scientific plus ds lead) digits exponent ∧
      (digits : ℚ) * 10 ^ exponent = digitsValue ds * 10 ^ (lead + 1 - ds.length) := by
  have mark := exponentText_mark plus lead
  match ds, hd, hne with
  | [d], hd, hne =>
    have text : Layout.scientific plus [d] lead = [d] ++ 'e' ::
        ((if plus && decide (0 ≤ lead) then ['+'] else []) ++ Layout.intText lead) := by
      simp [Layout.scientific]
    rw [text]
    refine ⟨_, _, Numeral.marked hd hne mark, ?_⟩
    simp
  | d :: e :: rest, hd, _ =>
    have split : AreDigits ([d] ++ e :: rest) := hd
    have first : AreDigits [d] := split.of_append_left
    have others : AreDigits (e :: rest) := split.of_append_right
    have text : Layout.scientific plus (d :: e :: rest) lead = [d] ++ '.' :: ((e :: rest) ++ 'e' ::
        ((if plus && decide (0 ≤ lead) then ['+'] else []) ++ Layout.intText lead)) := by
      simp [Layout.scientific]
    rw [text]
    refine ⟨_, _, Numeral.pointed first (by simp) others mark, ?_⟩
    rw [List.singleton_append, List.length_cons (a := d), Nat.cast_succ]
    congr 2
    omega

/-- Both layouts show the decimal that they lay out, though not with the same digits. -/
theorem magnitude_numeral (layout : Layout) {d : Digits} (hd : 0 < d.digits) :
    ∃ digits exponent, Numeral (layout.magnitude d) digits exponent ∧
      (digits : ℚ) * 10 ^ exponent = d.digits * 10 ^ d.exponent := by
  set all := Layout.natText d.digits with hall
  obtain ⟨zeros, split⟩ := eq_stripZeros_append all
  have digits : AreDigits (Layout.stripZeros all) := by
    have h := areDigits_natText d.digits
    rw [← hall, split] at h
    exact h.of_append_left
  have value : d.digits = digitsValue (Layout.stripZeros all) * 10 ^ zeros := by
    rw [← digitsValue_append_zeros, ← split, hall, digitsValue_natText]
  have nonempty : Layout.stripZeros all ≠ [] := by
    intro h
    rw [h] at value
    exact (Nat.ne_of_gt hd) (value.trans (Nat.zero_mul _))
  have length : all.length = (Layout.stripZeros all).length + zeros := by
    conv_lhs => rw [split]
    rw [List.length_append, List.length_replicate]
  have same : (digitsValue (Layout.stripZeros all) : ℚ) * 10 ^ (d.exponent + all.length - 1 + 1 -
      (Layout.stripZeros all).length) = d.digits * 10 ^ d.exponent := by
    rw [value, Nat.cast_mul, Nat.cast_pow, Nat.cast_ofNat, ← zpow_natCast, mul_assoc,
      ← zpow_add₀ (by norm_num)]
    congr 2
    omega
  rw [← same]
  by_cases h : layout.least ≤ d.exponent + all.length - 1 ∧
      d.exponent + all.length - 1 ≤ layout.greatest
  · have text : layout.magnitude d =
        Layout.positional (Layout.stripZeros all) (d.exponent + all.length - 1) := by
      simp [Layout.magnitude, ← hall, h]
    rw [text]
    exact positional_numeral digits nonempty _
  · have text : layout.magnitude d =
        Layout.scientific layout.plus (Layout.stripZeros all) (d.exponent + all.length - 1) := by
      simp only [Layout.magnitude, ← hall, Bool.and_eq_true, decide_eq_true_eq, h, ↓reduceIte]
    rw [text]
    exact scientific_numeral digits nonempty layout.plus _

theorem exact_value (s : ℕ) (e : ℤ) :
    ((Shortest.exact s e).digits : ℚ) * 10 ^ (Shortest.exact s e).exponent = s * 2 ^ e := by
  unfold Shortest.exact
  by_cases h : 0 ≤ e
  · obtain ⟨n, rfl⟩ := Int.eq_ofNat_of_zero_le h
    simp
  · obtain ⟨n, hn⟩ := Int.eq_ofNat_of_zero_le (a := -e) (by omega)
    obtain rfl : e = -n := by omega
    have five : (10 : ℚ) ^ n = 5 ^ n * 2 ^ n := by rw [← mul_pow]; norm_num
    simp only [h, ↓reduceIte, neg_neg, Int.toNat_natCast, Nat.pow_eq, Nat.cast_mul, Nat.cast_pow,
      Nat.cast_ofNat, zpow_neg, zpow_natCast]
    rw [five]
    field_simp

theorem onGrid_readsBack {w : Width} {tie : Tie} {x : Binary w} {num den : ℕ} {exponent : ℤ}
    {d : Digits} (h : Shortest.onGrid tie x num den exponent = some d) : Shortest.readsBack x d := by
  unfold Shortest.onGrid at h
  dsimp only at h
  split at h
  · cases h
  · cases h; assumption
  · cases h; assumption
  · repeat' split at h
    all_goals cases h; assumption

/-- Whatever digits are chosen for a number, they read back as the number. -/
theorem find_readsBack {w : Width} (tie : Tie) {s : ℕ} {e : ℤ} (h : w.Canonical s e) :
    Shortest.readsBack (.finite false s e h) (Shortest.find tie s e h) := by
  unfold Shortest.find
  dsimp only
  generalize search : List.findSome? _ _ = found
  cases found with
  | none =>
    simp only [Shortest.readsBack, Option.getD_none, decide_eq_true_eq]
    exact Binary.ofDecimal_eq_finite h false (exact_value s e)
  | some d =>
    obtain ⟨i, -, hit⟩ := List.exists_of_findSome?_eq_some search
    exact onGrid_readsBack hit

theorem find_positive {w : Width} (tie : Tie) {s : ℕ} {e : ℤ} (h : w.Canonical s e) (hs : s ≠ 0) :
    0 < (Shortest.find tie s e h).digits := by
  have back := find_readsBack tie h
  rw [Nat.pos_iff_ne_zero]
  intro none
  simp only [Shortest.readsBack, Binary.ofDecimal, none, ↓reduceIte, Binary.zero,
    Binary.finite.injEq, decide_eq_true_eq] at back
  exact hs back.2.1.symm

/-- What is written for a finite number: its sign, and a numeral. -/
theorem render_numeral {w : Width} (layout : Layout) (negative : Bool) {s : ℕ} {e : ℤ}
    (h : w.Canonical s e) :
    ∃ text digits exponent, layout.render (.finite negative s e h) = Layout.sign negative ++ text ∧
      Numeral text digits exponent ∧
      Binary.ofDecimal w negative digits exponent = .finite negative s e h := by
  by_cases hs : s = 0
  · subst hs
    have he : e = w.leastExponent := h.full.resolve_left (Nat.not_le.2 (natPow_pos (by norm_num) _))
    subst he
    refine ⟨['0'] ++ '.' :: (['0'] ++ []), _, _, by simp [Layout.render],
      Numeral.pointed (areDigits_zeros 1) (by simp) (areDigits_zeros 1) ExponentText.absent, ?_⟩
    rfl
  · obtain ⟨digits, exponent, numeral, value⟩ := magnitude_numeral layout (find_positive layout.tie h hs)
    refine ⟨_, _, _, by simp [Layout.render, hs], numeral, ?_⟩
    have back := find_readsBack layout.tie h
    rw [Shortest.readsBack, decide_eq_true_iff] at back
    rw [Binary.ofDecimal_congr w negative value]
    exact Binary.ofDecimal_sign back negative

/-- A finite number is read from its text in every layout. -/
theorem read?_render {w : Width} (layout : Layout) (negative : Bool) {s : ℕ} {e : ℤ}
    (h : w.Canonical s e) :
    Binary.read? w (layout.render (.finite negative s e h)) = some (.finite negative s e h) := by
  obtain ⟨text, digits, exponent, written, numeral, value⟩ := render_numeral layout negative h
  rw [written, read?_numeral numeral, value]

end ModelClasses.Decimal
