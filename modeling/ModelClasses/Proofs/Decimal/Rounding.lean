import Mathlib.Algebra.Order.Field.Power
import Mathlib.Data.Int.Log
import Mathlib.Data.Rat.Floor
import Mathlib.Tactic.FieldSimp
import Mathlib.Tactic.Positivity
import Mathlib.Tactic.Ring
import ModelClasses.Decimal.Binary

/-! # Rounding depends on the value of a ratio

Rounding to a binary format is done with whole numbers. It is shown here to depend on the rational
number alone that the ratio is, to keep the numbers of the format, and to need none of the powers
of ten that are decided without being computed. -/

namespace ModelClasses.Decimal

/-- A power with a signed exponent, as the quotient of the two powers that whole numbers give. -/
theorem natPow_div_natPow {b : ℕ} (hb : b ≠ 0) (e : ℤ) :
    ((Nat.pow b e.toNat : ℕ) : ℚ) / (Nat.pow b (-e).toNat : ℕ) = (b : ℚ) ^ e := by
  have hb' : (b : ℚ) ≠ 0 := Nat.cast_ne_zero.mpr hb
  cases e with
  | ofNat n => simp
  | negSucc n =>
    rw [Int.toNat_negSucc, Int.neg_negSucc]
    simp [zpow_negSucc]

theorem natPow_pos {b : ℕ} (hb : b ≠ 0) (n : ℕ) : 0 < Nat.pow b n :=
  Nat.pow_pos (Nat.pos_of_ne_zero hb)

/-- A ratio whose parts are scaled by the two powers of an exponent. -/
theorem scaled_div {b : ℕ} (hb : b ≠ 0) (e : ℤ) (num den : ℕ) :
    ((num * Nat.pow b e.toNat : ℕ) : ℚ) / ((den * Nat.pow b (-e).toNat : ℕ) : ℚ) =
      num / den * (b : ℚ) ^ e := by
  rw [Nat.cast_mul, Nat.cast_mul, mul_div_mul_comm, natPow_div_natPow hb]

theorem scaled_div_neg {b : ℕ} (hb : b ≠ 0) (e : ℤ) (num den : ℕ) :
    ((num * Nat.pow b (-e).toNat : ℕ) : ℚ) / ((den * Nat.pow b e.toNat : ℕ) : ℚ) =
      num / den * (b : ℚ) ^ (-e) := by
  simpa only [neg_neg] using scaled_div hb (-e) num den

/-- Equal ratios of whole numbers are equal across. -/
theorem cross_eq {a b c d : ℕ} (hb : 0 < b) (hd : 0 < d) (h : (a : ℚ) / b = c / d) :
    a * d = c * b := by
  have hb' : (b : ℚ) ≠ 0 := by positivity
  have hd' : (d : ℚ) ≠ 0 := by positivity
  rw [div_eq_div_iff hb' hd'] at h
  exact_mod_cast h

namespace Binary

theorem divideToEven_mul_right {c : ℕ} (hc : 0 < c) (num den : ℕ) :
    divideToEven (num * c) (den * c) = divideToEven num den := by
  have twice : 2 * (num % den * c) = 2 * (num % den) * c := by ring
  simp only [divideToEven, Nat.mul_div_mul_right _ _ hc, Nat.mul_mod_mul_right, twice,
    Nat.mul_lt_mul_right hc]

theorem divideToEven_congr {a b c d : ℕ} (hb : 0 < b) (hd : 0 < d) (h : (a : ℚ) / b = c / d) :
    divideToEven a b = divideToEven c d := by
  rw [← divideToEven_mul_right hd a b, ← divideToEven_mul_right hb c d, cross_eq hb hd h,
    Nat.mul_comm b d]

theorem divideToEven_one (n : ℕ) : divideToEven n 1 = n := by
  simp [divideToEven, Nat.mod_one]

/-- Less than one half is rounded to nothing. -/
theorem divideToEven_eq_zero {num den : ℕ} (h : 2 * num < den) : divideToEven num den = 0 := by
  have small : num < den := by omega
  simp [divideToEven, Nat.div_eq_of_lt small, Nat.mod_eq_of_lt small, h]

theorem log_eq_of_bounds {r : ℚ} {k : ℤ} (lower : (2 : ℚ) ^ k ≤ r) (upper : r < (2 : ℚ) ^ (k + 1)) :
    Int.log 2 r = k := by
  have hr : 0 < r := lt_of_lt_of_le (by positivity) lower
  have h1 : k ≤ Int.log 2 r :=
    (Int.zpow_le_iff_le_log (by norm_num) hr).1 (by exact_mod_cast lower)
  have h2 : Int.log 2 r < k + 1 :=
    (Int.lt_zpow_iff_log_lt (by norm_num) hr).1 (by exact_mod_cast upper)
  omega

theorem log2_bounds {n : ℕ} (hn : 0 < n) :
    (2 : ℚ) ^ (n.log2 : ℤ) ≤ n ∧ (n : ℚ) < 2 ^ ((n.log2 : ℤ) + 1) := by
  constructor
  · rw [zpow_natCast]
    exact_mod_cast Nat.log2_self_le (Nat.ne_of_gt hn)
  · have h := Nat.lt_log2_self (n := n)
    rw [← Nat.cast_succ, zpow_natCast]
    exact_mod_cast h

theorem floorLogTwo_eq_log {num den : ℕ} (hn : 0 < num) (hd : 0 < den) :
    floorLogTwo num den = Int.log 2 ((num : ℚ) / den) := by
  obtain ⟨num_lower, num_upper⟩ := log2_bounds hn
  obtain ⟨den_lower, den_upper⟩ := log2_bounds hd
  have hd' : (0 : ℚ) < den := by positivity
  set k : ℤ := (num.log2 : ℤ) - den.log2 with hk
  have decide_iff : den * Nat.pow 2 k.toNat ≤ num * Nat.pow 2 (-k).toNat ↔
      (2 : ℚ) ^ k ≤ num / den := by
    have hp : (0 : ℚ) < (Nat.pow 2 (-k).toNat : ℕ) := Nat.cast_pos.mpr (natPow_pos (by norm_num) _)
    have power := natPow_div_natPow (b := 2) (by norm_num) k
    rw [Nat.cast_ofNat] at power
    rw [← power, div_le_div_iff₀ hp hd', ← Nat.cast_mul, ← Nat.cast_mul, Nat.cast_le,
      Nat.mul_comm den]
  have upper : (num : ℚ) / den < 2 ^ (k + 1) := by
    rw [div_lt_iff₀ hd']
    calc (num : ℚ) < 2 ^ ((num.log2 : ℤ) + 1) := num_upper
      _ = 2 ^ (k + 1) * 2 ^ (den.log2 : ℤ) := by
        rw [← zpow_add₀ (by norm_num), hk]; congr 1; ring
      _ ≤ 2 ^ (k + 1) * den := mul_le_mul_of_nonneg_left den_lower (by positivity)
  have lower : (2 : ℚ) ^ (k - 1) ≤ num / den := by
    rw [le_div_iff₀ hd']
    calc (2 : ℚ) ^ (k - 1) * den ≤ 2 ^ (k - 1) * 2 ^ ((den.log2 : ℤ) + 1) :=
          mul_le_mul_of_nonneg_left den_upper.le (by positivity)
      _ = 2 ^ (num.log2 : ℤ) := by
        rw [← zpow_add₀ (by norm_num), hk]; congr 1; ring
      _ ≤ num := num_lower
  by_cases h : (2 : ℚ) ^ k ≤ num / den
  · rw [log_eq_of_bounds h upper]
    exact if_pos (decide_iff.2 h)
  · rw [log_eq_of_bounds lower (by rw [sub_add_cancel]; exact lt_of_not_ge h)]
    exact if_neg fun h' => h (decide_iff.1 h')

theorem ofRatio_congr (w : Width) (negative : Bool) {a b c d : ℕ} (hb : 0 < b) (hd : 0 < d)
    (h : (a : ℚ) / b = c / d) : ofRatio w negative a b = ofRatio w negative c d := by
  have cross := cross_eq hb hd h
  by_cases ha : a = 0
  · have hc : c = 0 := by
      rw [ha, Nat.zero_mul] at cross
      exact (Nat.mul_eq_zero.1 cross.symm).resolve_right (Nat.ne_of_gt hb)
    simp [ofRatio, ha, hc]
  · have hc : c ≠ 0 := by
      rintro rfl
      rw [Nat.zero_mul] at cross
      exact ha ((Nat.mul_eq_zero.1 cross).resolve_right (Nat.ne_of_gt hd))
    have exponents : floorLogTwo a b = floorLogTwo c d := by
      rw [floorLogTwo_eq_log (Nat.pos_of_ne_zero ha) hb, floorLogTwo_eq_log (Nat.pos_of_ne_zero hc) hd,
        h]
    have quotients (e : ℤ) :
        divideToEven (a * Nat.pow 2 (-e).toNat) (b * Nat.pow 2 e.toNat) =
          divideToEven (c * Nat.pow 2 (-e).toNat) (d * Nat.pow 2 e.toNat) := by
      apply divideToEven_congr (Nat.mul_pos hb (natPow_pos (by norm_num) _))
        (Nat.mul_pos hd (natPow_pos (by norm_num) _))
      rw [scaled_div_neg (by norm_num), scaled_div_neg (by norm_num), h]
    simp only [ofRatio, ha, hc, ↓reduceIte, exponents, quotients]

/-- The exponent that rounding finds for a number of the format is the number's own. -/
theorem max_log_eq {w : Width} {s : ℕ} {e : ℤ} (h : w.Canonical s e) (hs : 0 < s) :
    max w.leastExponent (Int.log 2 ((s : ℚ) * 2 ^ e) - (w.precision - 1)) = e := by
  have hv : (0 : ℚ) < (s : ℚ) * 2 ^ e := by positivity
  have upper : Int.log 2 ((s : ℚ) * 2 ^ e) < w.precision + e := by
    apply (Int.lt_zpow_iff_log_lt (by norm_num) hv).1
    rw [Nat.cast_ofNat, zpow_add₀ (by norm_num), zpow_natCast]
    have fits : (s : ℚ) < 2 ^ w.precision := by exact_mod_cast h.fits
    exact mul_lt_mul_of_pos_right fits (by positivity)
  rcases h.full with full | least
  · have lower : ((w.precision - 1 : ℕ) : ℤ) + e ≤ Int.log 2 ((s : ℚ) * 2 ^ e) := by
      apply (Int.zpow_le_iff_le_log (by norm_num) hv).1
      rw [Nat.cast_ofNat, zpow_add₀ (by norm_num), zpow_natCast]
      have full' : (2 : ℚ) ^ (w.precision - 1) ≤ s := by exact_mod_cast full
      exact mul_le_mul_of_nonneg_right full' (by positivity)
    have positive : 1 ≤ w.precision := by cases w <;> decide
    have := h.lower
    omega
  · omega

/-- A number of the format is rounded to itself. -/
theorem ofRatio_eq_finite {w : Width} {s : ℕ} {e : ℤ} (h : w.Canonical s e) (negative : Bool)
    {num den : ℕ} (hd : 0 < den) (value : (num : ℚ) / den = s * 2 ^ e) :
    ofRatio w negative num den = .finite negative s e h := by
  have hd' : (den : ℚ) ≠ 0 := by positivity
  rcases Nat.eq_zero_or_pos s with rfl | hs
  · have he : e = w.leastExponent := h.full.resolve_left (Nat.not_le.2 (natPow_pos (by norm_num) _))
    have hn : num = 0 := by simpa [hd'] using value
    subst he
    simp [ofRatio, hn, zero]
  · have hn : num ≠ 0 := by
      rintro rfl
      have positive : (0 : ℚ) < s * 2 ^ e := by positivity
      rw [Nat.cast_zero, zero_div] at value
      exact positive.ne value
    have exponent : max w.leastExponent (floorLogTwo num den - (w.precision - 1)) = e := by
      rw [floorLogTwo_eq_log (Nat.pos_of_ne_zero hn) hd, value, max_log_eq h hs]
    have quotient : divideToEven (num * Nat.pow 2 (-e).toNat) (den * Nat.pow 2 e.toNat) = s := by
      rw [← divideToEven_one s]
      apply divideToEven_congr (Nat.mul_pos hd (natPow_pos (by norm_num) _)) Nat.one_pos
      rw [scaled_div_neg (by norm_num), value, Nat.cast_ofNat, mul_assoc, ← zpow_add₀ (by norm_num),
        add_neg_cancel, zpow_zero, Nat.cast_one, mul_one, div_one]
    have carry : s ≠ Nat.pow 2 w.precision := Nat.ne_of_lt h.fits
    simp only [ofRatio, hn, ↓reduceIte, exponent, quotient, carry, ofParts, h, ↓reduceDIte]

/-- Ratios from the first power of two on that has no number are infinite. -/
theorem ofRatio_eq_infinite (w : Width) (negative : Bool) {num den : ℕ} (hn : 0 < num)
    (hd : 0 < den) (h : (2 : ℚ) ^ (1024 : ℤ) ≤ (num : ℚ) / den) :
    ofRatio w negative num den = .infinite negative := by
  have log : (1024 : ℤ) ≤ floorLogTwo num den := by
    rw [floorLogTwo_eq_log hn hd]
    exact (Int.zpow_le_iff_le_log (by norm_num) (by positivity)).1 (by exact_mod_cast h)
  have beyond (e : ℤ) (he : floorLogTwo num den - (w.precision - 1) ≤ e) (s : ℕ) :
      ofParts w negative s e = .infinite negative := by
    apply dif_neg
    intro hc
    have := hc.upper
    cases w <;> simp only [Width.greatestExponent, Width.precision] at this he <;> omega
  simp only [ofRatio, Nat.ne_of_gt hn, ↓reduceIte]
  split
  · exact beyond _ (by omega) _
  · exact beyond _ (by omega) _

/-- Ratios below a quarter of the smallest number are zero. -/
theorem ofRatio_eq_zero (w : Width) (negative : Bool) {num den : ℕ} (hd : 0 < den)
    (h : (num : ℚ) / den < 2 ^ (-1076 : ℤ)) : ofRatio w negative num den = zero w negative := by
  rcases Nat.eq_zero_or_pos num with rfl | hn
  · simp [ofRatio]
  · have log : floorLogTwo num den < -1076 := by
      rw [floorLogTwo_eq_log hn hd]
      exact (Int.lt_zpow_iff_log_lt (by norm_num) (by positivity)).1 (by exact_mod_cast h)
    have exponent : max w.leastExponent (floorLogTwo num den - (w.precision - 1)) =
        w.leastExponent := by
      apply max_eq_left
      cases w <;> simp only [Width.leastExponent, Width.precision] <;> omega
    have quotient : divideToEven (num * Nat.pow 2 (-w.leastExponent).toNat)
        (den * Nat.pow 2 w.leastExponent.toNat) = 0 := by
      apply divideToEven_eq_zero
      have hden : 0 < den * Nat.pow 2 w.leastExponent.toNat :=
        Nat.mul_pos hd (natPow_pos (by norm_num) _)
      have small : ((num * Nat.pow 2 (-w.leastExponent).toNat : ℕ) : ℚ) /
          ((den * Nat.pow 2 w.leastExponent.toNat : ℕ) : ℚ) < 1 / 2 := by
        rw [scaled_div_neg (by norm_num), Nat.cast_ofNat]
        calc (num : ℚ) / den * 2 ^ (-w.leastExponent)
            < 2 ^ (-1076 : ℤ) * 2 ^ (-w.leastExponent) :=
              mul_lt_mul_of_pos_right h (by positivity)
          _ = 2 ^ (-1076 + -w.leastExponent) := (zpow_add₀ (by norm_num) _ _).symm
          _ ≤ 2 ^ (-1 : ℤ) := by
              apply zpow_le_zpow_right₀ (by norm_num)
              cases w <;> simp only [Width.leastExponent] <;> omega
          _ = 1 / 2 := by norm_num
      rw [div_lt_div_iff₀ (by exact_mod_cast hden) (by norm_num)] at small
      have small' : num * Nat.pow 2 (-w.leastExponent).toNat * 2 <
          1 * (den * Nat.pow 2 w.leastExponent.toNat) := by exact_mod_cast small
      omega
    have carry : (0 : ℕ) ≠ Nat.pow 2 w.precision := Nat.ne_of_lt (natPow_pos (by norm_num) _)
    simp only [ofRatio, Nat.ne_of_gt hn, ↓reduceIte, exponent, quotient, carry, ofParts,
      w.canonical_zero, ↓reduceDIte, zero]

theorem ten_zpow_value (digits : ℕ) (exponent : ℤ) :
    ((digits * Nat.pow 10 exponent.toNat : ℕ) : ℚ) / (Nat.pow 10 (-exponent).toNat : ℕ) =
      digits * 10 ^ exponent := by
  have h := scaled_div (b := 10) (by norm_num) exponent digits 1
  simpa using h

/-- The powers of ten that are decided without being computed are decided rightly. -/
theorem ofDecimal_eq_ofRatio (w : Width) (negative : Bool) (digits : ℕ) (exponent : ℤ) :
    ofDecimal w negative digits exponent =
      ofRatio w negative (digits * Nat.pow 10 exponent.toNat) (Nat.pow 10 (-exponent).toNat) := by
  have hden : 0 < Nat.pow 10 (-exponent).toNat := natPow_pos (by norm_num) _
  rcases Nat.eq_zero_or_pos digits with rfl | hdigits
  · simp [ofDecimal, ofRatio]
  have hnum : 0 < digits * Nat.pow 10 exponent.toNat :=
    Nat.mul_pos hdigits (natPow_pos (by norm_num) _)
  have eight (k : ℤ) : (8 : ℚ) ^ k = 2 ^ (3 * k) := by rw [zpow_mul]; norm_num
  by_cases large : 400 < exponent
  · rw [ofRatio_eq_infinite w negative hnum hden]
    · simp [ofDecimal, Nat.ne_of_gt hdigits, large]
    · rw [ten_zpow_value]
      calc (2 : ℚ) ^ (1024 : ℤ) ≤ 2 ^ (3 * exponent) :=
            zpow_le_zpow_right₀ (by norm_num) (by omega)
        _ = 8 ^ exponent := (eight exponent).symm
        _ ≤ 10 ^ exponent := zpow_le_zpow_left₀ (by omega) (by norm_num) (by norm_num)
        _ ≤ digits * 10 ^ exponent :=
            le_mul_of_one_le_left (by positivity) (by exact_mod_cast hdigits)
  by_cases small : exponent < -(400 + (digits.log2 : ℤ))
  · rw [ofRatio_eq_zero w negative hden]
    · simp only [ofDecimal, Nat.ne_of_gt hdigits, large, small, ↓reduceIte]
    · rw [ten_zpow_value]
      have tenth : (10 : ℚ) ^ exponent ≤ 8 ^ exponent := by
        have powers : (8 : ℚ) ^ (-exponent) ≤ 10 ^ (-exponent) :=
          zpow_le_zpow_left₀ (by omega) (by norm_num) (by norm_num)
        simpa only [zpow_neg, inv_inv] using inv_anti₀ (by positivity) powers
      calc (digits : ℚ) * 10 ^ exponent
          < 2 ^ ((digits.log2 : ℤ) + 1) * 10 ^ exponent :=
            mul_lt_mul_of_pos_right (log2_bounds hdigits).2 (by positivity)
        _ ≤ 2 ^ ((digits.log2 : ℤ) + 1) * 2 ^ (3 * exponent) := by
            rw [← eight]
            exact mul_le_mul_of_nonneg_left tenth (by positivity)
        _ = 2 ^ ((digits.log2 : ℤ) + 1 + 3 * exponent) := (zpow_add₀ (by norm_num) _ _).symm
        _ ≤ 2 ^ (-1076 : ℤ) := zpow_le_zpow_right₀ (by norm_num) (by omega)
  · simp only [ofDecimal, Nat.ne_of_gt hdigits, large, small, ↓reduceIte]

/-- Decimals of one value are rounded alike, whatever their exponents. -/
theorem ofDecimal_congr (w : Width) (negative : Bool) {m n : ℕ} {e f : ℤ}
    (h : (m : ℚ) * 10 ^ e = n * 10 ^ f) :
    ofDecimal w negative m e = ofDecimal w negative n f := by
  rw [ofDecimal_eq_ofRatio, ofDecimal_eq_ofRatio]
  apply ofRatio_congr w negative (natPow_pos (by norm_num) _) (natPow_pos (by norm_num) _)
  rw [ten_zpow_value, ten_zpow_value, h]

/-- A decimal with the value of a number is read as the number. -/
theorem ofDecimal_eq_finite {w : Width} {s : ℕ} {e : ℤ} (h : w.Canonical s e) (negative : Bool)
    {digits : ℕ} {exponent : ℤ} (value : (digits : ℚ) * 10 ^ exponent = s * 2 ^ e) :
    ofDecimal w negative digits exponent = .finite negative s e h := by
  rw [ofDecimal_eq_ofRatio]
  exact ofRatio_eq_finite h negative (natPow_pos (by norm_num) _)
    ((ten_zpow_value digits exponent).trans value)

theorem ofParts_sign {w : Width} {significand s : ℕ} {exponent e : ℤ} {h : w.Canonical s e}
    (read : ofParts w false significand exponent = .finite false s e h) (negative : Bool) :
    ofParts w negative significand exponent = .finite negative s e h := by
  unfold ofParts at read ⊢
  split at read
  · cases read
    rename_i canonical
    rw [dif_pos canonical]
  · cases read

/-- The sign takes no part in rounding. -/
theorem ofRatio_sign {w : Width} {num den s : ℕ} {e : ℤ} {h : w.Canonical s e}
    (read : ofRatio w false num den = .finite false s e h) (negative : Bool) :
    ofRatio w negative num den = .finite negative s e h := by
  unfold ofRatio at read ⊢
  split at read
  · cases read
    rename_i zero
    rw [if_pos zero]
    rfl
  · rename_i nonzero
    rw [if_neg nonzero]
    dsimp only at read ⊢
    split at read
    · rename_i carry
      rw [if_pos carry]
      exact ofParts_sign read negative
    · rename_i carry
      rw [if_neg carry]
      exact ofParts_sign read negative

theorem ofDecimal_sign {w : Width} {digits s : ℕ} {exponent e : ℤ} {h : w.Canonical s e}
    (read : ofDecimal w false digits exponent = .finite false s e h) (negative : Bool) :
    ofDecimal w negative digits exponent = .finite negative s e h := by
  rw [ofDecimal_eq_ofRatio] at read ⊢
  exact ofRatio_sign read negative

end Binary

end ModelClasses.Decimal
