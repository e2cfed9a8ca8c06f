import ModelClasses.Proofs.Decimal.DigitText

/-! # The grammar of decimals

The texts that are read as integers and as decimals, and what they stand for. Both are read from the
front, sign before digits, so that a text is one of them in one way only. -/

namespace ModelClasses.Decimal

open Text

/-- An optional sign, and whether it is a minus. -/
inductive SignText : List Char → Bool → Prop
  | absent : SignText [] false
  | minus : SignText ['-'] true
  | plus : SignText ['+'] false

/-- An optional sign and at least one digit. -/
inductive IntegerText : List Char → ℤ → Prop
  | digits {sign ds : List Char} {negative : Bool} (hs : SignText sign negative) (hd : AreDigits ds)
      (nonempty : ds ≠ []) :
      IntegerText (sign ++ ds) (if negative then -(digitsValue ds : ℤ) else digitsValue ds)

/-- Digits with at most one point among or around them: the text, the digits, and how many of them are
behind the point. -/
inductive Mantissa : List Char → List Char → ℕ → Prop
  | whole {ds : List Char} (hd : AreDigits ds) (nonempty : ds ≠ []) : Mantissa ds ds 0
  | pointed {whole fraction : List Char} (hw : AreDigits whole) (hf : AreDigits fraction)
      (nonempty : whole ≠ [] ∨ fraction ≠ []) :
      Mantissa (whole ++ '.' :: fraction) (whole ++ fraction) fraction.length

/-- An optional exponent, which is an integer behind its mark. -/
inductive ExponentPart : List Char → ℤ → Prop
  | absent : ExponentPart [] 0
  | marked {mark : Char} {text : List Char} {e : ℤ} (hm : mark = 'e' ∨ mark = 'E')
      (value : IntegerText text e) : ExponentPart (mark :: text) e

/-- A text of the decimal `digits * 10 ^ exponent` with a sign. -/
inductive DecimalText : List Char → Bool → ℕ → ℤ → Prop
  | parts {sign mantissa ds tail : List Char} {negative : Bool} {places : ℕ} {e : ℤ}
      (hs : SignText sign negative) (hm : Mantissa mantissa ds places) (he : ExponentPart tail e) :
      DecimalText (sign ++ (mantissa ++ tail)) negative (digitsValue ds) (e - places)

theorem readSign_spec (cs : List Char) :
    ∃ sign, SignText sign (readSign cs).1 ∧ cs = sign ++ (readSign cs).2 := by
  unfold readSign
  split
  · exact ⟨['-'], .minus, rfl⟩
  · exact ⟨['+'], .plus, rfl⟩
  · exact ⟨[], .absent, rfl⟩

theorem readSign_append {sign rest : List Char} {negative : Bool} (hs : SignText sign negative)
    (unsigned : ∀ c ∈ rest.head?, c ≠ '-' ∧ c ≠ '+') : readSign (sign ++ rest) = (negative, rest) := by
  cases hs with
  | minus => rfl
  | plus => rfl
  | absent =>
    rw [List.nil_append, readSign.eq_def]
    split
    · exact absurd rfl (unsigned '-' rfl).1
    · exact absurd rfl (unsigned '+' rfl).2
    · rfl

theorem unsigned_digits {ds : List Char} (hd : AreDigits ds) (nonempty : ds ≠ []) (rest : List Char) :
    ∀ c ∈ (ds ++ rest).head?, c ≠ '-' ∧ c ≠ '+' := by
  obtain ⟨d, ds, rfl⟩ := List.exists_cons_of_ne_nil nonempty
  rintro _ ⟨⟩
  have digit : d.isDigit := hd d List.mem_cons_self
  constructor <;> (rintro rfl; cases digit)

theorem takeDigits_spec (cs : List Char) :
    AreDigits (takeDigits cs).1 ∧ cs = (takeDigits cs).1 ++ (takeDigits cs).2 :=
  ⟨fun _ hc => List.mem_takeWhile_imp hc, (List.takeWhile_append_dropWhile).symm⟩

theorem readInteger?_eq_some_iff {cs : List Char} {i : ℤ} :
    readInteger? cs = some i ↔ IntegerText cs i := by
  constructor
  · intro h
    obtain ⟨sign, hs, split⟩ := readSign_spec cs
    obtain ⟨hd, parts⟩ := takeDigits_spec (readSign cs).2
    simp only [readInteger?] at h
    split at h
    · cases h
    · rename_i complete
      simp only [Bool.or_eq_true, Bool.not_eq_true', List.isEmpty_iff, not_or,
        List.isEmpty_eq_false_iff, not_not] at complete
      rw [complete.2, List.append_nil] at parts
      rw [split, parts]
      cases h
      exact .digits hs hd complete.1
  · rintro ⟨hs, hd, nonempty⟩
    have unsigned := unsigned_digits hd nonempty []
    rw [List.append_nil] at unsigned
    simp [readInteger?, readSign_append hs unsigned, takeDigits_self hd, nonempty]

theorem readExponent_eq_some_iff {cs : List Char} {e : ℤ} :
    readExponent cs = some e ↔ ExponentPart cs e := by
  cases cs with
  | nil =>
    constructor
    · rintro ⟨⟩
      exact .absent
    · rintro ⟨⟩
      rfl
  | cons c rest =>
    -- behind its mark, an exponent is read as an integer is
    have reads : readExponent (c :: rest) = if c = 'e' ∨ c = 'E' then readInteger? rest else none := rfl
    rw [reads]
    constructor
    · intro h
      split at h
      · exact .marked ‹_› (readInteger?_eq_some_iff.1 h)
      · cases h
    · rintro (_ | ⟨mark, value⟩)
      rw [if_pos mark, readInteger?_eq_some_iff.2 value]

theorem Mantissa.ne_nil {text ds : List Char} {places : ℕ} (h : Mantissa text ds places) : ds ≠ [] := by
  cases h with
  | whole _ nonempty => exact nonempty
  | pointed _ _ nonempty =>
    rw [Ne, List.append_eq_nil_iff, not_and_or]
    exact nonempty

theorem Mantissa.unsigned {text ds : List Char} {places : ℕ} (h : Mantissa text ds places)
    (rest : List Char) : ∀ c ∈ (text ++ rest).head?, c ≠ '-' ∧ c ≠ '+' := by
  cases h with
  | whole hd nonempty => exact unsigned_digits hd nonempty rest
  | @pointed whole fraction hw =>
    rw [List.append_assoc]
    by_cases empty : whole = []
    · rw [empty]
      rintro _ ⟨⟩
      decide
    · exact unsigned_digits hw empty _

theorem ExponentPart.stops {tail : List Char} {e : ℤ} (h : ExponentPart tail e) :
    Stops (fun c => c.isDigit || c == '.') tail := by
  cases h with
  | absent => exact stops_nil _
  | marked mark => rcases mark with rfl | rfl <;> exact stops_cons rfl

theorem readFraction_spec {cs : List Char} (after : (takeDigits cs).1 ≠ [] ∨
    (readFraction (takeDigits cs).2).1 ≠ []) :
    ∃ text, Mantissa text ((takeDigits cs).1 ++ (readFraction (takeDigits cs).2).1)
        (readFraction (takeDigits cs).2).1.length ∧
      cs = text ++ (readFraction (takeDigits cs).2).2 := by
  obtain ⟨hw, parts⟩ := takeDigits_spec cs
  revert after parts hw
  generalize (takeDigits cs).1 = whole
  generalize (takeDigits cs).2 = rest
  intro after hw parts
  unfold readFraction at after ⊢
  split at after
  · rename_i tail
    obtain ⟨hf, split⟩ := takeDigits_spec tail
    refine ⟨whole ++ '.' :: (takeDigits tail).1, .pointed hw hf after, ?_⟩
    rw [parts, List.append_assoc, List.cons_append, ← split]
  · rw [List.append_nil]
    exact ⟨whole, .whole hw (after.resolve_right (by simp)), parts⟩

theorem readFraction_append {text ds tail : List Char} {places : ℕ} (hm : Mantissa text ds places)
    (ends : Stops (fun c => c.isDigit || c == '.') tail) :
    ∃ whole after fraction, takeDigits (text ++ tail) = (whole, after) ∧
      readFraction after = (fraction, tail) ∧ whole ++ fraction = ds ∧ fraction.length = places := by
  have digitsEnd : Stops Char.isDigit tail := ends.mono fun c hc => by simp [hc]
  cases hm with
  | whole hd =>
    refine ⟨text, tail, [], takeDigits_append hd digitsEnd, ?_, List.append_nil text, rfl⟩
    rw [readFraction.eq_def]
    split
    · have outside := ends '.' rfl
      cases outside
    · rfl
  | @pointed whole fraction hw hf =>
    refine ⟨whole, '.' :: (fraction ++ tail), fraction, ?_, takeDigits_append hf digitsEnd, rfl, rfl⟩
    rw [List.append_assoc]
    exact takeDigits_append hw (stops_cons rfl)

/-- A text is read as a decimal that it shows, rounded to the format. -/
theorem read?_eq_some_iff {w : Width} {cs : List Char} {x : Binary w} :
    Binary.read? w cs = some x ↔
      ∃ negative digits exponent, DecimalText cs negative digits exponent ∧
        Binary.ofDecimal w negative digits exponent = x := by
  constructor
  · intro h
    obtain ⟨sign, hs, split⟩ := readSign_spec cs
    simp only [Binary.read?] at h
    split at h
    · cases h
    · rename_i some_digit
      have nonempty : (takeDigits (readSign cs).2).1 ≠ [] ∨
          (readFraction (takeDigits (readSign cs).2).2).1 ≠ [] := by
        simpa [imp_iff_not_or] using some_digit
      obtain ⟨text, hm, parts⟩ := readFraction_spec nonempty
      split at h
      · cases h
      · rename_i exponent
        cases h
        have shown := DecimalText.parts hs hm (readExponent_eq_some_iff.1 exponent)
        rw [← parts, ← split] at shown
        exact ⟨_, _, _, shown, rfl⟩
  · rintro ⟨negative, _, _, ⟨hs, hm, he⟩, rfl⟩
    have digits := hm.ne_nil
    have unsigned := hm.unsigned
    obtain ⟨whole, after, fraction, first, second, rfl, rfl⟩ := readFraction_append hm he.stops
    have some_digit : (whole.isEmpty && fraction.isEmpty) = false := by
      simpa [imp_iff_not_or, not_and_or] using digits
    simp only [Binary.read?, readSign_append hs (unsigned _), first, second, some_digit,
      Bool.false_eq_true, ↓reduceIte, readExponent_eq_some_iff.2 he]

end ModelClasses.Decimal
