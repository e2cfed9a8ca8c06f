import ModelClasses.LiteralReader
import ModelClasses.Proofs.Decimal.Numeral

/-! # Numbers in literals read back

A number is taken from the front of a text as one run of characters. What is written for an integer
or a finite number is such a run, and what follows it in a literal does not continue the run. -/

namespace ModelClasses.Literal

open Decimal Text

def IsRun (last : Char) : List Char → Prop
  | [] => True
  | c :: rest => continuesNumber last c ∧ IsRun c rest

/-- A text that goes on with no number, whatever stands before it. -/
def EndsNumber (rest : List Char) : Prop := ∀ last, Stops (continuesNumber last) rest

theorem spanNumber_append {rest : List Char} (ends : EndsNumber rest) {cs : List Char} {last : Char}
    (run : IsRun last cs) : spanNumber last (cs ++ rest) = (cs, rest) := by
  induction cs generalizing last with
  | nil =>
    cases rest with
    | nil => rfl
    | cons c rest => simp [spanNumber, ends last c rfl]
  | cons c cs ih =>
    obtain ⟨continues, run⟩ := run
    rw [List.cons_append, spanNumber, if_pos continues, ih run]

theorem isRun_append_digits {ds rest : List Char} (hd : AreDigits ds)
    (run : ∀ last, IsRun last rest) (last : Char) : IsRun last (ds ++ rest) := by
  induction ds generalizing last with
  | nil => exact run last
  | cons d ds ih =>
    exact ⟨by simp [continuesNumber, hd d List.mem_cons_self],
      ih (fun c hc => hd c (List.mem_cons_of_mem d hc)) d⟩

theorem isRun_digits {ds : List Char} (hd : AreDigits ds) (last : Char) : IsRun last ds := by
  have none (last : Char) : IsRun last [] := trivial
  simpa using isRun_append_digits hd none last

/-- An integer after an exponent mark. -/
theorem isRun_intText (e : ℤ) : IsRun 'e' (Layout.intText e) := by
  rw [intText_eq]
  have digits := isRun_digits (areDigits_natText e.natAbs)
  by_cases h : e < 0
  · rw [decide_eq_true h]
    exact ⟨rfl, digits _⟩
  · rw [decide_eq_false h]
    exact digits _

theorem isRun_exponent {tail : List Char} {e : ℤ} (h : ExponentText tail e) (last : Char) :
    IsRun last tail := by
  cases h with
  | absent => trivial
  | plain => exact ⟨rfl, isRun_intText e⟩
  | plus positive =>
    refine ⟨rfl, rfl, ?_⟩
    rw [Layout.intText, if_neg (by omega)]
    exact isRun_digits (areDigits_natText e.natAbs) _

theorem isRun_numeral {text : List Char} {digits : ℕ} {exponent : ℤ}
    (h : Numeral text digits exponent) (last : Char) : IsRun last text := by
  cases h with
  | pointed wholeDigits _ fractionDigits mark =>
    apply isRun_append_digits wholeDigits
    intro last
    exact ⟨rfl, isRun_append_digits fractionDigits (isRun_exponent mark) _⟩
  | marked wholeDigits _ mark => exact isRun_append_digits wholeDigits (isRun_exponent mark) last

theorem head?_ne_minus {ds : List Char} (hd : AreDigits ds) (nonempty : ds ≠ []) (rest : List Char) :
    (ds ++ rest).head? ≠ some '-' := by
  cases ds with
  | nil => exact absurd rfl nonempty
  | cons d ds =>
    intro h
    cases h
    exact absurd (hd '-' List.mem_cons_self) (by decide)

theorem numeral_head? {text : List Char} {digits : ℕ} {exponent : ℤ}
    (h : Numeral text digits exponent) : text.head? ≠ some '-' := by
  cases h with
  | pointed wholeDigits nonempty => exact head?_ne_minus wholeDigits nonempty _
  | marked wholeDigits nonempty => exact head?_ne_minus wholeDigits nonempty _

/-- A run without a sign of its own is taken together with the sign before it. -/
theorem spanSigned_sign {run rest : List Char} (ends : EndsNumber rest)
    (isRun : ∀ last, IsRun last run) (noSign : run.head? ≠ some '-') (negative : Bool) :
    spanSigned (Layout.sign negative ++ run ++ rest) = (Layout.sign negative ++ run, rest) := by
  cases negative with
  | true =>
    have span := spanNumber_append ends (isRun '-')
    simp [Layout.sign, spanSigned, span]
  | false =>
    have span := spanNumber_append ends (isRun ' ')
    have unsigned : spanSigned (run ++ rest) = spanNumber ' ' (run ++ rest) := by
      unfold spanSigned
      split
      · rename_i tail start
        cases run with
        | nil =>
          rw [List.nil_append] at start
          have stops := ends 'e' '-' (by rw [start]; rfl)
          exact absurd stops (by decide)
        | cons c run =>
          rw [List.cons_append] at start
          cases start
          exact absurd rfl noSign
      · rfl
    simpa [Layout.sign, unsigned] using span

/-- What may stand behind a value: the end of the text, or what goes on with an array or ends it. -/
def Delimited (rest : List Char) : Prop := ∀ c ∈ rest.head?, c = ',' ∨ c = ']'

theorem Delimited.endsNumber {rest : List Char} (h : Delimited rest) : EndsNumber rest := by
  intro last c hc
  rcases h c hc with rfl | rfl <;> rfl

theorem isFractional_sign (negative : Bool) (run : List Char) :
    isFractional (Layout.sign negative ++ run) = isFractional run := by
  cases negative <;> rfl

theorem isFractional_digits {ds : List Char} (hd : AreDigits ds) : isFractional ds = false := by
  rw [isFractional, List.any_eq_false]
  intro c hc
  have digit := hd c hc
  rw [Bool.not_eq_true, Bool.or_eq_false_iff, Bool.or_eq_false_iff]
  refine ⟨⟨?_, ?_⟩, ?_⟩ <;> (rw [beq_eq_false_iff_ne]; rintro rfl; exact absurd digit (by decide))

theorem isFractional_numeral {text : List Char} {digits : ℕ} {exponent : ℤ}
    (h : Numeral text digits exponent) : isFractional text = true := by
  cases h <;> simp [isFractional]

theorem Delimited.unmarked {rest : List Char} (h : Delimited rest) :
    ∀ c ∈ rest.head?, c ≠ 'F' ∧ c ≠ 'f' := by
  intro c hc
  rcases h c hc with rfl | rfl <;> decide

/-- A mark behind a run makes it a number of single precision. -/
theorem readNumber_marked {run rest cs : List Char} {mark : Char} (hm : mark = 'F' ∨ mark = 'f')
    (span : spanSigned cs = (run, mark :: rest)) :
    readNumber cs = orNumber run ((Binary.read? .single run).map .float) rest := by
  unfold readNumber
  rw [span]
  rcases hm with rfl | rfl <;> rfl

/-- A run without a mark behind it is an integer or a double. -/
theorem readNumber_unmarked {run rest cs : List Char}
    (unmarked : ∀ c ∈ rest.head?, c ≠ 'F' ∧ c ≠ 'f') (span : spanSigned cs = (run, rest)) :
    readNumber cs =
      if isFractional run then orNumber run ((Binary.read? .double run).map .double) rest
      else orNumber run ((readLong? run).map .integer) rest := by
  unfold readNumber
  rw [span]
  dsimp only
  split
  · exact absurd rfl (unmarked 'F' rfl).1
  · exact absurd rfl (unmarked 'f' rfl).2
  · rfl

theorem readNumber_integer (i : Int64) {rest : List Char} (h : Delimited rest) :
    readNumber (Layout.intText i.toInt ++ rest) = .ok (.integer i, rest) := by
  have digits := areDigits_natText i.toInt.natAbs
  have span := spanSigned_sign h.endsNumber (isRun_digits digits)
    (by simpa using head?_ne_minus digits (natText_ne_nil _) []) (decide (i.toInt < 0))
  rw [← intText_eq] at span
  have whole : isFractional (Layout.intText i.toInt) = false := by
    rw [intText_eq, isFractional_sign, isFractional_digits digits]
  rw [readNumber_unmarked h.unmarked span, whole, readLong?, readInteger?_intText, Option.bind_some,
    Word.long?_toInt]
  rfl

theorem span_render {w : Width} (negative : Bool) {s : ℕ} {e : ℤ} (h : w.Canonical s e)
    {rest : List Char} (ends : EndsNumber rest) :
    spanSigned (Layout.literal.render (.finite negative s e h) ++ rest) =
      (Layout.literal.render (.finite negative s e h), rest) := by
  obtain ⟨text, _, _, written, numeral, -⟩ := render_numeral Layout.literal negative h
  rw [written]
  exact spanSigned_sign ends (isRun_numeral numeral) (numeral_head? numeral) negative

theorem readNumber_single (negative : Bool) {s : ℕ} {e : ℤ} (h : Width.single.Canonical s e)
    (rest : List Char) :
    readNumber (Layout.literal.render (.finite negative s e h) ++ 'F' :: rest) =
      .ok (.float (.finite negative s e h), rest) := by
  have ends : EndsNumber ('F' :: rest) := fun _ => stops_cons rfl
  rw [readNumber_marked (.inl rfl) (span_render negative h ends),
    read?_render Layout.literal negative h]
  rfl

theorem readNumber_double (negative : Bool) {s : ℕ} {e : ℤ} (h : Width.double.Canonical s e)
    {rest : List Char} (delimited : Delimited rest) :
    readNumber (Layout.literal.render (.finite negative s e h) ++ rest) =
      .ok (.double (.finite negative s e h), rest) := by
  have fractional : isFractional (Layout.literal.render (.finite negative s e h)) = true := by
    obtain ⟨text, _, _, written, numeral, -⟩ := render_numeral Layout.literal negative h
    rw [written, isFractional_sign, isFractional_numeral numeral]
  rw [readNumber_unmarked delimited.unmarked (span_render negative h delimited.endsNumber), fractional,
    read?_render Layout.literal negative h]
  rfl

/-- A number starts with a minus sign or a digit. -/
def StartsNumber : List Char → Prop
  | [] => False
  | c :: _ => c = '-' ∨ c.isDigit

theorem startsNumber_sign {ds : List Char} (hd : AreDigits ds) (nonempty : ds ≠ [])
    (negative : Bool) (rest : List Char) : StartsNumber (Layout.sign negative ++ (ds ++ rest)) := by
  cases negative with
  | true => exact .inl rfl
  | false =>
    cases ds with
    | nil => exact absurd rfl nonempty
    | cons d ds => exact .inr (hd d List.mem_cons_self)

theorem startsNumber_intText (i : ℤ) (rest : List Char) :
    StartsNumber (Layout.intText i ++ rest) := by
  rw [intText_eq, List.append_assoc]
  exact startsNumber_sign (areDigits_natText _) (natText_ne_nil _) _ rest

theorem startsNumber_render {w : Width} (negative : Bool) {s : ℕ} {e : ℤ} (h : w.Canonical s e)
    (rest : List Char) :
    StartsNumber (Layout.literal.render (.finite negative s e h) ++ rest) := by
  obtain ⟨text, _, _, written, numeral, -⟩ := render_numeral Layout.literal negative h
  rw [written, List.append_assoc]
  cases numeral with
  | pointed wholeDigits nonempty =>
    rw [List.append_assoc]
    exact startsNumber_sign wholeDigits nonempty negative _
  | marked wholeDigits nonempty =>
    rw [List.append_assoc]
    exact startsNumber_sign wholeDigits nonempty negative _

end ModelClasses.Literal
