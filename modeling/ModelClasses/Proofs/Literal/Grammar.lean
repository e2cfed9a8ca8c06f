import ModelClasses.Proofs.Decimal.Grammar
import ModelClasses.Proofs.Literal.RoundTrip
import ModelClasses.Proofs.Outcome

/-! # The grammar of literals

Every rule says what a text denotes in front of the text behind it: a number and a name end where
nothing goes on with them. The parts of a literal are read as the rules say, and as nothing else. -/

namespace ModelClasses.Literal

open Decimal Text

/-- Four places that hold a number in hexadecimal digits; a plus sign may take the first one. -/
inductive CodeText : List Char → ℕ → Prop
  | digits {a b c d : Char} {w x y z : ℕ} (ha : hexValue? a = some w) (hb : hexValue? b = some x)
      (hc : hexValue? c = some y) (hd : hexValue? d = some z) :
      CodeText [a, b, c, d] (16 * (16 * (16 * w + x) + y) + z)
  | plus {b c d : Char} {x y z : ℕ} (hb : hexValue? b = some x) (hc : hexValue? c = some y)
      (hd : hexValue? d = some z) : CodeText ['+', b, c, d] (16 * (16 * x + y) + z)

/-- What stands behind a backslash, and the character that it denotes. -/
inductive EscapeText : List Char → Char → Prop
  | letter {e c : Char} (h : (e, c) ∈ [('n', '\n'), ('r', '\r'), ('t', '\t'), ('b', '\x08')]) :
      EscapeText [e] c
  | itself {c : Char} (h : c ∈ ['\\', '"', '\'', '$']) : EscapeText [c] c
  | code {places : List Char} {n : ℕ} (h : CodeText places n) (valid : n.isValidChar) :
      EscapeText ('u' :: places) (Char.ofNat n)

theorem hexNumber?_cons_iff {n m : ℕ} {c : Char} {rest : List Char} :
    hexNumber? n (c :: rest) = some m ↔
      ∃ d, hexValue? c = some d ∧ hexNumber? (16 * n + d) rest = some m := by
  rw [hexNumber?]
  cases hexValue? c <;> simp

theorem escapeCode?_eq_some_iff {a b c d : Char} {n : ℕ} :
    escapeCode? a b c d = some n ↔ CodeText [a, b, c, d] n := by
  have noDigit : hexValue? '+' = none := by decide
  constructor
  · intro h
    rw [escapeCode?] at h
    split at h
    · rename_i sign
      obtain ⟨x, hb, h⟩ := hexNumber?_cons_iff.1 h
      obtain ⟨y, hc, h⟩ := hexNumber?_cons_iff.1 h
      obtain ⟨z, hd, h⟩ := hexNumber?_cons_iff.1 h
      cases h
      rw [sign, Nat.mul_zero, Nat.zero_add]
      exact .plus hb hc hd
    · obtain ⟨w, ha, h⟩ := hexNumber?_cons_iff.1 h
      obtain ⟨x, hb, h⟩ := hexNumber?_cons_iff.1 h
      obtain ⟨y, hc, h⟩ := hexNumber?_cons_iff.1 h
      obtain ⟨z, hd, h⟩ := hexNumber?_cons_iff.1 h
      cases h
      rw [Nat.mul_zero, Nat.zero_add]
      exact .digits ha hb hc hd
  · rintro (⟨ha, hb, hc, hd⟩ | ⟨hb, hc, hd⟩)
    · have sign : a ≠ '+' := by
        rintro rfl
        cases noDigit.symm.trans ha
      simp [escapeCode?, sign, hexNumber?, ha, hb, hc, hd]
    · simp [escapeCode?, hexNumber?, hb, hc, hd]

theorem CodeText.length {places : List Char} {n : ℕ} (h : CodeText places n) : places.length = 4 := by
  cases h <;> rfl

theorem simpleEscape?_eq_some_iff {e c : Char} : simpleEscape? e = some c ↔ EscapeText [e] c := by
  constructor
  · intro h
    simp only [simpleEscape?] at h
    split at h
    · cases h; subst_vars; exact .letter (by simp)
    split at h
    · cases h; subst_vars; exact .letter (by simp)
    split at h
    · cases h; subst_vars; exact .letter (by simp)
    split at h
    · cases h; subst_vars; exact .letter (by simp)
    split at h
    · cases h
      exact .itself (by simpa)
    · cases h
  · intro h
    cases h with
    | letter h =>
      simp only [List.mem_cons, List.not_mem_nil, or_false, Prod.mk.injEq] at h
      rcases h with ⟨rfl, rfl⟩ | ⟨rfl, rfl⟩ | ⟨rfl, rfl⟩ | ⟨rfl, rfl⟩ <;> rfl
    | itself h =>
      simp only [List.mem_cons, List.not_mem_nil, or_false] at h
      rcases h with rfl | rfl | rfl | rfl <;> rfl
    | code h => cases h.length

theorem scalar?_eq_some_iff {n : ℕ} {c : Char} :
    scalar? n = some c ↔ n.isValidChar ∧ Char.ofNat n = c := by
  rw [scalar?]
  split <;> simp_all

theorem readEscape_eq_ok_iff {cs rest : List Char} {c : Char} :
    readEscape cs = .ok (c, rest) ↔ ∃ text, cs = text ++ rest ∧ EscapeText text c := by
  constructor
  · intro h
    unfold readEscape at h
    split at h
    · cases h
    · rename_i x y z w rest'
      split at h
      · rename_i found
        cases h
        obtain ⟨n, code, scalar⟩ := Option.bind_eq_some_iff.1 found
        obtain ⟨valid, rfl⟩ := scalar?_eq_some_iff.1 scalar
        exact ⟨['u', x, y, z, w], rfl, .code (escapeCode?_eq_some_iff.1 code) valid⟩
      · cases h
    · rename_i e rest' _
      split at h
      · rename_i simple
        cases h
        exact ⟨[e], rfl, simpleEscape?_eq_some_iff.1 simple⟩
      · cases h
  · rintro ⟨text, rfl, h⟩
    have simple {e : Char} (h : EscapeText [e] c) : readEscape (e :: rest) = .ok (c, rest) := by
      have found := simpleEscape?_eq_some_iff.2 h
      refine readEscape_simple found ?_ rest
      rintro rfl
      cases found
    cases h with
    | letter h => exact simple (.letter h)
    | itself h => exact simple (.itself h)
    | @code places n h valid =>
      have four := h.length
      obtain ⟨x, y, z, w, rfl⟩ := List.length_eq_four.1 four
      have code := escapeCode?_eq_some_iff.2 h
      have scalar := scalar?_eq_some_iff.2 ⟨valid, rfl⟩
      simp only [List.cons_append, List.nil_append, readEscape, code, Option.bind_some, scalar]

theorem EscapeText.reads {text : List Char} {c : Char} (h : EscapeText text c) (rest : List Char) :
    readEscape (text ++ rest) = .ok (c, rest) :=
  readEscape_eq_ok_iff.2 ⟨text, rfl, h⟩

/-- What stands between the quotes of a text, and its characters. -/
inductive QuotedText : List Char → List Char → Prop
  | nil : QuotedText [] []
  | plain {c : Char} {text cs : List Char} (noQuote : c ≠ '"') (noBackslash : c ≠ '\\')
      (h : QuotedText text cs) : QuotedText (c :: text) (c :: cs)
  | escape {c : Char} {e text cs : List Char} (he : EscapeText e c) (h : QuotedText text cs) :
      QuotedText ('\\' :: (e ++ text)) (c :: cs)

/-- What stands between the quotes of a character. -/
inductive QuotedChar : List Char → Char → Prop
  | plain {c : Char} (noBackslash : c ≠ '\\') : QuotedChar [c] c
  | escape {c : Char} {e : List Char} (he : EscapeText e c) : QuotedChar ('\\' :: e) c

theorem readText_eq_ok_iff {cs rest chars : List Char} :
    readText cs = .ok (chars, rest) ↔ ∃ text, cs = text ++ '"' :: rest ∧ QuotedText text chars := by
  constructor
  · intro h
    fun_induction readText cs generalizing chars with
    | case1 => cases h
    | case2 rest' =>
      cases h
      exact ⟨[], rfl, .nil⟩
    | case3 => cases h
    | case4 escaped c rest' found ih =>
      obtain ⟨⟨others, after⟩, reads, same⟩ := map_eq_ok_iff.1 h
      cases same
      obtain ⟨e, rfl, he⟩ := readEscape_eq_ok_iff.1 found
      obtain ⟨text, rfl, quoted⟩ := ih reads
      exact ⟨'\\' :: (e ++ text), by simp, .escape he quoted⟩
    | case5 c rest' noQuote noBackslash ih =>
      obtain ⟨⟨others, after⟩, reads, same⟩ := map_eq_ok_iff.1 h
      cases same
      obtain ⟨text, rfl, quoted⟩ := ih reads
      exact ⟨c :: text, rfl, .plain (by simpa using noQuote) (by simpa using noBackslash) quoted⟩
  · rintro ⟨text, rfl, h⟩
    induction h with
    | nil => simp [readText]
    | plain noQuote noBackslash _ ih =>
      rw [List.cons_append, readText_plain noBackslash noQuote, ih]
      rfl
    | @escape c e text cs he _ ih =>
      rw [List.cons_append, List.append_assoc, readText_escaped (he.reads _), ih]
      rfl

theorem expect_eq_ok_iff {expected : Char} {cs rest : List Char} :
    expect expected cs = .ok rest ↔ cs = expected :: rest := by
  cases cs with
  | nil => simp [expect]
  | cons c cs =>
    rw [expect]
    split <;> simp_all

theorem readChar_eq_ok_iff {cs rest : List Char} {c : Char} :
    readChar cs = .ok (c, rest) ↔ ∃ text, cs = text ++ '\'' :: rest ∧ QuotedChar text c := by
  have closes {after : List Char} {x : Char} :
      (expect '\'' after).map (fun later => (x, later)) = .ok (c, rest) ↔
        x = c ∧ after = '\'' :: rest := by
    rw [map_eq_ok_iff]
    simp only [expect_eq_ok_iff, Prod.mk.injEq]
    constructor
    · rintro ⟨later, rfl, rfl, rfl⟩
      exact ⟨rfl, rfl⟩
    · rintro ⟨rfl, rfl⟩
      exact ⟨rest, rfl, rfl, rfl⟩
  constructor
  · intro h
    unfold readChar at h
    split at h
    · cases h
    · rename_i escaped
      dsimp only at h
      split at h
      · cases h
      · rename_i first
        obtain ⟨rfl, rfl⟩ := closes.1 h
        obtain ⟨e, rfl, he⟩ := readEscape_eq_ok_iff.1 first
        exact ⟨'\\' :: e, rfl, .escape he⟩
    · rename_i x after noBackslash
      obtain ⟨rfl, rfl⟩ := closes.1 h
      exact ⟨[x], rfl, .plain (by simpa using noBackslash)⟩
  · rintro ⟨text, rfl, ⟨noBackslash⟩ | ⟨he⟩⟩
    · rw [List.singleton_append, readChar_plain noBackslash]
      exact closes.2 ⟨rfl, rfl⟩
    · rw [List.cons_append, readChar_escaped (he.reads _)]
      exact closes.2 ⟨rfl, rfl⟩

/-- A minus sign or a digit, and what a number goes on with. -/
inductive NumberRun : List Char → Prop
  | run {c : Char} {rest : List Char} (first : c = '-' ∨ c.isDigit) (h : IsRun c rest) :
      NumberRun (c :: rest)

/-- The text behind a run does not go on with it. -/
def Longest (run rest : List Char) : Prop :=
  ∀ last ∈ run.getLast?, Stops (continuesNumber last) rest

/-- A number in front of a text: a mark makes it one of single precision, and a point or an exponent one
of double precision. -/
inductive NumberText (rest : List Char) : List Char → AnnotationValue → Prop
  | float {run : List Char} {mark : Char} {negative : Bool} {digits : ℕ} {exponent : ℤ}
      (hr : NumberRun run) (hm : mark = 'F' ∨ mark = 'f')
      (shown : DecimalText run negative digits exponent) :
      NumberText rest (run ++ [mark]) (.float (Binary.ofDecimal .single negative digits exponent))
  | double {run : List Char} {negative : Bool} {digits : ℕ} {exponent : ℤ} (hr : NumberRun run)
      (longest : Longest run rest) (unmarked : ∀ c ∈ rest.head?, c ≠ 'F' ∧ c ≠ 'f')
      (fractional : '.' ∈ run ∨ 'e' ∈ run ∨ 'E' ∈ run)
      (shown : DecimalText run negative digits exponent) :
      NumberText rest run (.double (Binary.ofDecimal .double negative digits exponent))
  | integer {run : List Char} {i : Int64} (hr : NumberRun run) (longest : Longest run rest)
      (unmarked : ∀ c ∈ rest.head?, c ≠ 'F' ∧ c ≠ 'f')
      (whole : '.' ∉ run ∧ 'e' ∉ run ∧ 'E' ∉ run) (shown : IntegerText run i.toInt) :
      NumberText rest run (.integer i)

theorem spanNumber_eq_iff {last : Char} {cs run rest : List Char} :
    spanNumber last cs = (run, rest) ↔
      cs = run ++ rest ∧ IsRun last run ∧ Stops (continuesNumber (run.getLastD last)) rest := by
  induction cs generalizing last run with
  | nil =>
    rw [spanNumber, Prod.mk.injEq, List.nil_eq_append_iff]
    constructor
    · rintro ⟨rfl, rfl⟩
      exact ⟨⟨rfl, rfl⟩, trivial, stops_nil _⟩
    · rintro ⟨⟨rfl, rfl⟩, -⟩
      exact ⟨rfl, rfl⟩
  | cons c cs ih =>
    rw [spanNumber]
    split
    · rename_i continues
      constructor
      · rintro ⟨⟩
        obtain ⟨split, isRun, stops⟩ := ih.1 rfl
        exact ⟨congrArg (c :: ·) split, ⟨continues, isRun⟩, by rwa [List.getLastD_cons]⟩
      · rintro ⟨split, isRun, stops⟩
        cases run with
        | nil =>
          have outside : continuesNumber last c = false := stops c (congrArg List.head? split).symm
          cases outside.symm.trans continues
        | cons c' run =>
          obtain ⟨rfl, later⟩ := List.cons.inj split
          rw [List.getLastD_cons] at stops
          rw [ih.2 ⟨later, isRun.2, stops⟩]
    · rename_i other
      constructor
      · rintro ⟨⟩
        exact ⟨rfl, trivial, stops_cons (by simpa using other)⟩
      · rintro ⟨split, isRun, -⟩
        cases run with
        | nil =>
          rw [split]
          rfl
        | cons c' run =>
          cases split
          exact absurd isRun.1 other

theorem isFractional_iff {run : List Char} :
    isFractional run = true ↔ '.' ∈ run ∨ 'e' ∈ run ∨ 'E' ∈ run := by
  simp only [isFractional, List.any_eq_true, Bool.or_eq_true, beq_iff_eq, or_assoc]
  constructor
  · rintro ⟨c, hc, rfl | rfl | rfl⟩ <;> simp [hc]
  · rintro (h | h | h)
    · exact ⟨_, h, by simp⟩
    · exact ⟨_, h, by simp⟩
    · exact ⟨_, h, by simp⟩

theorem longest_cons_iff {c : Char} {run rest : List Char} :
    Longest (c :: run) rest ↔ Stops (continuesNumber (run.getLastD c)) rest := by
  simp [Longest, List.getLast?_cons, List.getLastD_eq_getLast?]

theorem longest_marked {mark : Char} (hm : mark = 'F' ∨ mark = 'f') (run rest : List Char) :
    Longest run (mark :: rest) := by
  intro last _
  rcases hm with rfl | rfl <;> exact stops_cons rfl

theorem spanSigned_cons {c : Char} {cs : List Char} (starts : StartsNumber (c :: cs)) :
    spanSigned (c :: cs) = (c :: (spanNumber c cs).1, (spanNumber c cs).2) := by
  rcases starts with rfl | digit
  · rfl
  · have noSign : c ≠ '-' := by
      rintro rfl
      cases digit
    rw [spanSigned]
    · rw [spanNumber, if_pos (by simp [continuesNumber, digit])]
    · rintro tail ⟨⟩
      exact noSign rfl

theorem spanSigned_eq_iff {cs run rest : List Char} (starts : StartsNumber cs) :
    spanSigned cs = (run, rest) ↔ cs = run ++ rest ∧ NumberRun run ∧ Longest run rest := by
  cases cs with
  | nil => exact starts.elim
  | cons c cs =>
    rw [spanSigned_cons starts]
    constructor
    · rintro ⟨⟩
      obtain ⟨split, isRun, stops⟩ := spanNumber_eq_iff.1 (rfl : spanNumber c cs = (_, _))
      exact ⟨congrArg (c :: ·) split, .run starts isRun, longest_cons_iff.2 stops⟩
    · rintro ⟨split, ⟨_, isRun⟩, longest⟩
      obtain ⟨rfl, later⟩ := List.cons.inj split
      rw [spanNumber_eq_iff.2 ⟨later, isRun, longest_cons_iff.1 longest⟩]

theorem readLong?_eq_some_iff {run : List Char} {i : Int64} :
    readLong? run = some i ↔ IntegerText run i.toInt := by
  rw [readLong?, Option.bind_eq_some_iff]
  simp only [readInteger?_eq_some_iff, Word.long?_eq_some_iff, exists_eq_right']

theorem orNumber_eq_ok_iff {run rest rest' : List Char} {found : Option AnnotationValue}
    {v : AnnotationValue} :
    orNumber run found rest = .ok (v, rest') ↔ found = some v ∧ rest = rest' := by
  cases found <;> simp [orNumber]

theorem NumberText.starts {rest text : List Char} {v : AnnotationValue} (h : NumberText rest text v) :
    ∃ c tail, text = c :: tail ∧ (c = '-' ∨ c.isDigit) := by
  cases h with
  | float hr => obtain ⟨first, -⟩ := hr; exact ⟨_, _, rfl, first⟩
  | double hr => obtain ⟨first, -⟩ := hr; exact ⟨_, _, rfl, first⟩
  | integer hr => obtain ⟨first, -⟩ := hr; exact ⟨_, _, rfl, first⟩

theorem readNumber_eq_ok_iff {cs rest : List Char} {v : AnnotationValue} (starts : StartsNumber cs) :
    readNumber cs = .ok (v, rest) ↔ ∃ text, cs = text ++ rest ∧ NumberText rest text v := by
  constructor
  · intro h
    obtain ⟨run, after, span⟩ : ∃ run after, spanSigned cs = (run, after) := ⟨_, _, rfl⟩
    obtain ⟨rfl, hr, longest⟩ := (spanSigned_eq_iff starts).1 span
    by_cases unmarked : ∀ c ∈ after.head?, c ≠ 'F' ∧ c ≠ 'f'
    · rw [readNumber_unmarked unmarked span] at h
      split at h
      · rename_i fractional
        obtain ⟨found, rfl⟩ := orNumber_eq_ok_iff.1 h
        obtain ⟨x, reads, rfl⟩ := Option.map_eq_some_iff.1 found
        obtain ⟨_, _, _, shown, rfl⟩ := read?_eq_some_iff.1 reads
        exact ⟨run, rfl, .double hr longest unmarked (isFractional_iff.1 fractional) shown⟩
      · rename_i whole
        obtain ⟨found, rfl⟩ := orNumber_eq_ok_iff.1 h
        obtain ⟨i, reads, rfl⟩ := Option.map_eq_some_iff.1 found
        rw [isFractional_iff, not_or, not_or] at whole
        exact ⟨run, rfl, .integer hr longest unmarked whole (readLong?_eq_some_iff.1 reads)⟩
    · cases after with
      | nil => exact absurd (by simp) unmarked
      | cons mark after =>
        have hm : mark = 'F' ∨ mark = 'f' := by
          simpa [imp_iff_not_or, not_and_or] using unmarked
        rw [readNumber_marked hm span] at h
        obtain ⟨found, rfl⟩ := orNumber_eq_ok_iff.1 h
        obtain ⟨x, reads, rfl⟩ := Option.map_eq_some_iff.1 found
        obtain ⟨_, _, _, shown, rfl⟩ := read?_eq_some_iff.1 reads
        exact ⟨run ++ [mark], by simp, .float hr hm shown⟩
  · rintro ⟨text, rfl, h⟩
    cases h with
    | float hr hm shown =>
      have span := (spanSigned_eq_iff starts).2
        ⟨List.append_assoc .., hr, longest_marked hm _ rest⟩
      rw [readNumber_marked hm span, read?_eq_some_iff.2 ⟨_, _, _, shown, rfl⟩]
      rfl
    | double hr longest unmarked fractional shown =>
      have span := (spanSigned_eq_iff starts).2 ⟨rfl, hr, longest⟩
      rw [readNumber_unmarked unmarked span, if_pos (isFractional_iff.2 fractional),
        read?_eq_some_iff.2 ⟨_, _, _, shown, rfl⟩]
      rfl
    | integer hr longest unmarked whole shown =>
      have span := (spanSigned_eq_iff starts).2 ⟨rfl, hr, longest⟩
      rw [← not_or, ← not_or, ← isFractional_iff] at whole
      rw [readNumber_unmarked unmarked span, if_neg whole, readLong?_eq_some_iff.2 shown]
      rfl

/-- A name in front of a text: the mark of a class behind it makes it a reference to a class, some
names are words for values, and every other one refers to an enum constant. -/
inductive NameText (g : Option DeclarationGraph) (rest : List Char) : List Char → AnnotationValue → Prop
  | class_ {name : List Char} (hn : isName name) :
      NameText g rest (name ++ "::class".toList) (reference g name .class_)
  | word {name : List Char} {v : AnnotationValue} (h : (name, v) ∈ reserved)
      (longest : Stops continuesName rest) (unmarked : ¬ "::class".toList <+: rest) :
      NameText g rest name v
  | constant {name : List Char} (hn : isName name) (free : ∀ v, (name, v) ∉ reserved)
      (longest : Stops continuesName rest) (unmarked : ¬ "::class".toList <+: rest) :
      NameText g rest name (reference g name .enumConstant)

theorem classMark?_eq_some_iff {rest after : List Char} :
    classMark? rest = some after ↔ rest = "::class".toList ++ after := by
  constructor
  · intro h
    unfold classMark? at h
    split at h
    · cases h; rfl
    · cases h
  · rintro rfl
    rfl

theorem classMark?_eq_none_iff {rest : List Char} :
    classMark? rest = none ↔ ¬ "::class".toList <+: rest := by
  rw [Option.eq_none_iff_forall_ne_some]
  simp only [Ne, classMark?_eq_some_iff, List.IsPrefix, not_exists, eq_comm (a := rest)]

theorem lookup_reserved_iff {name : List Char} {v : AnnotationValue} :
    reserved.lookup name = some v ↔ (name, v) ∈ reserved := by
  constructor
  · intro h
    obtain ⟨before, after, split, -⟩ := List.lookup_eq_some_iff.1 h
    rw [split]
    simp
  · exact lookup_reserved (name, v)

theorem exists_startsName {name : List Char} (hn : isName name) :
    ∃ c tail, name = c :: tail ∧ startsName c := by
  cases name with
  | nil => cases hn
  | cons c tail => exact ⟨c, tail, rfl, (isName_cons_iff.1 hn).1⟩

theorem NameText.starts {g : Option DeclarationGraph} {rest text : List Char} {v : AnnotationValue}
    (h : NameText g rest text v) : ∃ c tail, text = c :: tail ∧ startsName c := by
  cases h with
  | class_ hn =>
    obtain ⟨c, tail, rfl, starts⟩ := exists_startsName hn
    exact ⟨c, _, rfl, starts⟩
  | word h => exact exists_startsName (isName_reserved _ h)
  | constant hn => exact exists_startsName hn

theorem readName_eq_ok_iff {g : Option DeclarationGraph} {c : Char} {cs rest : List Char}
    {v : AnnotationValue} (starts : startsName c) :
    readName g (c :: cs) = .ok (v, rest) ↔
      ∃ text, c :: cs = text ++ rest ∧ NameText g rest text v := by
  constructor
  · intro h
    obtain ⟨name, after, parts, hn, stops⟩ : ∃ name after, c :: cs = name ++ after ∧
        Literal.isName name ∧ Stops continuesName after := by
      refine ⟨c :: cs.takeWhile continuesName, cs.dropWhile continuesName, ?_, ?_, ?_⟩
      · rw [List.cons_append, List.takeWhile_append_dropWhile]
      · exact isName_cons_iff.2 ⟨starts, fun d hd => List.mem_takeWhile_imp hd⟩
      · exact stops_dropWhile continuesName cs
    rw [parts] at h ⊢
    cases mark : classMark? after with
    | some later =>
      rw [readName_class g hn stops mark] at h
      cases h
      rw [classMark?_eq_some_iff.1 mark, ← List.append_assoc]
      exact ⟨_, rfl, .class_ hn⟩
    | none =>
      have unmarked := classMark?_eq_none_iff.1 mark
      rw [readName_word g hn stops mark] at h
      cases found : reserved.lookup name with
      | some w =>
        rw [found] at h
        cases h
        exact ⟨name, rfl, .word (lookup_reserved_iff.1 found) stops unmarked⟩
      | none =>
        rw [found] at h
        cases h
        have free : ∀ w, (name, w) ∉ reserved := fun w hw => by
          cases found.symm.trans (lookup_reserved_iff.2 hw)
        exact ⟨name, rfl, .constant hn free stops unmarked⟩
  · rintro ⟨text, split, h⟩
    rw [split]
    cases h with
    | class_ hn =>
      rw [List.append_assoc]
      exact readName_class g hn (stops_cons (by decide)) rfl
    | word h longest unmarked =>
      rw [readName_word g (isName_reserved _ h) longest (classMark?_eq_none_iff.2 unmarked),
        lookup_reserved_iff.2 h, Option.getD_some]
    | constant hn free longest unmarked =>
      have unreserved : reserved.lookup text = none :=
        Option.eq_none_iff_forall_ne_some.2 fun w found => free w (lookup_reserved_iff.1 found)
      rw [readName_word g hn longest (classMark?_eq_none_iff.2 unmarked), unreserved,
        Option.getD_none]

end ModelClasses.Literal
