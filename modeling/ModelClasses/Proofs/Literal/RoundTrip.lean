import ModelClasses.Proofs.Literal.Escape
import ModelClasses.Proofs.Literal.Number
import ModelClasses.Proofs.Literal.Readable

/-! # Literals denote the values that they are written for

What is written for a value is read as the value, whatever its arrays hold and however deep they
are. The reader finds the end of an item because what is behind a value in a literal, a comma, a
bracket or nothing, goes on with none of the values. -/

namespace ModelClasses

namespace Literal

open Decimal Text

theorem continuesName_of_startsName {c : Char} (h : startsName c) : continuesName c := by
  rw [startsName, Bool.or_eq_true] at h
  rcases h with h | h
  · simp [continuesName, h]
  · simp [continuesName, isAlphanumeric, h]

theorem isName_cons_iff {c : Char} {rest : List Char} :
    isName (c :: rest) = true ↔ startsName c ∧ ∀ d ∈ rest, continuesName d := by
  rw [isName, Bool.and_eq_true, List.all_eq_true]

theorem continuesName_of_isName {name : List Char} (h : isName name) :
    ∀ c ∈ name, continuesName c := by
  cases name with
  | nil => cases h
  | cons c rest =>
    obtain ⟨starts, continues⟩ := isName_cons_iff.1 h
    intro d hd
    rcases List.mem_cons.1 hd with rfl | hd
    · exact continuesName_of_startsName starts
    · exact continues d hd

theorem Delimited.stopsName {rest : List Char} (h : Delimited rest) : Stops continuesName rest := by
  intro c hc
  rcases h c hc with rfl | rfl <;> decide

theorem Delimited.classMark? {rest : List Char} (h : Delimited rest) : classMark? rest = none := by
  unfold Literal.classMark?
  split
  · rcases h ':' rfl with h | h <;> exact absurd h (by decide)
  · rfl

theorem readName_class (g : Option DeclarationGraph) {name rest after : List Char}
    (hn : isName name) (stops : Stops continuesName rest) (mark : classMark? rest = some after) :
    readName g (name ++ rest) = .ok (reference g name .class_, after) := by
  have continues := continuesName_of_isName hn
  simp only [readName, takeWhile_append_stops continues stops,
    dropWhile_append_stops continues stops, mark]

/-- A name without a mark is a word for a value, or else the name of an enum constant. -/
theorem readName_word (g : Option DeclarationGraph) {name rest : List Char} (hn : isName name)
    (stops : Stops continuesName rest) (unmarked : classMark? rest = none) :
    readName g (name ++ rest) =
      .ok ((reserved.lookup name).getD (reference g name .enumConstant), rest) := by
  have continues := continuesName_of_isName hn
  simp only [readName, takeWhile_append_stops continues stops,
    dropWhile_append_stops continues stops, unmarked]
  cases reserved.lookup name <;> rfl

theorem reference_eq {g : Option DeclarationGraph} {r : Reference} (h : r.Agrees g)
    {written : ReferenceKind} (hw : r.kind ≠ .singleton → r.kind = written) :
    reference g r.qualifiedName.toList written = .reference r := by
  rw [reference, String.ofList_toList]
  unfold Reference.Agrees at h
  cases found : g.bind (·.get? r.qualifiedName) with
  | none =>
    rw [found] at h
    rw [Option.map_none, Option.getD_none, ← hw h]
  | some d =>
    rw [found] at h
    rw [Option.map_some, Option.getD_some, ← h]

theorem readName_reference {g : Option DeclarationGraph} {r : Reference} (h : r.Readable g)
    {rest : List Char} (hr : Delimited rest) :
    readName g (ofReference r ++ rest) = .ok (.reference r, rest) := by
  obtain ⟨name, unreserved, agrees⟩ := h
  by_cases constant : r.kind = .enumConstant
  · have free : reserved.lookup r.qualifiedName.toList = none :=
      Option.isNone_iff_eq_none.1 (Option.isSome_eq_false_iff.1 (unreserved constant))
    rw [ofReference, if_pos constant, List.append_nil, readName_word g name hr.stopsName
      hr.classMark?, free, Option.getD_none, reference_eq agrees fun _ => constant]
  · have stops : Stops continuesName ("::class".toList ++ rest) := stops_cons (by decide)
    have mark : classMark? ("::class".toList ++ rest) = some rest := rfl
    rw [ofReference, if_neg constant, List.append_assoc, readName_class g name stops mark,
      reference_eq agrees]
    intro notSingleton
    cases h : r.kind <;> simp_all

theorem isName_reserved : ∀ entry ∈ reserved, isName entry.1 = true := by
  intro entry h
  simp only [reserved, List.mem_cons, List.not_mem_nil, or_false] at h
  rcases h with rfl | rfl | rfl | rfl | rfl | rfl | rfl | rfl | rfl <;> decide +kernel

theorem lookup_reserved : ∀ entry ∈ reserved, reserved.lookup entry.1 = some entry.2 := by
  intro entry h
  simp only [reserved, List.mem_cons, List.not_mem_nil, or_false] at h
  rcases h with rfl | rfl | rfl | rfl | rfl | rfl | rfl | rfl | rfl <;> rfl

theorem scalar_of_reserved : ∀ entry ∈ reserved, (∀ items, entry.2 ≠ .array items) ∧
    (∀ r, entry.2 ≠ .reference r) ∧ ∀ text, entry.2 ≠ .unsupported text := by
  simp [reserved]

theorem readName_reserved (g : Option DeclarationGraph) {name : List Char} {v : AnnotationValue}
    (h : (name, v) ∈ reserved) {rest : List Char} (hr : Delimited rest) :
    readName g (name ++ rest) = .ok (v, rest) := by
  rw [readName_word g (isName_reserved _ h) hr.stopsName hr.classMark?, lookup_reserved _ h,
    Option.getD_some]

theorem not_startsName_of_isDigit {c : Char} (h : c.isDigit) : startsName c = false := by
  have digits : ∀ n : Fin 128, (Char.ofNat n).isDigit → startsName (Char.ofNat n) = false := by decide
  have range := (Char.isDigit_iff_toNat.1 h).2
  simpa using digits ⟨c.toNat, by simp at range; omega⟩ (by simpa using h)

theorem readValue_number (g : Option DeclarationGraph) (fuel : ℕ) {cs : List Char}
    (h : StartsNumber cs) : readValue g (fuel + 1) cs = readNumber cs := by
  cases cs with
  | nil => exact h.elim
  | cons c rest =>
    rcases h with rfl | h
    · rfl
    · rw [readValue]
      · rw [if_pos (.inr h)]
      all_goals (intros; subst_vars; exact absurd h (by decide))

theorem readValue_name (g : Option DeclarationGraph) (fuel : ℕ) {c : Char} {rest : List Char}
    (h : startsName c) : readValue g (fuel + 1) (c :: rest) = readName g (c :: rest) := by
  have noNumber : ¬ (c = '-' ∨ c.isDigit) := by
    rintro (rfl | digit)
    · exact absurd h (by decide)
    · rw [not_startsName_of_isDigit digit] at h
      exact absurd h (by decide)
  rw [readValue]
  · rw [if_neg noNumber, if_pos h]
  all_goals (intros; subst_vars; exact absurd h (by decide))

/-- A name in front of a text is read as a name. -/
theorem readValue_isName (g : Option DeclarationGraph) (fuel : ℕ) {name : List Char}
    (h : isName name) (rest : List Char) :
    readValue g (fuel + 1) (name ++ rest) = readName g (name ++ rest) := by
  cases name with
  | nil => cases h
  | cons c name => exact readValue_name g fuel (isName_cons_iff.1 h).1

theorem readValue_string (g : Option DeclarationGraph) (fuel : ℕ) (s : String) (rest : List Char) :
    readValue g (fuel + 1) (ofString s ++ rest) = .ok (.string s, rest) := by
  have text : ofString s ++ rest = '"' :: (s.toList.flatMap (escape '"') ++ '"' :: rest) := by
    simp [ofString]
  rw [text, readValue, readText_flatMap_escape]
  simp [Except.map]

theorem readValue_char (g : Option DeclarationGraph) (fuel : ℕ) (c : Char) (rest : List Char) :
    readValue g (fuel + 1) (ofChar c ++ rest) = .ok (.char c, rest) := by
  have text : ofChar c ++ rest = '\'' :: (escape '\'' c ++ '\'' :: rest) := by simp [ofChar]
  rw [text, readValue, readChar_escape]
  rfl

theorem readValue_reserved (g : Option DeclarationGraph) (fuel : ℕ) (name : List Char)
    {v : AnnotationValue} (h : (name, v) ∈ reserved) {rest : List Char} (hr : Delimited rest) :
    readValue g (fuel + 1) (name ++ rest) = .ok (v, rest) := by
  rw [readValue_isName g fuel (isName_reserved _ h), readName_reserved g h hr]

theorem readValue_bool (g : Option DeclarationGraph) (fuel : ℕ) (b : Bool) {rest : List Char}
    (hr : Delimited rest) :
    readValue g (fuel + 1) (render (.bool b) ++ rest) = .ok (.bool b, rest) := by
  cases b with
  | true => exact readValue_reserved g fuel "true".toList (by simp [reserved]) hr
  | false => exact readValue_reserved g fuel "false".toList (by simp [reserved]) hr

theorem readValue_integer (g : Option DeclarationGraph) (fuel : ℕ) (i : Int64) {rest : List Char}
    (hr : Delimited rest) :
    readValue g (fuel + 1) (ofInteger i ++ rest) = .ok (.integer i, rest) := by
  by_cases least : i = Int64.minValue
  · rw [ofInteger, if_pos least, least]
    exact readValue_reserved g fuel _ (by simp [reserved]) hr
  · rw [ofInteger, if_neg least, readValue_number g fuel (startsNumber_intText _ rest),
      readNumber_integer i hr]

/-- A number is read as the value of its kind, if its constants are reserved for them and its digits are
read so. -/
theorem readValue_binary (g : Option DeclarationGraph) (fuel : ℕ) {w : Width} {name mark : List Char}
    {value : Binary w → AnnotationValue} {rest : List Char} (hr : Delimited rest)
    (nan : (name ++ ".NaN".toList, value .nan) ∈ reserved)
    (infinite : (name ++ ".POSITIVE_INFINITY".toList, value (.infinite false)) ∈ reserved ∧
      (name ++ ".NEGATIVE_INFINITY".toList, value (.infinite true)) ∈ reserved)
    (digits : ∀ negative s e h,
      readNumber (Layout.literal.render (.finite negative s e h) ++ (mark ++ rest)) =
        .ok (value (.finite negative s e h), rest)) (x : Binary w) :
    readValue g (fuel + 1) (ofBinary name mark x ++ rest) = .ok (value x, rest) := by
  match x with
  | .nan => exact readValue_reserved g fuel _ nan hr
  | .infinite false => exact readValue_reserved g fuel _ infinite.1 hr
  | .infinite true => exact readValue_reserved g fuel _ infinite.2 hr
  | .finite negative s e h =>
    rw [ofBinary, List.append_assoc, readValue_number g fuel (startsNumber_render negative h _), digits]

theorem readValue_float (g : Option DeclarationGraph) (fuel : ℕ) (x : Binary .single)
    {rest : List Char} (hr : Delimited rest) :
    readValue g (fuel + 1) (ofBinary "Float".toList ['F'] x ++ rest) = .ok (.float x, rest) := by
  refine readValue_binary g fuel hr ?_ ?_ (fun negative s e h => ?_) x
  · simp [reserved]
  · simp [reserved]
  · exact readNumber_single negative h rest

theorem readValue_double (g : Option DeclarationGraph) (fuel : ℕ) (x : Binary .double)
    {rest : List Char} (hr : Delimited rest) :
    readValue g (fuel + 1) (ofBinary "Double".toList [] x ++ rest) = .ok (.double x, rest) := by
  refine readValue_binary g fuel hr ?_ ?_ (fun negative s e h => ?_) x
  · simp [reserved]
  · simp [reserved]
  · exact readNumber_double negative h hr

theorem readValue_reference {g : Option DeclarationGraph} (fuel : ℕ) {r : Reference}
    (h : r.Readable g) {rest : List Char} (hr : Delimited rest) :
    readValue g (fuel + 1) (ofReference r ++ rest) = .ok (.reference r, rest) := by
  have front :
      readValue g (fuel + 1) (ofReference r ++ rest) = readName g (ofReference r ++ rest) := by
    rw [ofReference, List.append_assoc]
    exact readValue_isName g fuel h.name _
  rw [front, readName_reference h hr]

/-- All values but arrays. -/
theorem readValue_scalar {g : Option DeclarationGraph} {v : AnnotationValue} (h : v.Readable g)
    (scalar : ∀ items, v ≠ .array items) (fuel : ℕ) {rest : List Char} (hr : Delimited rest) :
    readValue g (fuel + 1) (render v ++ rest) = .ok (v, rest) := by
  cases v with
  | bool b => exact readValue_bool g fuel b hr
  | integer i => simpa only [render] using readValue_integer g fuel i hr
  | float x => simpa only [render] using readValue_float g fuel x hr
  | double x => simpa only [render] using readValue_double g fuel x hr
  | string s => simpa only [render] using readValue_string g fuel s rest
  | char c => simpa only [render] using readValue_char g fuel c rest
  | reference r =>
    have held : (AnnotationValue.reference r).Holds (.reference r) := .self _
    simpa only [render] using readValue_reference fuel (h.references r held) hr
  | array items => exact absurd rfl (scalar items)
  | unsupported text => exact absurd (.self _) (h.supported text)

/-- No value starts with the bracket that ends an array, or with a space. -/
theorem readValue_head {g : Option DeclarationGraph} {fuel : ℕ} {cs : List Char}
    {r : AnnotationValue × List Char} (h : readValue g fuel cs = .ok r) :
    ∃ c tail, cs = c :: tail ∧ c ≠ ']' ∧ c ≠ ' ' := by
  cases fuel with
  | zero => cases h
  | succ fuel =>
    cases cs with
    | nil => cases h
    | cons c tail =>
      refine ⟨c, tail, rfl, ?_, ?_⟩ <;> (rintro rfl; cases h)

theorem readItems_head {g : Option DeclarationGraph} {fuel : ℕ} {cs : List Char}
    {r : List AnnotationValue × List Char} (h : readItems g fuel cs = .ok r) :
    ∃ c tail, cs = c :: tail ∧ c ≠ ']' ∧ c ≠ ' ' := by
  cases fuel with
  | zero => cases h
  | succ fuel =>
    rw [readItems] at h
    split at h
    · cases h
    all_goals rename_i first; exact readValue_head first

theorem length_pos_of_readValue {g : Option DeclarationGraph} {fuel : ℕ} {cs : List Char}
    {r : AnnotationValue × List Char} (h : readValue g fuel (cs ++ []) = .ok r) : 0 < cs.length := by
  obtain ⟨c, tail, text, -⟩ := readValue_head h
  rw [List.append_nil] at text
  simp [text]

theorem delimited_nil : Delimited [] := by simp [Delimited]

theorem delimited_renderRest (items : List AnnotationValue) (rest : List Char) :
    Delimited (renderRest items ++ rest) := by
  cases items with
  | nil => intro c hc; cases hc; exact .inr rfl
  | cons v items => intro c hc; cases hc; exact .inl rfl

theorem readValue_array {g : Option DeclarationGraph} {fuel : ℕ} {cs rest : List Char}
    {items : List AnnotationValue} (h : readItems g fuel cs = .ok (items, rest)) :
    readValue g (fuel + 1) ('[' :: cs) = .ok (.array items, rest) := by
  obtain ⟨c, tail, rfl, notClosed, -⟩ := readItems_head h
  rw [readValue]
  · rw [h]; rfl
  · intro rest' same
    cases same
    exact notClosed rfl

/-- The spaces after a comma are passed over, and nothing else. -/
theorem readItems_comma {g : Option DeclarationGraph} {fuel : ℕ} (n : ℕ) {cs tail rest : List Char}
    {v : AnnotationValue} {items : List AnnotationValue}
    (first : readValue g fuel cs = .ok (v, ',' :: (List.replicate n ' ' ++ tail)))
    (others : readItems g fuel tail = .ok (items, rest)) :
    readItems g (fuel + 1) cs = .ok (v :: items, rest) := by
  obtain ⟨c, tail, rfl, -, notSpace⟩ := readItems_head others
  have spaces : (List.replicate n ' ' ++ c :: tail).dropWhile (· == ' ') = c :: tail :=
    dropWhile_append_stops (fun d hd => by simp [List.eq_of_mem_replicate hd])
      (stops_cons (by simpa using notSpace))
  rw [readItems, first]
  simp only [spaces, others]
  rfl

/-- A value is read from its text in front of what may stand behind it. -/
def ReadsBack (g : Option DeclarationGraph) (v : AnnotationValue) : Prop :=
  ∀ fuel rest, 2 * (render v).length ≤ fuel → Delimited rest →
    readValue g fuel (render v ++ rest) = .ok (v, rest)

theorem ReadsBack.length_pos {g : Option DeclarationGraph} {v : AnnotationValue}
    (h : ReadsBack g v) : 0 < (render v).length := by
  exact length_pos_of_readValue (h _ [] le_rfl delimited_nil)

/-- The items of an array are read from the first one on, up to the end of the array. -/
theorem readItems_render {g : Option DeclarationGraph} {v : AnnotationValue}
    {items : List AnnotationValue} (first : ReadsBack g v) (others : ∀ w ∈ items, ReadsBack g w)
    {fuel : ℕ} (hf : 2 * ((render v).length + (renderRest items).length) ≤ fuel)
    (rest : List Char) :
    readItems g fuel (render v ++ (renderRest items ++ rest)) = .ok (v :: items, rest) := by
  induction items generalizing v fuel with
  | nil =>
    obtain ⟨fuel, rfl⟩ : ∃ n, fuel = n + 1 := ⟨fuel - 1, by have := first.length_pos; omega⟩
    have closed := first fuel (renderRest [] ++ rest) (by simp [renderRest] at hf; omega)
      (delimited_renderRest [] rest)
    rw [readItems, closed]
    rfl
  | cons w items ih =>
    have next : ReadsBack g w := others w List.mem_cons_self
    have later : ∀ x ∈ items, ReadsBack g x := fun x hx => others x (List.mem_cons_of_mem w hx)
    obtain ⟨fuel, rfl⟩ : ∃ n, fuel = n + 1 := ⟨fuel - 1, by have := first.length_pos; omega⟩
    rw [renderRest, List.length_append, List.length_cons, List.length_cons] at hf
    have comma := first fuel (renderRest (w :: items) ++ rest) (by omega)
      (delimited_renderRest (w :: items) rest)
    have tail : renderRest (w :: items) ++ rest =
        ',' :: ' ' :: (render w ++ (renderRest items ++ rest)) := by simp [renderRest]
    rw [tail] at comma ⊢
    exact readItems_comma 1 comma (ih next later (by omega))

/-- The induction is on the value: an array is read back when its items are. -/
theorem readsBack_of_readable {g : Option DeclarationGraph} :
    ∀ v : AnnotationValue, v.Readable g → ReadsBack g v
  | .array [], _, fuel, rest, hf, _ => by
    obtain ⟨fuel, rfl⟩ : ∃ n, fuel = n + 1 := ⟨fuel - 1, by simp [render] at hf; omega⟩
    rfl
  | .array (w :: items), h, fuel, rest, hf, _ => by
    have readable := AnnotationValue.readable_array_iff.1 h
    have held : ∀ x ∈ w :: items, ReadsBack g x := fun x hx => readsBack_of_readable x (readable x hx)
    have first : ReadsBack g w := held w List.mem_cons_self
    have others : ∀ x ∈ items, ReadsBack g x := fun x hx => held x (List.mem_cons_of_mem w hx)
    rw [render, List.length_append, List.length_cons] at hf
    obtain ⟨fuel, rfl⟩ : ∃ n, fuel = n + 1 := ⟨fuel - 1, by omega⟩
    rw [render, List.append_assoc, List.cons_append]
    exact readValue_array (readItems_render first others (by omega) rest)
  | .bool _, h, fuel, _, hf, hr | .integer _, h, fuel, _, hf, hr | .float _, h, fuel, _, hf, hr
  | .double _, h, fuel, _, hf, hr | .string _, h, fuel, _, hf, hr | .char _, h, fuel, _, hf, hr
  | .reference _, h, fuel, _, hf, hr | .unsupported _, h, fuel, _, hf, hr => by
    have scalar := readValue_scalar h (fun _ same => by cases same)
    have positive := length_pos_of_readValue (scalar 0 delimited_nil)
    obtain ⟨fuel, rfl⟩ : ∃ n, fuel = n + 1 := ⟨fuel - 1, by omega⟩
    exact scalar fuel hr
termination_by v => sizeOf v
decreasing_by
  have smaller := List.sizeOf_lt_of_mem hx
  simp at smaller ⊢
  omega

/-- The fuel for a text is enough for what is written for a value. -/
theorem read_literal {g : Option DeclarationGraph} {v : AnnotationValue} (h : v.Readable g) :
    read g v.literal.toList = .ok v := by
  have whole := readsBack_of_readable v h (fuelFor (render v)) [] (by rw [fuelFor]; omega)
    delimited_nil
  rw [List.append_nil] at whole
  rw [AnnotationValue.literal, String.toList_ofList, read, whole]

end Literal

/-- What is written for a value is read as the value where the declarations are known. All values
of a width that are no numbers are one value here. -/
theorem AnnotationValue.parseIn_literal (g : DeclarationGraph) (v : AnnotationValue)
    (h : v.Readable (some g)) : AnnotationValue.parseIn g v.literal = .ok v := by
  rw [parseIn]
  exact Literal.read_literal h

/-- An object, an enum constant and a class that no declaration has, between texts with escapes,
the least integer and numbers without digits. -/
theorem AnnotationValue.parseIn_literal_nested :
    let g : DeclarationGraph := ⟨[{ package := "p", name := "Registry", kind := .object },
      { package := "p", name := "Color.Red", kind := .enumEntry }]⟩
    let v : AnnotationValue := .array [
      .array [.string "a\"$b\\\n\x07é😀", .char '\'', .array []],
      .integer Int64.minValue, .float .nan, .double (.infinite true),
      .reference ⟨"p.Registry", .singleton⟩, .reference ⟨"p.Color.Red", .enumConstant⟩,
      .array [.reference ⟨"_q.Unknown", .class_⟩]]
    v.Readable (some g) ∧ AnnotationValue.parseIn g v.literal = .ok v := by
  intro g v
  have registry : (reference ⟨"p.Registry", .singleton⟩).Readable (some g) :=
    readable_reference_iff.2 ⟨by decide +kernel, by decide, rfl⟩
  have red : (reference ⟨"p.Color.Red", .enumConstant⟩).Readable (some g) :=
    readable_reference_iff.2 ⟨by decide +kernel, by decide, rfl⟩
  have unknown : (reference ⟨"_q.Unknown", .class_⟩).Readable (some g) :=
    readable_reference_iff.2 ⟨by decide +kernel, by decide, fun same => by cases same⟩
  have readable : v.Readable (some g) := by
    have scalar : ∀ w, (∀ items, w ≠ array items) → (∀ r, w ≠ reference r) →
        (∀ text, w ≠ unsupported text) → w.Readable (some g) := fun _ => readable_scalar (some g)
    simp only [v, readable_array_iff, List.forall_mem_cons, List.not_mem_nil, IsEmpty.forall_iff,
      implies_true, and_true]
    refine ⟨⟨?_, ?_⟩, ?_, ?_, ?_, registry, red, unknown⟩ <;>
      exact scalar _ (by simp) (by simp) (by simp)
  exact ⟨readable, parseIn_literal g v readable⟩

end ModelClasses
