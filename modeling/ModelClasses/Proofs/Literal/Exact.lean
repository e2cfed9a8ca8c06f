import ModelClasses.Proofs.Literal.Grammar

/-! # Literals are read exactly as the grammar says

Arrays and their items are derived together. What is read from the front of a text is derived in
front of what is left, and the fuel for a text is enough for every derivation of a part of it. -/

namespace ModelClasses

namespace Literal

open Decimal Text

mutual
/-- In front of `rest`, a text denotes a value. -/
inductive Denotes (g : Option DeclarationGraph) : List Char → List Char → AnnotationValue → Prop
  | emptyArray {rest : List Char} : Denotes g rest ['[', ']'] (.array [])
  | array {rest text : List Char} {items : List AnnotationValue} (h : DenoteItems g rest text items) :
      Denotes g rest ('[' :: text) (.array items)
  | string {rest text cs : List Char} (h : QuotedText text cs) :
      Denotes g rest ('"' :: (text ++ ['"'])) (.string (String.ofList cs))
  | char {rest text : List Char} {c : Char} (h : QuotedChar text c) :
      Denotes g rest ('\'' :: (text ++ ['\''])) (.char c)
  | number {rest text : List Char} {v : AnnotationValue} (h : NumberText rest text v) :
      Denotes g rest text v
  | name {rest text : List Char} {v : AnnotationValue} (h : NameText g rest text v) :
      Denotes g rest text v

/-- The items of an array up to its end. Spaces may stand behind a comma. -/
inductive DenoteItems (g : Option DeclarationGraph) :
    List Char → List Char → List AnnotationValue → Prop
  | last {rest text : List Char} {v : AnnotationValue} (h : Denotes g (']' :: rest) text v) :
      DenoteItems g rest (text ++ [']']) [v]
  | comma {rest text later : List Char} {v : AnnotationValue} {items : List AnnotationValue} (n : ℕ)
      (first : Denotes g (',' :: (List.replicate n ' ' ++ (later ++ rest))) text v)
      (others : DenoteItems g rest later items) :
      DenoteItems g rest (text ++ ',' :: (List.replicate n ' ' ++ later)) (v :: items)
end

theorem readItems_sound {g : Option DeclarationGraph} {fuel : ℕ}
    (value : ∀ {cs rest v}, readValue g fuel cs = .ok (v, rest) →
      ∃ text, cs = text ++ rest ∧ Denotes g rest text v)
    (later : ∀ {cs rest vs}, readItems g fuel cs = .ok (vs, rest) →
      ∃ text, cs = text ++ rest ∧ DenoteItems g rest text vs)
    {cs rest : List Char} {vs : List AnnotationValue} (h : readItems g (fuel + 1) cs = .ok (vs, rest)) :
    ∃ text, cs = text ++ rest ∧ DenoteItems g rest text vs := by
  rw [readItems] at h
  split at h
  · cases h
  · cases h
  · rename_i first
    cases h
    obtain ⟨text, rfl, denotes⟩ := value first
    exact ⟨text ++ [']'], by simp, .last denotes⟩
  · rename_i v after first
    obtain ⟨⟨items, rest'⟩, others, same⟩ := map_eq_ok_iff.1 h
    cases same
    obtain ⟨text, rfl, denotes⟩ := value first
    obtain ⟨tail, split, items⟩ := later others
    obtain ⟨n, spaces⟩ := exists_replicate_append_dropWhile ' ' after
    rw [spaces, split] at denotes ⊢
    exact ⟨_, by simp, .comma n denotes items⟩
  · cases h

theorem readValue_sound {g : Option DeclarationGraph} {fuel : ℕ}
    (later : ∀ {cs rest vs}, readItems g fuel cs = .ok (vs, rest) →
      ∃ text, cs = text ++ rest ∧ DenoteItems g rest text vs)
    {cs rest : List Char} {v : AnnotationValue} (h : readValue g (fuel + 1) cs = .ok (v, rest)) :
    ∃ text, cs = text ++ rest ∧ Denotes g rest text v := by
  rw [readValue.eq_def] at h
  dsimp only at h
  split at h
  · cases h
  · cases h
    exact ⟨['[', ']'], rfl, .emptyArray⟩
  · obtain ⟨⟨items, rest'⟩, others, same⟩ := map_eq_ok_iff.1 h
    cases same
    obtain ⟨text, rfl, items⟩ := later others
    exact ⟨'[' :: text, rfl, .array items⟩
  · obtain ⟨⟨chars, rest'⟩, reads, same⟩ := map_eq_ok_iff.1 h
    cases same
    obtain ⟨text, rfl, quoted⟩ := readText_eq_ok_iff.1 reads
    exact ⟨'"' :: (text ++ ['"']), by simp, .string quoted⟩
  · obtain ⟨⟨c, rest'⟩, reads, same⟩ := map_eq_ok_iff.1 h
    cases same
    obtain ⟨text, rfl, quoted⟩ := readChar_eq_ok_iff.1 reads
    exact ⟨'\'' :: (text ++ ['\'']), by simp, .char quoted⟩
  · rename_i c cs _ _ _ _
    split at h
    · rename_i starts
      have front : StartsNumber (c :: cs) := starts
      obtain ⟨text, split, number⟩ := (readNumber_eq_ok_iff front).1 h
      exact ⟨text, split, .number number⟩
    split at h
    · rename_i starts
      obtain ⟨text, split, name⟩ := (readName_eq_ok_iff starts).1 h
      exact ⟨text, split, .name name⟩
    · cases h

/-- The induction is on the fuel, which reading a value and reading items share. -/
theorem read_sound (g : Option DeclarationGraph) (fuel : ℕ) :
    (∀ {cs rest v}, readValue g fuel cs = .ok (v, rest) →
      ∃ text, cs = text ++ rest ∧ Denotes g rest text v) ∧
    (∀ {cs rest vs}, readItems g fuel cs = .ok (vs, rest) →
      ∃ text, cs = text ++ rest ∧ DenoteItems g rest text vs) := by
  induction fuel with
  | zero =>
    constructor
    · intro cs rest v h
      cases h
    · intro cs rest vs h
      cases h
  | succ fuel ih => exact ⟨readValue_sound ih.2, readItems_sound ih.1 ih.2⟩

theorem Denotes.ne_nil {g : Option DeclarationGraph} {rest text : List Char} {v : AnnotationValue}
    (h : Denotes g rest text v) : text ≠ [] := by
  cases h with
  | emptyArray | array | string | char => exact List.cons_ne_nil _ _
  | number h =>
    obtain ⟨c, tail, rfl, -⟩ := h.starts
    exact List.cons_ne_nil c tail
  | name h =>
    obtain ⟨c, tail, rfl, -⟩ := h.starts
    exact List.cons_ne_nil c tail

mutual
/-- The induction is on the derivation. Twice the text is fuel enough, since a bracket stands around
items and a comma or a bracket behind each. -/
theorem Denotes.reads {g : Option DeclarationGraph} {rest text : List Char} {v : AnnotationValue}
    (h : Denotes g rest text v) (fuel : ℕ) (hf : 2 * text.length ≤ fuel + 1) :
    readValue g (fuel + 1) (text ++ rest) = .ok (v, rest) := by
  cases h with
  | emptyArray => rfl
  | array h =>
    rw [List.length_cons] at hf
    exact readValue_array (h.reads fuel (by omega))
  | string h =>
    rw [List.cons_append, List.append_assoc, List.singleton_append, readValue,
      readText_eq_ok_iff.2 ⟨_, rfl, h⟩]
    rfl
  | char h =>
    rw [List.cons_append, List.append_assoc, List.singleton_append, readValue,
      readChar_eq_ok_iff.2 ⟨_, rfl, h⟩]
    rfl
  | number h =>
    obtain ⟨c, tail, rfl, starts⟩ := h.starts
    have front : StartsNumber (c :: tail ++ rest) := starts
    rw [readValue_number g fuel front]
    exact (readNumber_eq_ok_iff front).2 ⟨_, rfl, h⟩
  | name h =>
    obtain ⟨c, tail, rfl, starts⟩ := h.starts
    rw [List.cons_append, readValue_name g fuel starts]
    exact (readName_eq_ok_iff starts).2 ⟨_, rfl, h⟩

theorem DenoteItems.reads {g : Option DeclarationGraph} {rest text : List Char}
    {items : List AnnotationValue} (h : DenoteItems g rest text items) (fuel : ℕ)
    (hf : 2 * text.length ≤ fuel) : readItems g fuel (text ++ rest) = .ok (items, rest) := by
  cases h with
  | last h =>
    have := List.length_pos_of_ne_nil h.ne_nil
    rw [List.length_append, List.length_singleton] at hf
    obtain ⟨fuel, rfl⟩ : ∃ n, fuel = n + 2 := ⟨fuel - 2, by omega⟩
    rw [List.append_assoc, List.singleton_append, readItems, h.reads fuel (by omega)]
    rfl
  | comma n first others =>
    have := List.length_pos_of_ne_nil first.ne_nil
    simp only [List.length_append, List.length_cons, List.length_replicate] at hf
    obtain ⟨fuel, rfl⟩ : ∃ n, fuel = n + 2 := ⟨fuel - 2, by omega⟩
    rw [List.append_assoc, List.cons_append, List.append_assoc]
    exact readItems_comma n (first.reads fuel (by omega)) (others.reads (fuel + 1) (by omega))
end

/-- A whole text is read as a value exactly when it denotes the value with nothing behind it. -/
theorem read_eq_ok_iff {g : Option DeclarationGraph} {cs : List Char} {v : AnnotationValue} :
    read g cs = .ok v ↔ Denotes g [] cs v := by
  have whole : read g cs = .ok v ↔ readValue g (fuelFor cs) cs = .ok (v, []) := by
    rw [read]
    split <;> simp_all
  rw [whole]
  constructor
  · intro h
    obtain ⟨text, split, denotes⟩ := (read_sound g (fuelFor cs)).1 h
    rw [List.append_nil] at split
    rwa [split]
  · intro h
    have reads := h.reads (2 * cs.length + 1) (by omega)
    rwa [List.append_nil] at reads

/-- A text denotes at most one value. -/
theorem Denotes.unique {g : Option DeclarationGraph} {cs : List Char} {v w : AnnotationValue}
    (hv : Denotes g [] cs v) (hw : Denotes g [] cs w) : v = w :=
  Except.ok.inj ((read_eq_ok_iff.2 hv).symm.trans (read_eq_ok_iff.2 hw))

end Literal

/-- A text is read as a value exactly when the grammar derives the value from all of it. -/
theorem AnnotationValue.parse_eq_ok_iff (t : String) (v : AnnotationValue) :
    AnnotationValue.parse t = .ok v ↔ Literal.Denotes none [] t.toList v :=
  Literal.read_eq_ok_iff

end ModelClasses
