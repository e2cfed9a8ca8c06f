import ModelClasses.Proofs.Literal.Grammar

/-! # Literals are inert text

Between the quotes of a text, every backslash starts an escape that is written, and quotes, dollar
signs and controls stand only in escapes; the escapes and the other characters give the text back. In
the literal of a whole value the quotes are those of its texts and characters, so that no text ends
early, opens a template or breaks the line. -/

namespace ModelClasses

open Text

namespace Literal

/-- A character as it may be written between quotes. Only a text can hold a template. -/
inductive InertPart (quote : Char) : List Char → Char → Prop
  | plain {c : Char} (noQuote : c ≠ quote) (noBackslash : c ≠ '\\')
      (noTemplate : quote = '"' → c ≠ '$') (visible : isControl c = false) : InertPart quote [c] c
  | letter {e c : Char} (h : (e, c) ∈ [('n', '\n'), ('r', '\r'), ('t', '\t'), ('b', '\x08')]) :
      InertPart quote ['\\', e] c
  | itself {c : Char} (h : c = '\\' ∨ c = quote ∨ (c = '$' ∧ quote = '"')) : InertPart quote ['\\', c] c
  | code {c : Char} {places : List Char} (four : places.length = 4)
      (value : hexNumber? 0 places = some c.toNat) : InertPart quote ('\\' :: 'u' :: places) c

/-- What may stand between the quotes of a text, read from the left, and its characters. -/
inductive InertText : List Char → List Char → Prop
  | nil : InertText [] []
  | cons {part text cs : List Char} {c : Char} (first : InertPart '"' part c) (h : InertText text cs) :
      InertText (part ++ text) (c :: cs)

theorem isControl_toNat {c : Char} (h : isControl c = true) : c.toNat < 0xA0 := by
  simp only [isControl, Bool.or_eq_true, Bool.and_eq_true, decide_eq_true_eq] at h
  omega

theorem inertPart_escape (quote c : Char) : InertPart quote (escape quote c) c := by
  unfold escape
  split
  · rename_i h
    rw [h]
    exact .itself (.inl rfl)
  split
  · subst_vars; exact .letter (by simp)
  split
  · subst_vars; exact .letter (by simp)
  split
  · subst_vars; exact .letter (by simp)
  split
  · subst_vars; exact .letter (by simp)
  split
  · rename_i h
    rw [h.1]
    exact .itself (.inr (.inr ⟨rfl, h.2⟩))
  split
  · rename_i h
    rw [h]
    exact .itself (.inr (.inl rfl))
  rename_i noBackslash _ _ _ _ noTemplate noQuote
  split
  · rename_i control
    have small := isControl_toNat control
    exact .code rfl (hexNumber?_hexQuad (by omega))
  · rename_i visible
    exact .plain noQuote noBackslash (fun text dollar => noTemplate ⟨dollar, text⟩)
      (Bool.eq_false_iff.2 visible)

theorem inertText_flatMap (cs : List Char) : InertText (cs.flatMap (escape '"')) cs := by
  induction cs with
  | nil => exact .nil
  | cons c cs ih => exact .cons (inertPart_escape '"' c) ih

theorem readEscape_code {c : Char} {places : List Char} (four : places.length = 4)
    (value : hexNumber? 0 places = some c.toNat) (rest : List Char) :
    readEscape ('u' :: (places ++ rest)) = .ok (c, rest) := by
  obtain ⟨x, y, z, w, rfl⟩ := List.length_eq_four.1 four
  have noSign : x ≠ '+' := by
    rintro rfl
    cases value
  have code : escapeCode? x y z w = some c.toNat := by rw [escapeCode?, if_neg noSign, value]
  simp only [List.cons_append, List.nil_append, readEscape, code, Option.bind_some, scalar?_toNat]

/-- What is inert is read, as the same character. -/
theorem InertPart.escaped {quote c : Char} {part : List Char} (hq : quote = '"' ∨ quote = '\'')
    (h : InertPart quote part c) : Escaped quote c part := by
  cases h with
  | plain noQuote noBackslash => exact .plain noBackslash noQuote
  | letter h => exact .escaped (EscapeText.letter h).reads
  | itself h =>
    have marks : c ∈ ['\\', '"', '\'', '$'] := by
      rcases h with rfl | rfl | ⟨rfl, -⟩
      · simp
      · rcases hq with rfl | rfl <;> simp
      · simp
    exact .escaped (EscapeText.itself marks).reads
  | code four value => exact .escaped (readEscape_code four value)

theorem InertText.reads {text cs : List Char} (h : InertText text cs) (rest : List Char) :
    readText (text ++ '"' :: rest) = .ok (cs, rest) := by
  induction h with
  | nil => simp [readText]
  | cons first _ ih =>
    rw [List.append_assoc, (first.escaped (.inl rfl)).readText, ih]
    rfl

/-- A quote that follows inert text is the first one that stands in no escape, so that the characters
and what comes behind are determined. -/
theorem InertText.unique {text text' cs cs' rest rest' : List Char} (h : InertText text cs)
    (h' : InertText text' cs') (same : text ++ '"' :: rest = text' ++ '"' :: rest') :
    cs = cs' ∧ rest = rest' := by
  have reads := h.reads rest
  rw [same, h'.reads rest'] at reads
  cases reads
  exact ⟨rfl, rfl⟩

theorem InertPart.unique {part part' rest rest' : List Char} {c c' : Char} (h : InertPart '\'' part c)
    (h' : InertPart '\'' part' c') (same : part ++ '\'' :: rest = part' ++ '\'' :: rest') :
    rest = rest' := by
  have reads := (h.escaped (.inr rfl)).readChar rest
  rw [same, (h'.escaped (.inr rfl)).readChar rest'] at reads
  cases reads
  rfl

/-- The characters that a literal consists of outside of quotes. -/
def isCode (c : Char) : Bool := !(c ∈ ['"', '\'', '\\', '$'] || isControl c)

/-- A literal read from the left, and the texts between its quotes. -/
inductive InertCode : List Char → List String → Prop
  | nil : InertCode [] []
  | code {c : Char} {rest : List Char} {texts : List String} (hc : isCode c) (h : InertCode rest texts) :
      InertCode (c :: rest) texts
  | char {c : Char} {part rest : List Char} {texts : List String} (quoted : InertPart '\'' part c)
      (h : InertCode rest texts) : InertCode ('\'' :: (part ++ '\'' :: rest)) texts
  | text {text cs rest : List Char} {texts : List String} (quoted : InertText text cs)
      (h : InertCode rest texts) :
      InertCode ('"' :: (text ++ '"' :: rest)) (String.ofList cs :: texts)

theorem InertCode.append {a b : List Char} {texts texts' : List String} (h : InertCode a texts)
    (h' : InertCode b texts') : InertCode (a ++ b) (texts ++ texts') := by
  induction h with
  | nil => exact h'
  | code hc _ ih => exact .code hc ih
  | char quoted _ ih =>
    rw [List.cons_append, List.append_assoc, List.cons_append]
    exact .char quoted ih
  | text quoted _ ih =>
    rw [List.cons_append, List.append_assoc, List.cons_append]
    exact .text quoted ih

theorem inertCode_of_isCode {cs : List Char} (h : ∀ c ∈ cs, isCode c) : InertCode cs [] := by
  induction cs with
  | nil => exact .nil
  | cons c cs ih => exact .code (h c List.mem_cons_self) (ih fun d hd => h d (List.mem_cons_of_mem c hd))

theorem InertCode.unique {text : List Char} {texts texts' : List String} (h : InertCode text texts)
    (h' : InertCode text texts') : texts = texts' := by
  induction h generalizing texts' with
  | nil =>
    cases h'
    rfl
  | code hc _ ih =>
    generalize same : _ :: _ = whole at h'
    cases h' with
    | nil => cases same
    | code _ h' => cases same; exact ih h'
    | char => cases same; cases hc
    | text => cases same; cases hc
  | char quoted _ ih =>
    generalize same : _ :: _ = whole at h'
    cases h' with
    | nil => cases same
    | code hc => cases same; cases hc
    | char quoted' h' =>
      obtain ⟨-, same⟩ := List.cons.inj same
      cases quoted.unique quoted' same
      exact ih h'
    | text => cases same
  | text quoted _ ih =>
    generalize same : _ :: _ = whole at h'
    cases h' with
    | nil => cases same
    | code hc => cases same; cases hc
    | char => cases same
    | text quoted' h' =>
      obtain ⟨-, same⟩ := List.cons.inj same
      obtain ⟨rfl, rfl⟩ := quoted.unique quoted' same
      rw [ih h']

theorem visible_of_hexValue? {c : Char} {d : ℕ} (h : hexValue? c = some d) : isControl c = false := by
  have controls : ∀ n : Fin 0xA0, isControl (Char.ofNat n) → hexValue? (Char.ofNat n) = none := by
    decide +kernel
  rw [Bool.eq_false_iff]
  intro control
  have none := controls ⟨c.toNat, isControl_toNat control⟩ (by simpa using control)
  simp only [Char.ofNat_toNat] at none
  cases none.symm.trans h

theorem visible_of_hexNumber? {cs : List Char} {n m : ℕ} (h : hexNumber? n cs = some m) :
    ∀ c ∈ cs, isControl c = false := by
  induction cs generalizing n with
  | nil => simp
  | cons c cs ih =>
    obtain ⟨d, value, later⟩ := hexNumber?_cons_iff.1 h
    exact List.forall_mem_cons.2 ⟨visible_of_hexValue? value, ih later⟩

theorem InertPart.visible {quote c : Char} {part : List Char} (hq : isControl quote = false)
    (h : InertPart quote part c) : ∀ d ∈ part, isControl d = false := by
  have escaped {cs : List Char} (hc : ∀ x ∈ cs, isControl x = false) :
      ∀ x ∈ '\\' :: cs, isControl x = false := List.forall_mem_cons.2 ⟨rfl, hc⟩
  have letter {d : Char} (hd : isControl d = false) : ∀ x ∈ ['\\', d], isControl x = false :=
    escaped (List.forall_mem_singleton.2 hd)
  cases h with
  | plain _ _ _ visible => simpa using visible
  | letter h =>
    simp only [List.mem_cons, List.not_mem_nil, or_false, Prod.mk.injEq] at h
    rcases h with ⟨rfl, -⟩ | ⟨rfl, -⟩ | ⟨rfl, -⟩ | ⟨rfl, -⟩ <;> exact letter rfl
  | itself h =>
    rcases h with rfl | rfl | ⟨rfl, -⟩
    · exact letter rfl
    · exact letter hq
    · exact letter rfl
  | code _ value => exact escaped (List.forall_mem_cons.2 ⟨rfl, visible_of_hexNumber? value⟩)

theorem InertText.visible {text cs : List Char} (h : InertText text cs) :
    ∀ c ∈ text, isControl c = false := by
  induction h with
  | nil => simp
  | cons first _ ih => exact List.forall_mem_append.2 ⟨first.visible (by decide), ih⟩

theorem InertCode.visible {text : List Char} {texts : List String} (h : InertCode text texts) :
    ∀ c ∈ text, isControl c = false := by
  have quoted {quote : Char} {inner rest : List Char} (hq : isControl quote = false)
      (hi : ∀ c ∈ inner, isControl c = false) (hr : ∀ c ∈ rest, isControl c = false) :
      ∀ c ∈ quote :: (inner ++ quote :: rest), isControl c = false :=
    List.forall_mem_cons.2 ⟨hq, List.forall_mem_append.2 ⟨hi, List.forall_mem_cons.2 ⟨hq, hr⟩⟩⟩
  induction h with
  | nil => simp
  | code hc _ ih =>
    refine List.forall_mem_cons.2 ⟨?_, ih⟩
    simp only [isCode, Bool.not_eq_true', Bool.or_eq_false_iff] at hc
    exact hc.2
  | char part _ ih => exact quoted (by decide) (part.visible (by decide)) ih
  | text part _ ih => exact quoted (by decide) part.visible ih

theorem isCode_of_le {c : Char} (h : 0xA0 ≤ c.toNat) : isCode c := by
  have visible : isControl c = false := by
    rw [Bool.eq_false_iff]
    intro control
    have := isControl_toNat control
    omega
  have unmarked : c ∉ ['"', '\'', '\\', '$'] := by
    intro marked
    simp only [List.mem_cons, List.not_mem_nil, or_false] at marked
    rcases marked with rfl | rfl | rfl | rfl <;> exact absurd h (by decide)
  simp [isCode, visible, unmarked]

/-- Characters of a class are no marks and no controls if the first ones of the class are not. -/
theorem isCode_of_class {p : Char → Bool}
    (small : ∀ n : Fin 0xA0, p (Char.ofNat n) → isCode (Char.ofNat n)) {c : Char} (h : p c) :
    isCode c := by
  by_cases first : c.toNat < 0xA0
  · have code := small ⟨c.toNat, first⟩
    simp only [Char.ofNat_toNat] at code
    exact code h
  · exact isCode_of_le (by omega)

theorem isCode_of_continuesName {c : Char} (h : continuesName c) : isCode c :=
  isCode_of_class (by decide +kernel) h

theorem isCode_of_continuesNumber {last c : Char} (h : continuesNumber last c) : isCode c := by
  have afterMark : continuesNumber 'e' c := by
    simp only [continuesNumber, Bool.or_eq_true, Bool.and_eq_true] at h ⊢
    rcases h with h | ⟨sign, -⟩
    · exact .inl h
    · exact .inr ⟨sign, .inl rfl⟩
  exact isCode_of_class (by decide +kernel) afterMark

theorem isCode_of_isRun {cs : List Char} {last : Char} (h : IsRun last cs) : ∀ c ∈ cs, isCode c := by
  induction cs generalizing last with
  | nil => simp
  | cons c cs ih => exact List.forall_mem_cons.2 ⟨isCode_of_continuesNumber h.1, ih h.2⟩

theorem isCode_sign (negative : Bool) : ∀ c ∈ Decimal.Layout.sign negative, isCode c := by
  cases negative <;> exact List.all_eq_true.1 rfl

theorem isCode_ofInteger (i : Int64) : ∀ c ∈ ofInteger i, isCode c := by
  rw [ofInteger]
  split
  · exact List.all_eq_true.1 rfl
  · rw [Decimal.intText_eq]
    have digits := isRun_digits (Decimal.areDigits_natText i.toInt.natAbs) ' '
    exact List.forall_mem_append.2 ⟨isCode_sign _, isCode_of_isRun digits⟩

theorem isCode_ofBinary {w : Decimal.Width} {name mark : List Char} (hn : ∀ c ∈ name, isCode c)
    (hm : ∀ c ∈ mark, isCode c) (x : Decimal.Binary w) : ∀ c ∈ ofBinary name mark x, isCode c := by
  match x with
  | .nan => exact List.forall_mem_append.2 ⟨hn, List.all_eq_true.1 rfl⟩
  | .infinite false => exact List.forall_mem_append.2 ⟨hn, List.all_eq_true.1 rfl⟩
  | .infinite true => exact List.forall_mem_append.2 ⟨hn, List.all_eq_true.1 rfl⟩
  | .finite negative s e h =>
    obtain ⟨text, _, _, written, numeral, -⟩ := Decimal.render_numeral Decimal.Layout.literal negative h
    rw [ofBinary, written]
    have run := isCode_of_isRun (isRun_numeral numeral ' ')
    exact List.forall_mem_append.2 ⟨List.forall_mem_append.2 ⟨isCode_sign negative, run⟩, hm⟩

theorem isCode_ofReference {r : Reference} (hn : isName r.qualifiedName.toList) :
    ∀ c ∈ ofReference r, isCode c := by
  refine List.forall_mem_append.2 ⟨fun c hc => ?_, ?_⟩
  · exact isCode_of_continuesName (continuesName_of_isName hn c hc)
  · split <;> exact List.all_eq_true.1 rfl

end Literal

namespace AnnotationValue

mutual
/-- The texts in a value, in their order. -/
def strings : AnnotationValue → List String
  | string s => [s]
  | array items => itemStrings items
  | _ => []

def itemStrings : List AnnotationValue → List String
  | [] => []
  | v :: rest => strings v ++ itemStrings rest
end

/-- A value that holds no text without a literal, and references to names only. -/
structure Spellable (v : AnnotationValue) : Prop where
  supported : ∀ text, ¬ v.Holds (.unsupported text)
  names : ∀ r, v.Holds (.reference r) → Literal.isName r.qualifiedName.toList = true

theorem Spellable.item {items : List AnnotationValue} (h : (array items).Spellable)
    {v : AnnotationValue} (hv : v ∈ items) : v.Spellable :=
  ⟨fun text held => h.supported text (.item hv held), fun r held => h.names r (.item hv held)⟩

end AnnotationValue

namespace Literal

open AnnotationValue

mutual
/-- The induction is on the value: the marks of an array are code between its items. -/
theorem inertCode_render : ∀ v : AnnotationValue, v.Spellable → InertCode (render v) v.strings
  | .array [], _ => by
    rw [render]
    exact inertCode_of_isCode (List.all_eq_true.1 rfl)
  | .array (v :: items), h => by
    have first := inertCode_render v (h.item List.mem_cons_self)
    have others := inertCode_renderRest items fun w hw => h.item (List.mem_cons_of_mem v hw)
    rw [render, strings, itemStrings, List.cons_append]
    exact .code rfl (first.append others)
  | .string s, _ => by
    have code := InertCode.text (inertText_flatMap s.toList) .nil
    rwa [String.ofList_toList] at code
  | .char c, _ => .char (inertPart_escape '\'' c) .nil
  | .bool b, _ => by cases b <;> exact inertCode_of_isCode (List.all_eq_true.1 rfl)
  | .integer i, _ => inertCode_of_isCode (isCode_ofInteger i)
  | .float x, _ =>
    inertCode_of_isCode (isCode_ofBinary (List.all_eq_true.1 rfl) (List.all_eq_true.1 rfl) x)
  | .double x, _ =>
    inertCode_of_isCode (isCode_ofBinary (List.all_eq_true.1 rfl) (List.all_eq_true.1 rfl) x)
  | .reference r, h => inertCode_of_isCode (isCode_ofReference (h.names r (.self _)))
  | .unsupported text, h => absurd (.self _) (h.supported text)

theorem inertCode_renderRest : ∀ items : List AnnotationValue, (∀ v ∈ items, v.Spellable) →
    InertCode (renderRest items) (itemStrings items)
  | [], _ => by
    rw [renderRest]
    exact inertCode_of_isCode (List.all_eq_true.1 rfl)
  | v :: items, h => by
    have first := inertCode_render v (h v List.mem_cons_self)
    have others := inertCode_renderRest items fun w hw => h w (List.mem_cons_of_mem v hw)
    rw [renderRest, itemStrings, List.cons_append, List.cons_append]
    exact .code rfl (.code rfl (first.append others))
end

theorem infix_renderRest {v : AnnotationValue} {items : List AnnotationValue} (hv : v ∈ items) :
    render v <:+: renderRest items := by
  induction items with
  | nil => cases hv
  | cons w items ih =>
    rw [renderRest]
    rcases List.mem_cons.1 hv with rfl | hv
    · exact ⟨[',', ' '], renderRest items, by simp⟩
    · exact (ih hv).trans ⟨',' :: ' ' :: render w, [], by simp⟩

theorem infix_array {v : AnnotationValue} {items : List AnnotationValue} (hv : v ∈ items) :
    render v <:+: render (.array items) := by
  cases items with
  | nil => cases hv
  | cons w items =>
    rw [render]
    rcases List.mem_cons.1 hv with rfl | hv
    · exact ⟨['['], renderRest items, by simp⟩
    · exact (infix_renderRest hv).trans ⟨'[' :: render w, [], by simp⟩

/-- What a value holds, at any depth, is written in its literal. -/
theorem infix_render {v w : AnnotationValue} (h : v.Holds w) : render w <:+: render v := by
  induction h with
  | self => exact List.infix_refl _
  | item hv _ ih => exact ih.trans (infix_array hv)

end Literal

open Literal

/-- A text is written between quotes as inert text that stands for its characters and for no others,
and so is every text in an array. Where everything has a literal, the quotes in the literal of a value
are those of its texts and characters, and no control breaks the line. -/
theorem AnnotationValue.literal_inert :
    (∀ s : String, ∃ inner, render (.string s) = '"' :: (inner ++ ['"']) ∧
      ∀ cs, InertText inner cs ↔ cs = s.toList) ∧
    (∀ (v : AnnotationValue) (s : String), v.Holds (.string s) →
      render (.string s) <:+: render v) ∧
    ∀ v : AnnotationValue, v.Spellable →
      (∀ texts, InertCode (render v) texts ↔ texts = v.strings) ∧
      ∀ c ∈ render v, isControl c = false := by
  refine ⟨fun s => ?_, fun v s => infix_render, fun v h => ?_⟩
  · have inert := inertText_flatMap s.toList
    refine ⟨s.toList.flatMap (escape '"'), by rw [render, ofString, List.cons_append], fun cs => ?_⟩
    constructor
    · intro other
      have same : s.toList.flatMap (escape '"') ++ ['"'] = s.toList.flatMap (escape '"') ++ ['"'] := rfl
      exact (other.unique inert same).1
    · rintro rfl
      exact inert
  · have inert := inertCode_render v h
    refine ⟨fun texts => ?_, inert.visible⟩
    constructor
    · exact fun other => other.unique inert
    · rintro rfl
      exact inert

/-- Quotes, a template, a backslash and line ends, in texts of different depth and beside characters. -/
theorem AnnotationValue.literal_inert_nested :
    let v : AnnotationValue := .array [.string "a\"$b\\", .array [.char '"', .string "\n\x07$"],
      .reference ⟨"p.Color", .class_⟩]
    v.Holds (.string "\n\x07$") ∧ v.Spellable ∧
    render (.string "\n\x07$") <:+: render v ∧
    (∀ texts, InertCode (render v) texts ↔ texts = ["a\"$b\\", "\n\x07$"]) ∧
    ∀ c ∈ render v, isControl c = false := by
  intro v
  have held : v.Holds (.string "\n\x07$") := by
    simp [v, holds_array_iff, holds_scalar_iff]
  have spellable : v.Spellable := by
    constructor
    · simp [v, holds_array_iff, holds_scalar_iff]
    · intro r held
      have only : r = ⟨"p.Color", .class_⟩ := by
        simpa [v, holds_array_iff, holds_scalar_iff] using held
      rw [only]
      decide +kernel
  obtain ⟨code, visible⟩ := literal_inert.2.2 v spellable
  exact ⟨held, spellable, literal_inert.2.1 v _ held, code, visible⟩

end ModelClasses
