import ModelClasses.LiteralReader

/-! # Escaped characters read back

A character between quotes is written as itself or as a backslash and something that is read as the
character, whichever kind of quotes it is. Texts and characters in quotes are therefore read as what
was written. -/

namespace ModelClasses.Literal

theorem hexValue?_upperHexDigit {n : Nat} (h : n < 16) : hexValue? (upperHexDigit n) = some n := by
  have digits : ∀ m : Fin 16, hexValue? (upperHexDigit m) = some m.val := by decide
  exact digits ⟨n, h⟩

theorem upperHexDigit_ne_plus {n : Nat} (h : n < 16) : upperHexDigit n ≠ '+' := by
  have digits : ∀ m : Fin 16, upperHexDigit m ≠ '+' := by decide
  exact digits ⟨n, h⟩

/-- Four places are enough for the codes of two bytes. -/
theorem hexNumber?_hexQuad {n : Nat} (h : n < 0x10000) : hexNumber? 0 (hexQuad n) = some n := by
  have value (m : Nat) : hexValue? (upperHexDigit (m % 16)) = some (m % 16) :=
    hexValue?_upperHexDigit (Nat.mod_lt m (by decide))
  simp only [hexQuad, hexNumber?, value, Option.some.injEq]
  omega

theorem escapeCode?_hexQuad {n : Nat} (h : n < 0x10000) :
    escapeCode? (upperHexDigit (n / 0x1000 % 16)) (upperHexDigit (n / 0x100 % 16))
      (upperHexDigit (n / 0x10 % 16)) (upperHexDigit (n % 16)) = some n := by
  have sign : upperHexDigit (n / 0x1000 % 16) ≠ '+' :=
    upperHexDigit_ne_plus (Nat.mod_lt _ (by decide))
  rw [escapeCode?, if_neg sign]
  exact hexNumber?_hexQuad h

theorem scalar?_toNat (c : Char) : scalar? c.toNat = some c := by
  have valid : c.toNat.isValidChar := c.valid
  simp [scalar?, valid]

theorem readEscape_simple {e c : Char} (h : simpleEscape? e = some c) (hu : e ≠ 'u')
    (rest : List Char) : readEscape (e :: rest) = .ok (c, rest) := by
  unfold readEscape
  split
  · simp_all
  · simp_all
  · rename_i e' rest' _ heq
    cases heq
    rw [h]

theorem readEscape_hexQuad {c : Char} (h : c.toNat < 0x10000) (rest : List Char) :
    readEscape ('u' :: (hexQuad c.toNat ++ rest)) = .ok (c, rest) := by
  have code := escapeCode?_hexQuad h
  simp only [hexQuad, List.cons_append, List.nil_append, readEscape, code, Option.bind_some,
    scalar?_toNat]

/-- How a character stands between quotes: as itself, being neither a backslash nor the quote, or
as an escape that is read as the character. -/
inductive Escaped (quote c : Char) : List Char → Prop
  | plain (noBackslash : c ≠ '\\') (noQuote : c ≠ quote) : Escaped quote c [c]
  | escaped {text : List Char} (reads : ∀ rest, readEscape (text ++ rest) = .ok (c, rest)) :
      Escaped quote c ('\\' :: text)

theorem Escaped.simple {quote e c : Char} (h : simpleEscape? e = some c) (hu : e ≠ 'u') :
    Escaped quote c ['\\', e] :=
  .escaped (readEscape_simple h hu)

theorem escaped_escape {quote : Char} (hq : quote = '"' ∨ quote = '\'') (c : Char) :
    Escaped quote c (escape quote c) := by
  unfold escape
  split
  · subst_vars; exact .simple rfl (by decide)
  split
  · subst_vars; exact .simple rfl (by decide)
  split
  · subst_vars; exact .simple rfl (by decide)
  split
  · subst_vars; exact .simple rfl (by decide)
  split
  · subst_vars; exact .simple rfl (by decide)
  split
  · rename_i h
    rw [h.1]
    exact .simple rfl (by decide)
  split
  · rename_i h
    rcases hq with rfl | rfl <;> (rw [h]; exact .simple rfl (by decide))
  rename_i backslash _ _ _ _ _ notQuote
  split
  · rename_i control
    have small : c.toNat < 0x10000 := by
      simp only [Text.isControl, Bool.or_eq_true, Bool.and_eq_true, decide_eq_true_eq] at control
      omega
    exact .escaped (readEscape_hexQuad small)
  · exact .plain backslash notQuote

theorem readText_plain {c : Char} (hb : c ≠ '\\') (hq : c ≠ '"') (rest : List Char) :
    readText (c :: rest) = (readText rest).map fun r => (c :: r.1, r.2) := by
  rw [readText]
  · simpa using hq
  · simpa using hb

theorem readText_escaped {c : Char} {text rest : List Char}
    (reads : readEscape (text ++ rest) = .ok (c, rest)) :
    readText ('\\' :: (text ++ rest)) = (readText rest).map fun r => (c :: r.1, r.2) := by
  rw [readText]
  split
  · simp_all
  · simp_all

theorem Escaped.readText {c : Char} {written : List Char} (h : Escaped '"' c written)
    (rest : List Char) : Literal.readText (written ++ rest) =
      (Literal.readText rest).map fun r => (c :: r.1, r.2) := by
  cases h with
  | plain noBackslash noQuote => exact readText_plain noBackslash noQuote rest
  | escaped reads => exact readText_escaped (reads rest)

theorem readText_flatMap_escape (cs rest : List Char) :
    readText (cs.flatMap (escape '"') ++ '"' :: rest) = .ok (cs, rest) := by
  induction cs with
  | nil => simp [readText]
  | cons c cs ih =>
    rw [List.flatMap_cons, List.append_assoc, (escaped_escape (.inl rfl) c).readText, ih]
    rfl

theorem readChar_plain {c : Char} (hb : c ≠ '\\') (rest : List Char) :
    readChar (c :: rest) = (expect '\'' rest).map fun after => (c, after) := by
  simp [readChar]

theorem readChar_escaped {c : Char} {text rest : List Char}
    (reads : readEscape (text ++ rest) = .ok (c, rest)) :
    readChar ('\\' :: (text ++ rest)) = (expect '\'' rest).map fun after => (c, after) := by
  simp [readChar, reads]

theorem Escaped.readChar {c : Char} {written : List Char} (h : Escaped '\'' c written)
    (rest : List Char) : Literal.readChar (written ++ '\'' :: rest) = .ok (c, rest) := by
  cases h with
  | plain noBackslash noQuote => exact readChar_plain noBackslash ('\'' :: rest)
  | escaped reads => exact readChar_escaped (reads ('\'' :: rest))

theorem readChar_escape (c : Char) (rest : List Char) :
    readChar (escape '\'' c ++ '\'' :: rest) = .ok (c, rest) :=
  (escaped_escape (.inr rfl) c).readChar rest

end ModelClasses.Literal
