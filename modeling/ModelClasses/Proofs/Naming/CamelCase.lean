import ModelClasses.Manifest

/-! # Camel case

Camel case drops underscores, so that different names may become one. Nothing is lost of a name in
snake case: every underscore stands in front of a small letter, which is a capital in camel case, and
there are no other capitals. -/

namespace ModelClasses.Naming

open Text

/-- No capital letter, and a small letter behind every underscore. Only the letters of ASCII count. -/
def isSnakeText : List Char → Bool
  | [] => true
  | '_' :: c :: rest => c.isLower && isSnakeText rest
  | c :: rest => c != '_' && !c.isUpper && isSnakeText rest

/-- Snake case that does not start with an underscore. -/
def isSnakeCase (s : String) : Bool := s.toList.head? != some '_' && isSnakeText s.toList

/-- The snake case that a text in camel case stands for. -/
def snakeChars : List Char → List Char
  | [] => []
  | c :: rest => if c.isUpper then '_' :: c.toLower :: snakeChars rest else c :: snakeChars rest

theorem exists_of_isLower {c : Char} (small : c.isLower = true) :
    ∃ n : Fin 26, c = Char.ofNat (97 + n) := by
  obtain ⟨low, high⟩ := Bool.and_eq_true_iff.1 small
  have bounds : 97 ≤ c.toNat ∧ c.toNat ≤ 122 := ⟨of_decide_eq_true low, of_decide_eq_true high⟩
  refine ⟨⟨c.toNat - 97, by omega⟩, ?_⟩
  have code : 97 + (c.toNat - 97) = c.toNat := by omega
  rw [code, Char.ofNat_toNat]

theorem upperCase_of_isLower {c : Char} (small : c.isLower = true) :
    c ≠ '_' ∧ ∃ capital, upperCase c = [capital] ∧ capital.isUpper = true ∧ capital.toLower = c ∧
      isAlphanumeric capital = true := by
  obtain ⟨n, rfl⟩ := exists_of_isLower small
  -- The letters are few enough to look at each of them.
  have each : ∀ n : Fin 26, Char.ofNat (97 + n) ≠ '_' ∧
      upperCase (Char.ofNat (97 + n)) = [(Char.ofNat (97 + n)).toUpper] ∧
      (Char.ofNat (97 + n)).toUpper.isUpper = true ∧
      (Char.ofNat (97 + n)).toUpper.toLower = Char.ofNat (97 + n) ∧
      isAlphanumeric (Char.ofNat (97 + n)).toUpper = true := by decide +kernel
  obtain ⟨other, capital⟩ := each n
  exact ⟨other, _, capital⟩

theorem camelChars_other {c : Char} (h : c ≠ '_') (started : Bool) (rest : List Char) :
    camelChars started false (c :: rest) = c :: camelChars true false rest := by
  rw [camelChars, if_neg h, if_neg Bool.false_ne_true]

/-- An underscore and the small letter behind it become a capital. -/
theorem camelChars_underscore {c : Char} (small : c.isLower = true) (rest : List Char) :
    ∃ capital, camelChars true false ('_' :: c :: rest) = capital :: camelChars true false rest ∧
      capital.isUpper = true ∧ capital.toLower = c ∧ isAlphanumeric capital = true := by
  obtain ⟨other, capital, upper, facts⟩ := upperCase_of_isLower small
  refine ⟨capital, ?_, facts⟩
  rw [camelChars, if_pos rfl, camelChars, if_neg other, if_pos rfl, upper, List.singleton_append]

theorem snakeChars_camelChars {cs : List Char} (h : isSnakeText cs = true) :
    snakeChars (camelChars true false cs) = cs := by
  fun_induction isSnakeText cs with
  | case1 => rfl
  | case2 c rest ih =>
    obtain ⟨small, later⟩ := Bool.and_eq_true_iff.1 h
    obtain ⟨capital, camel, upper, lower, -⟩ := camelChars_underscore small rest
    rw [camel, snakeChars, if_pos upper, lower, ih later]
  | case3 c rest _ ih =>
    obtain ⟨other, later⟩ := Bool.and_eq_true_iff.1 h
    obtain ⟨notUnderscore, notUpper⟩ := Bool.and_eq_true_iff.1 other
    rw [camelChars_other (by simpa using notUnderscore), snakeChars,
      if_neg (by simpa using notUpper), ih later]

/-- The characters of an identifier. -/
def isIdentifierChar (c : Char) : Bool := isAlphanumeric c || c == '_'

theorem all_camelChars {cs : List Char} (h : isSnakeText cs = true)
    (identifier : cs.all isIdentifierChar = true) :
    (camelChars true false cs).all isIdentifierChar = true := by
  fun_induction isSnakeText cs with
  | case1 => rfl
  | case2 c rest ih =>
    obtain ⟨small, later⟩ := Bool.and_eq_true_iff.1 h
    obtain ⟨capital, camel, -, -, alphanumeric⟩ := camelChars_underscore small rest
    rw [List.all_cons, List.all_cons, Bool.and_eq_true, Bool.and_eq_true] at identifier
    rw [camel, List.all_cons, isIdentifierChar, alphanumeric, Bool.true_or, Bool.true_and]
    exact ih later identifier.2.2
  | case3 c rest _ ih =>
    obtain ⟨other, later⟩ := Bool.and_eq_true_iff.1 h
    rw [List.all_cons, Bool.and_eq_true] at identifier
    rw [camelChars_other (by simpa using (Bool.and_eq_true_iff.1 other).1), List.all_cons,
      identifier.1, Bool.true_and]
    exact ih later identifier.2

/-- A name in snake case keeps its first character in camel case. -/
theorem camelChars_start {s : String} (h : isSnakeCase s = true) :
    s.toList = [] ∨ ∃ c rest, s.toList = c :: rest ∧ isSnakeText rest = true ∧
      ∀ started, camelChars started false s.toList = c :: camelChars true false rest := by
  obtain ⟨start, snake⟩ := Bool.and_eq_true_iff.1 h
  cases chars : s.toList with
  | nil => exact .inl rfl
  | cons c rest =>
    have other : c ≠ '_' := by
      rintro rfl
      simp [chars] at start
    rw [chars, isSnakeText, Bool.and_eq_true] at snake
    · exact .inr ⟨c, rest, rfl, snake.2, fun started => camelChars_other other started rest⟩
    · rintro _ _ rfl
      exact absurd rfl other

theorem snakeChars_toCamelCase {s : String} (h : isSnakeCase s = true) :
    snakeChars (toCamelCase s).toList = s.toList := by
  have whole := snakeChars_camelChars (Bool.and_eq_true_iff.1 h).2
  rw [toCamelCase, String.toList_ofList]
  rcases camelChars_start h with empty | ⟨c, rest, -, -, start⟩
  · rw [empty]
    rfl
  · rwa [start false, ← start true]

theorem toCamelCase_inj {s t : String} (hs : isSnakeCase s = true) (ht : isSnakeCase t = true) :
    toCamelCase s = toCamelCase t ↔ s = t := by
  refine ⟨fun same => ?_, congrArg toCamelCase⟩
  rw [← String.toList_inj, ← snakeChars_toCamelCase hs, same, snakeChars_toCamelCase ht]

theorem isIdentifier_toCamelCase {s : String} (h : isSnakeCase s = true)
    (identifier : Manifest.isIdentifier s = true) :
    Manifest.isIdentifier (toCamelCase s) = true := by
  rw [Manifest.isIdentifier] at identifier
  rw [Manifest.isIdentifier, toCamelCase, String.toList_ofList]
  rcases camelChars_start h with empty | ⟨c, rest, chars, snake, start⟩
  · rw [empty] at identifier
    cases identifier
  · rw [chars, Manifest.isIdentifierText, Bool.and_eq_true] at identifier
    rw [start false, Manifest.isIdentifierText, Bool.and_eq_true]
    exact ⟨identifier.1, all_camelChars snake identifier.2⟩

end ModelClasses.Naming
