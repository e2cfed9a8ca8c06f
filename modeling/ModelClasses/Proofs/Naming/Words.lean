import ModelClasses.Proofs.Naming.CamelCase

/-! # Words of a name

The words of a name are what stands between its underscores. Camel case writes them with nothing between
them, the first one as it is and every later one with its first character in upper case. No character
but the underscore has an underscore in its upper case, so a name in camel case is one word, which stays
as it is. -/

namespace ModelClasses.Naming

open Text

/-- The words of a text, in their order. Underscores in front, behind or next to each other have no word
between them. -/
def words (cs : List Char) : List (List Char) := (cs.splitOn '_').filter (· ≠ [])

/-- The first character in upper case, which may be several characters, and the others as they are. -/
def capitalize : List Char → List Char
  | [] => []
  | c :: rest => upperCase c ++ rest

/-- The first word as it is, and all others capitalized. -/
def joinWords : List (List Char) → List Char
  | [] => []
  | first :: later => first ++ later.flatMap capitalize

theorem splitOn_underscore (cs : List Char) : ('_' :: cs).splitOn '_' = [] :: cs.splitOn '_' := by
  rw [List.splitOn_cons_eq_if_modifyHead, if_pos (beq_self_eq_true '_')]

theorem splitOn_other {c : Char} (h : c ≠ '_') (cs : List Char) :
    ∃ first later, cs.splitOn '_' = first :: later ∧ (c :: cs).splitOn '_' = (c :: first) :: later := by
  obtain ⟨first, later, split⟩ := List.exists_cons_of_ne_nil (List.splitOn_ne_nil '_' cs)
  refine ⟨first, later, split, ?_⟩
  rw [List.splitOn_cons_eq_if_modifyHead, if_neg (by simpa using h), split, List.modifyHead_cons]

theorem words_underscore (cs : List Char) : words ('_' :: cs) = words cs := by
  rw [words, splitOn_underscore, List.filter_cons_of_neg (by simp), words]

theorem words_of_splitOn {cs first : List Char} {later : List (List Char)} (some : first ≠ [])
    (split : cs.splitOn '_' = first :: later) : words cs = first :: later.filter (· ≠ []) := by
  rw [words, split, List.filter_cons_of_pos (by simpa using some)]

/-- Behind a character, its word goes on, and behind an underscore the next word is to begin. One goes
over into the other at every underscore and at every first character, so that neither is proved alone. -/
theorem camelChars_started (cs : List Char) :
    (∀ first later, cs.splitOn '_' = first :: later →
      camelChars true false cs = first ++ (later.filter (· ≠ [])).flatMap capitalize) ∧
      camelChars true true cs = (words cs).flatMap capitalize := by
  induction cs with
  | nil =>
    refine ⟨fun first later split => ?_, rfl⟩
    obtain ⟨rfl, rfl⟩ := List.cons_eq_cons.1 split
    rfl
  | cons c cs ih =>
    obtain ⟨goesOn, begins⟩ := ih
    by_cases h : c = '_'
    · subst h
      constructor
      · intro first later split
        rw [splitOn_underscore] at split
        obtain ⟨rfl, rfl⟩ := List.cons_eq_cons.1 split
        rw [camelChars, if_pos rfl, begins, List.nil_append, words]
      · rw [camelChars, if_pos rfl, begins, words_underscore]
    · obtain ⟨first, later, split, whole⟩ := splitOn_other h cs
      constructor
      · intro first' later' split'
        obtain ⟨rfl, rfl⟩ := List.cons_eq_cons.1 (whole.symm.trans split')
        rw [camelChars_other h, goesOn first later split, List.cons_append]
      · rw [camelChars, if_neg h, if_pos rfl, goesOn first later split,
          words_of_splitOn (List.cons_ne_nil c first) whole, List.flatMap_cons, capitalize,
          List.append_assoc]

/-- As long as nothing is written, underscores raise nothing. -/
theorem camelChars_eq_joinWords (cs : List Char) :
    camelChars false false cs = joinWords (words cs) := by
  induction cs with
  | nil => rfl
  | cons c cs ih =>
    by_cases h : c = '_'
    · subst h
      rw [camelChars, if_pos rfl, ih, words_underscore]
    · obtain ⟨first, later, split, whole⟩ := splitOn_other h cs
      rw [camelChars_other h, (camelChars_started cs).1 first later split,
        words_of_splitOn (List.cons_ne_nil c first) whole, joinWords, List.cons_append]

theorem eq_of_ofNat_eq_underscore {code : Nat} (h : Char.ofNat code = '_') : code = 95 := by
  by_cases valid : code.isValidChar
  · have kept : Char.ofNat code = Char.ofNatAux code valid := dif_pos valid
    exact congrArg Char.toNat (kept.symm.trans h)
  · have zero : Char.ofNat code = Char.ofNat 0 := dif_neg valid
    rw [zero] at h
    exact absurd h (by decide)

/-- An underscore would be at a code point that no run goes over, and no expansion lists it. -/
theorem underscore_notMem_upperTables :
    (∀ run ∈ upperRuns, (95 : Int) - run.shift < run.first ∨ run.last < (95 : Int) - run.shift) ∧
      ∀ expansion ∈ upperExpansions, 95 ∉ expansion.2 := by decide +kernel

theorem underscore_notMem_mapCase {c : Char} (h : c ≠ '_') :
    '_' ∉ mapCase upperRuns upperExpansions c := by
  obtain ⟨runs, expansions⟩ := underscore_notMem_upperTables
  intro inside
  rw [mapCase] at inside
  split at inside
  · rename_i codes found
    obtain ⟨before, after, table, -⟩ := List.lookup_eq_some_iff.1 found
    obtain ⟨code, listed, written⟩ := List.mem_map.1 inside
    rw [eq_of_ofNat_eq_underscore written] at listed
    exact expansions (c.toNat, codes) (by rw [table]; simp) listed
  · split at inside
    · rename_i run found
      have code := eq_of_ofNat_eq_underscore (List.mem_singleton.1 inside).symm
      have covers := List.find?_some found
      simp only [CaseRun.covers, Bool.and_eq_true, decide_eq_true_eq] at covers
      have outside := runs run (List.mem_of_find?_eq_some found)
      omega
    · exact h (List.mem_singleton.1 inside).symm

theorem underscore_notMem_upperCase {c : Char} (h : c ≠ '_') : '_' ∉ upperCase c := by
  rw [upperCase]
  split
  · rename_i ascii
    have each : ∀ n : Fin 128, Char.ofNat n ≠ '_' → (Char.ofNat n).toUpper ≠ '_' := by decide
    have own := each ⟨c.toNat, of_decide_eq_true ascii⟩
    simp only [Char.ofNat_toNat] at own
    exact fun inside => own h (List.mem_singleton.1 inside).symm
  · exact underscore_notMem_mapCase h

theorem underscore_notMem_camelChars (started raise : Bool) (cs : List Char) :
    '_' ∉ camelChars started raise cs := by
  fun_induction camelChars started raise cs with
  | case1 => exact List.not_mem_nil
  | case2 _ _ _ ih => exact ih
  | case3 started c rest other ih =>
    rw [List.mem_append, not_or]
    exact ⟨underscore_notMem_upperCase other, ih⟩
  | case4 started raise c rest other _ ih =>
    rw [List.mem_cons, not_or]
    exact ⟨Ne.symm other, ih⟩

theorem camelChars_of_notMem {cs : List Char} (h : '_' ∉ cs) (started : Bool) :
    camelChars started false cs = cs := by
  induction cs generalizing started with
  | nil => rfl
  | cons c cs ih =>
    rw [List.mem_cons, not_or] at h
    rw [camelChars_other (Ne.symm h.1), ih h.2]

theorem underscore_notMem_toCamelCase (s : String) : '_' ∉ (toCamelCase s).toList := by
  rw [toCamelCase, String.toList_ofList]
  exact underscore_notMem_camelChars false false s.toList

theorem toCamelCase_eq_self {s : String} (h : '_' ∉ s.toList) : toCamelCase s = s := by
  rw [toCamelCase, camelChars_of_notMem h, String.ofList_toList]

/-- Camel case is the words of a name as one. It has no underscore, and it is the name itself just where
the name has none, so that camel case of camel case is the same. -/
theorem toCamelCase_words (s : String) :
    toCamelCase s = String.ofList (joinWords (words s.toList)) ∧
      '_' ∉ (toCamelCase s).toList ∧
      (toCamelCase s = s ↔ '_' ∉ s.toList) ∧
      toCamelCase (toCamelCase s) = toCamelCase s := by
  have none := underscore_notMem_toCamelCase s
  refine ⟨?_, none, ⟨fun same => same ▸ none, toCamelCase_eq_self⟩, toCamelCase_eq_self none⟩
  rw [toCamelCase, camelChars_eq_joinWords]

example : toCamelCase "__straße__ßa_ﬁt_" = "straßeSSaFIt" := by decide +kernel

end ModelClasses.Naming
