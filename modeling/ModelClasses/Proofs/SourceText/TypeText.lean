import ModelClasses.Proofs.SourceText
import ModelClasses.Proofs.Text.Span

/-! # Types from their texts

The text of a type is its name, its arguments in angle brackets and a question mark if it is
nullable. A name goes as far as no mark is in sight, and the mark behind it says what follows, so that
a text is read in one way only. The type is then determined by the names as they are written. A scope
may write them by their simple names alone, but it writes no two of them alike unless it opens the
packages of both. -/

namespace ModelClasses

open Text

namespace TypeName

/-- The characters around the names of a type. -/
def marks : List Char := ['<', '>', ',', '?', ' ']

def isPlain (c : Char) : Bool := !marks.contains c

/-- What may stand behind a type that is an argument, or a type of its own. -/
def Ends (rest : List Char) : Prop := Stops (fun c => c != ',' && c != '>') rest

theorem ends_nil : Ends [] := stops_nil _

theorem ends_comma (rest : List Char) : Ends (',' :: rest) := stops_cons rfl

theorem ends_bracket (rest : List Char) : Ends ('>' :: rest) := stops_cons rfl

theorem Ends.stops {rest : List Char} (h : Ends rest) : Stops isPlain rest :=
  Stops.mono h fun c plain => by
    simp only [isPlain, marks, List.contains_eq_mem, List.mem_cons, Bool.not_eq_true',
      decide_eq_false_iff_not, not_or] at plain
    simp [plain.2.1, plain.2.2.1]

theorem Ends.ne_cons {c : Char} {rest rest' : List Char} (h : Ends rest) (hc : c ≠ ',')
    (hc' : c ≠ '>') : rest ≠ c :: rest' := by
  rintro rfl
  have inside := h c rfl
  simp [hc, hc'] at inside

theorem commaSeparated_cons (text : List Char) (texts : List (List Char)) :
    commaSeparated (text :: texts) = text ++ texts.flatMap fun other => ',' :: ' ' :: other := by
  rw [commaSeparated]
  induction texts generalizing text with
  | nil => simp
  | cons other texts ih =>
    rw [List.intercalate_cons_cons, ih other, List.flatMap_cons, List.append_assoc]
    rfl

/-- The arguments of a type behind its first one. -/
def furtherArguments (name : String → List Char) (ts : List TypeName) : List Char :=
  (renderList name ts).flatMap fun other => ',' :: ' ' :: other

/-- What stands behind the name of a type. -/
def afterName (name : String → List Char) (arguments : List TypeName) (nullable : Bool) :
    List Char :=
  (if arguments.isEmpty then [] else '<' :: commaSeparated (renderList name arguments) ++ ['>']) ++
    (if nullable then ['?'] else [])

theorem render_eq (name : String → List Char) (qualified : String) (arguments : List TypeName)
    (nullable : Bool) :
    render name ⟨qualified, arguments, nullable⟩ =
      name qualified ++ afterName name arguments nullable := by
  rw [render, withArguments, afterName, List.append_assoc]
  cases arguments <;> rfl

section

variable {name : String → List Char} {rest rest' : List Char}

variable (name) in
theorem stops_afterName (arguments : List TypeName) (nullable : Bool) (ends : Ends rest) :
    Stops isPlain (afterName name arguments nullable ++ rest) := by
  cases arguments with
  | cons t ts => exact stops_cons rfl
  | nil =>
    cases nullable with
    | true => exact stops_cons rfl
    | false => exact ends.stops

theorem afterName_nil_inj {nullable nullable' : Bool} (ends : Ends rest) (ends' : Ends rest')
    (same : afterName name [] nullable ++ rest = afterName name [] nullable' ++ rest') :
    nullable = nullable' ∧ rest = rest' := by
  cases nullable <;> cases nullable'
  · exact ⟨rfl, same⟩
  · exact absurd same (ends.ne_cons (by decide) (by decide))
  · exact absurd same.symm (ends'.ne_cons (by decide) (by decide))
  · exact ⟨rfl, (List.cons.inj same).2⟩

theorem afterName_cons (t : TypeName) (ts : List TypeName) (nullable : Bool) :
    afterName name (t :: ts) nullable ++ rest =
      '<' :: (t.render name ++
        (furtherArguments name ts ++ '>' :: (afterName name [] nullable ++ rest))) := by
  simp [afterName, renderList, commaSeparated_cons, furtherArguments]

theorem afterName_nil_ne_cons (ends : Ends rest) (nullable nullable' : Bool) (t : TypeName)
    (ts : List TypeName) :
    afterName name [] nullable ++ rest ≠ afterName name (t :: ts) nullable' ++ rest' := by
  rw [afterName_cons]
  cases nullable with
  | true => exact fun same => absurd (List.cons.inj same).1 (by decide)
  | false => exact ends.ne_cons (by decide) (by decide)

theorem furtherArguments_cons (t : TypeName) (ts : List TypeName) :
    furtherArguments name (t :: ts) ++ rest =
      ',' :: ' ' :: (t.render name ++ (furtherArguments name ts ++ rest)) := by
  simp [furtherArguments, renderList]

theorem ends_furtherArguments (ts : List TypeName) :
    Ends (furtherArguments name ts ++ '>' :: rest) := by
  cases ts with
  | nil => exact ends_bracket rest
  | cons t ts => exact ends_comma _

end

/-- Names are written without marks and each in its own way. -/
structure Distinguishes (name : String → List Char) (known : List String) : Prop where
  plain : ∀ q ∈ known, ∀ c ∈ name q, isPlain c = true
  inj : ∀ q ∈ known, ∀ q' ∈ known, name q = name q' → q = q'

section

variable {name : String → List Char} {known : List String}

mutual
/-- Where two texts start with types, the types are the same, and so is what follows them. -/
theorem render_append_inj (distinct : Distinguishes name known) :
    ∀ {t t' : TypeName} {rest rest' : List Char}, t.names ⊆ known → t'.names ⊆ known →
    Ends rest → Ends rest' → t.render name ++ rest = t'.render name ++ rest' → t = t' ∧ rest = rest'
  | ⟨q, arguments, nullable⟩, ⟨q', arguments', nullable'⟩, _, _, inside, inside', ends, ends',
      same => by
    rw [names, List.cons_subset] at inside inside'
    rw [render_eq, render_eq, List.append_assoc, List.append_assoc] at same
    -- The name is what stands in front of the first mark.
    have stops := stops_afterName name arguments nullable ends
    have stops' := stops_afterName name arguments' nullable' ends'
    have written := congrArg (List.takeWhile isPlain) same
    have behind := congrArg (List.dropWhile isPlain) same
    rw [takeWhile_append_stops (distinct.plain q inside.1) stops,
      takeWhile_append_stops (distinct.plain q' inside'.1) stops'] at written
    rw [dropWhile_append_stops (distinct.plain q inside.1) stops,
      dropWhile_append_stops (distinct.plain q' inside'.1) stops'] at behind
    obtain ⟨rfl, rfl, rfl⟩ := afterName_append_inj distinct inside.2 inside'.2 ends ends' behind
    exact ⟨by rw [distinct.inj q inside.1 q' inside'.1 written], rfl⟩

theorem afterName_append_inj (distinct : Distinguishes name known) :
    ∀ {ts ts' : List TypeName} {nullable nullable' : Bool} {rest rest' : List Char},
    namesOf ts ⊆ known → namesOf ts' ⊆ known → Ends rest → Ends rest' →
    afterName name ts nullable ++ rest = afterName name ts' nullable' ++ rest' →
    ts = ts' ∧ nullable = nullable' ∧ rest = rest'
  | [], [], _, _, _, _, _, _, ends, ends', same => ⟨rfl, afterName_nil_inj ends ends' same⟩
  | [], t :: ts, _, _, _, _, _, _, ends, _, same =>
    absurd same (afterName_nil_ne_cons ends _ _ t ts)
  | t :: ts, [], _, _, _, _, _, _, _, ends', same =>
    absurd same.symm (afterName_nil_ne_cons ends' _ _ t ts)
  | t :: ts, t' :: ts', _, _, _, _, inside, inside', ends, ends', same => by
    rw [namesOf, List.append_subset] at inside inside'
    rw [afterName_cons, afterName_cons] at same
    obtain ⟨rfl, further⟩ := render_append_inj distinct inside.1 inside'.1
      (ends_furtherArguments ts) (ends_furtherArguments ts') (List.cons.inj same).2
    obtain ⟨rfl, behind⟩ := furtherArguments_append_inj distinct inside.2 inside'.2 further
    exact ⟨rfl, afterName_nil_inj ends ends' behind⟩

theorem furtherArguments_append_inj (distinct : Distinguishes name known) :
    ∀ {ts ts' : List TypeName} {rest rest' : List Char},
    namesOf ts ⊆ known → namesOf ts' ⊆ known →
    furtherArguments name ts ++ '>' :: rest = furtherArguments name ts' ++ '>' :: rest' →
    ts = ts' ∧ rest = rest'
  | [], [], _, _, _, _, same => ⟨rfl, (List.cons.inj same).2⟩
  | [], _ :: _, _, _, _, _, same => absurd (List.cons.inj same).1 (by decide)
  | _ :: _, [], _, _, _, _, same => absurd (List.cons.inj same).1 (by decide)
  | t :: ts, t' :: ts', _, _, inside, inside', same => by
    rw [namesOf, List.append_subset] at inside inside'
    rw [furtherArguments_cons, furtherArguments_cons] at same
    obtain ⟨rfl, further⟩ := render_append_inj distinct inside.1 inside'.1
      (ends_furtherArguments ts) (ends_furtherArguments ts') (List.cons.inj (List.cons.inj same).2).2
    obtain ⟨rfl, behind⟩ := furtherArguments_append_inj distinct inside.2 inside'.2 further
    exact ⟨rfl, behind⟩
end

end

end TypeName

namespace NameScope

/-- Names that a scope can write so that each is told from the others: none is without a package or
has a mark in it, the scope knows what its own package declares, and no two packages of the default
imports have the same simple name. -/
structure Legible (scope : NameScope) (names : List String) : Prop where
  owned : ∀ q ∈ names, Naming.packageOf q ≠ ""
  plain : ∀ q ∈ names, q.toList.all TypeName.isPlain = true
  declared : ∀ q ∈ names, Naming.packageOf q = scope.package → Naming.simpleName q ∈ scope.declared
  apart : ∀ q ∈ names, ∀ q' ∈ names, Naming.packageOf q = "kotlin" →
    Naming.packageOf q' = "kotlin.collections" → Naming.simpleName q ≠ Naming.simpleName q'

namespace Legible

variable {scope : NameScope} {names : List String} (legible : scope.Legible names)

include legible

theorem shortName_inj {q q' : String} (inside : q ∈ names) (inside' : q' ∈ names)
    (same : scope.shortName q = scope.shortName q') : q = q' := by
  by_contra different
  have owned := legible.owned q inside
  have owned' := legible.owned q' inside'
  obtain ⟨simple, free, opens, opens'⟩ := (shortName_eq_iff owned owned' different).1 same
  -- What the scope's own package has is declared, so both are of the default imports.
  have imported := opens.resolve_left fun own => free (legible.declared q inside own)
  have imported' := opens'.resolve_left fun own =>
    free (simple ▸ legible.declared q' inside' own)
  have packages : Naming.packageOf q = Naming.packageOf q' := by
    simp only [defaultImports, List.mem_cons, List.not_mem_nil, or_false] at imported imported'
    rcases imported with first | second <;> rcases imported' with first' | second'
    · rw [first, first']
    · exact absurd simple (legible.apart q inside q' inside' first second')
    · exact absurd simple.symm (legible.apart q' inside' q inside first' second)
    · rw [second, second']
  exact different (by
    rw [← Naming.qualify_packageOf owned, ← Naming.qualify_packageOf owned', packages, simple])

theorem plain_shortName {q : String} (inside : q ∈ names) :
    ∀ c ∈ (scope.shortName q).toList, TypeName.isPlain c = true := by
  have owned := legible.owned q inside
  have whole := List.all_eq_true.1 (legible.plain q inside)
  rcases shortName_cases scope owned with ⟨short, -⟩ | full
  · intro c hc
    apply whole
    rw [short] at hc
    rw [← Naming.qualify_packageOf owned, Naming.qualify_eq owned]
    simp [hc]
  · rwa [full]

theorem distinguishes :
    TypeName.Distinguishes (fun qualified => (scope.shortName qualified).toList) names :=
  ⟨fun _ inside => legible.plain_shortName inside,
    fun _ inside _ inside' same => legible.shortName_inj inside inside' (String.toList_inj.1 same)⟩

end Legible

/-- Within names that a scope can tell apart, the text of a type is the text of no other type. -/
theorem typeText_eq_iff {scope : NameScope} {t t' : TypeName}
    (legible : scope.Legible (t.names ++ t'.names)) :
    scope.typeText t = scope.typeText t' ↔ t = t' := by
  refine ⟨fun same => ?_, fun same => by rw [same]⟩
  refine (TypeName.render_append_inj legible.distinguishes (List.subset_append_left _ _)
    (List.subset_append_right _ _) TypeName.ends_nil TypeName.ends_nil ?_).1
  rw [List.append_nil, List.append_nil]
  exact same

/-- A nullable argument against a nullable type, in a package that shadows one of the default imports
and has a nested type. -/
theorem typeText_eq_iff_nullable :
    let scope : NameScope := ⟨"kotlin.collections", ["List", "Map", "Entry"]⟩
    let text : TypeName := .named "kotlin.String"
    let list (t : TypeName) : TypeName := {
      qualifiedName := "kotlin.collections.List", arguments := [t] }
    let map (t : TypeName) : TypeName := {
      qualifiedName := "kotlin.collections.Map"
      arguments := [.named "kotlin.collections.Map.Entry", t, .named "org.List"] }
    let t := map (list (text.withNullable true))
    let t' := map ((list text).withNullable true)
    scope.Legible (t.names ++ t'.names) ∧
      scope.typeText t =
        "Map<kotlin.collections.Map.Entry, List<String?>, org.List>".toList ∧
      scope.typeText t' =
        "Map<kotlin.collections.Map.Entry, List<String>?, org.List>".toList ∧
      scope.typeText t ≠ scope.typeText t' := by
  intro scope text list map t t'
  have legible : scope.Legible (t.names ++ t'.names) :=
    ⟨by decide, by decide, by decide, by decide⟩
  refine ⟨legible, by decide, by decide, ?_⟩
  rw [ne_eq, typeText_eq_iff legible]
  decide

end NameScope

end ModelClasses
