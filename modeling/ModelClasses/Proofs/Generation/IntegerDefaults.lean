import ModelClasses.Proofs.Generation
import ModelClasses.Proofs.Literal.RoundTrip
import ModelClasses.Proofs.Synthesis.Acceptance
import ModelClasses.SourceText

/-! # Default values that are integers

A tag for a default of integer type takes exactly the numbers that the type has. The number stays the
same on its way: it is the value of the argument, the default of the constructor parameter, and what is
read from the text of the default. -/

namespace ModelClasses

open Decimal

/-- The bits of the integers of a type. -/
def LiteralKind.width? : LiteralKind → Option Nat
  | .byte => some 8
  | .short => some 16
  | .int => some 32
  | .long => some 64
  | .boolean | .char | .double | .float | .string => none

/-- An annotation that has a number for its only argument. -/
def AnnotationRecord.ofInteger (qualifiedName : String) (i : Int64) : AnnotationRecord :=
  ⟨qualifiedName, [⟨Tag.soleArgument, .integer i⟩]⟩

/-- The failure of a number that the type of a tag does not have. -/
def outOfRange (tag property : String) (i : Int64) : GenerationError :=
  .unsupportedValue tag Tag.soleArgument (String.ofList (Layout.intText i.toInt)) (some property)

/-- What an expression is written as is read as a number. -/
def Expression.ReadsAs (e : Expression) (i : Int64) : Prop :=
  AnnotationValue.parse (String.ofList e.render) = .ok (.integer i)

theorem Expression.readsAs_literal (i : Int64) : (Expression.literal (.integer i)).ReadsAs i := by
  have readable : (AnnotationValue.integer i).Readable none :=
    AnnotationValue.readable_scalar none (by simp) (by simp) (by simp)
  have text : String.ofList (Expression.literal (.integer i)).render =
      (AnnotationValue.integer i).literal := by
    rw [Expression.render, AnnotationValue.literal]
  rw [ReadsAs, text]
  exact Literal.read_literal readable

theorem Tag.unknown_vocabulary : ∀ entry ∈ Tag.vocabulary, '.' ∉ entry.1.toList ∧
    isBuiltin entry.1 = false ∧
    (defaultImports.map (Naming.qualify · entry.1)).find? isBuiltin = none := by
  decide +kernel

namespace DeclarationGraph

variable {g : DeclarationGraph}

/-- Where nothing has the simple name of a tag, the tag's name is the tag's. -/
theorem annotationName_tag {name : String} {tag : Tag} (entry : (name, tag) ∈ Tag.vocabulary)
    (undeclared : ∀ x ∈ g.declarations, x.simpleName ≠ name) (s : Settings) (package : String) :
    g.annotationName s package name = s.qualify name := by
  obtain ⟨simple, notBuiltin, notImported⟩ := Tag.unknown_vocabulary _ entry
  have missing (qualified : String) (same : Naming.simpleName qualified = name) :
      g.contains qualified = false := by
    rw [contains, Option.isSome_eq_false_iff, Option.isNone_iff_eq_none, get?, List.find?_eq_none]
    intro x hx found
    refine undeclared x hx ?_
    rw [Declaration.simpleName, ← Naming.simpleName_qualify_eq x.package x.name]
    rw [← same, ← beq_iff_eq.1 found]
    rfl
  have unresolved : g.resolveName? package name = none := by
    rw [resolveName?, missing name (Naming.simpleName_eq_self simple),
      missing _ (Naming.simpleName_qualify package simple), notBuiltin, notImported]
    simp
  have tagged : s.tagName? name = some (s.qualify name) := by
    rw [Settings.tagName?, if_pos (List.any_eq_true.2 ⟨_, entry, beq_self_eq_true name⟩)]
  rw [annotationName, unresolved, tagged]
  rfl

end DeclarationGraph

namespace Synthesis

theorem literalMatches_integer {kind : LiteralKind} {bits : Nat} (width : kind.width? = some bits)
    (i : Int64) : literalMatches kind (.integer i) = Word.isSigned bits i.toInt := by
  cases kind <;> cases width
  case long => exact (Word.isSigned_toInt i).symm
  all_goals rfl

variable {g : DeclarationGraph} {s : Settings} {p : PropertyDescriptor} {name : String}
  {kind : LiteralKind} {bits : Nat} {i : Int64}

theorem defaultValue_integer (width : kind.width? = some bits) (qualifiedName : String) :
    defaultValue p (.literalDefault kind) (.ofInteger qualifiedName i) =
      if Word.isSigned bits i.toInt then .ok (.literal (.integer i))
      else .error (outOfRange qualifiedName p.name i) := by
  have found : required p (.ofInteger qualifiedName i) (Tag.literalDefault kind).valueArgument =
      .ok (.integer i) := rfl
  rw [defaultValue, found, ← literalMatches_integer width]
  show (if literalMatches kind (.integer i) = true ∧ _ then _ else _) = _
  cases literalMatches kind (.integer i) <;> rfl

/-- A number is the default of a property if the type of the tag has it, and is refused otherwise. -/
theorem classify_integer (entry : (name, .literalDefault kind) ∈ Tag.vocabulary)
    (width : kind.width? = some bits) (sole : p.annotations = [.ofInteger (s.qualify name) i]) :
    (classify g s p).result =
      if Word.isSigned bits i.toInt then .ok ⟨p, .default (.literal (.integer i)), [], []⟩
      else .error (outOfRange (s.qualify name) p.name i) := by
  have tagged : s.tag? (AnnotationRecord.ofInteger (s.qualify name) i).qualifiedName =
      some (.literalDefault kind) := s.tag?_eq_some_iff.2 ⟨name, entry, rfl⟩
  have sorted : sort g s p p.annotations =
      pure { defaults := [(.literalDefault kind, .ofInteger (s.qualify name) i)] } := by
    rw [sole, sort, tagged]
    rfl
  have source : sourceOf p { defaults := [(.literalDefault kind, .ofInteger (s.qualify name) i)] } =
      (defaultValue p (.literalDefault kind) (.ofInteger (s.qualify name) i)).map .default := rfl
  rw [classify, sorted, pure_bind, Outcome.result_bind, Outcome.result_liftM, source,
    defaultValue_integer width]
  cases Word.isSigned bits i.toInt <;> rfl

theorem synthesize_ok_iff {d : Descriptor} {made : Synthesis} :
    (synthesize g s d).result = .ok made ↔ ∃ classified,
      List.Forall₂ (fun p c => (classify g s p).result = .ok c) d.properties classified ∧
        made = ofClassified s d classified := by
  rw [synthesize, Outcome.bind_ok_iff]
  refine exists_congr fun classified => and_congr Outcome.forEach_ok_iff ?_
  rw [Outcome.result_pure, Except.ok.injEq]
  exact eq_comm

end Synthesis

namespace Descriptor

variable {g : DeclarationGraph} {s : Settings} {d : Declaration} {p : PropertyDeclaration}

/-- A property whose only annotation is a tag with a number fails to be described only if its type
does. -/
theorem describeProperty_integer {name : String} {tag : Tag} {i : Int64}
    (entry : (name, tag) ∈ Tag.vocabulary)
    (undeclared : ∀ x ∈ g.declarations, x.simpleName ≠ name)
    (sole : p.annotations = [⟨name, [⟨Tag.soleArgument, .integer i⟩]⟩]) :
    (describeProperty g s d p).result =
      ((g.resolve d.package ("property " ++ p.name ++ " of " ++ d.qualifiedName) p.type).result.mapError
        (·.onProperty p.name)).map
          fun type => ⟨p.name, type, [.ofInteger (s.qualify name) i], d.qualifiedName⟩ := by
  have annotations : g.resolveAnnotations s d.package p.annotations =
      .ok [.ofInteger (s.qualify name) i] := by
    rw [sole, ← DeclarationGraph.annotationName_tag entry undeclared s d.package]
    rfl
  rw [describeProperty, annotations, Outcome.mapError, Outcome.result_bind]
  cases (g.resolve d.package ("property " ++ p.name ++ " of " ++ d.qualifiedName) p.type).result <;> rfl

end Descriptor

namespace Generation

open Descriptor Synthesis

variable {g : DeclarationGraph} {s : Settings} {d : Declaration} {p : PropertyDeclaration}

/-- A property that is the first of its name in an interface is described and classified on the way to
a class, and its parameter is one of the class. -/
theorem generate_classified {before after : List PropertyDeclaration}
    (split : d.properties = before ++ p :: after) (first : ∀ other ∈ before, other.name ≠ p.name)
    {file : SourceFile} (made : (generate g s d).result = .ok file) :
    ∃ q c model others, (describeProperty g s d p).result = .ok q ∧
      (classify g s q).result = .ok c ∧ file.classes = model :: others ∧
      ∀ x, parameter? c = some x → x ∈ model.constructor := by
  obtain ⟨order, depthFirst, -⟩ := g.existsUnique_depthFirst d
  obtain ⟨descriptor, synthesis, delegated, built, synthesized, -, whole⟩ := generate_ok_iff.1 made
  obtain ⟨-, _, _, _, c, -, -, -, -, collected, whole'⟩ := build_ok_iff.1 built
  have declared := collectAll_properties collected depthFirst
  obtain ⟨above, -, rfl⟩ := depthFirst
  obtain ⟨classified, each, made⟩ := synthesize_ok_iff.1 synthesized
  obtain ⟨q, inside, described⟩ :=
    exists_of_mem_left declared (mem_kept_of_first split first above)
  rw [whole'] at each
  obtain ⟨x, inside', classifies⟩ := exists_of_mem_left each inside
  refine ⟨q, x, synthesis.model, delegated.toList, described, classifies, by rw [whole], ?_⟩
  intro parameter found
  rw [made]
  exact List.mem_filterMap.2 ⟨x, inside', found⟩

/-- What becomes of a property whose default is a number, with a tag for numbers of some bits. -/
structure IntegerDefault (g : DeclarationGraph) (s : Settings) (d : Declaration)
    (p : PropertyDeclaration) (name : String) (bits : Nat) (i : Int64) : Prop where
  /-- A description fails only with the failure of the type. -/
  described : failure? (describeProperty g s d p).result =
    (failure? (g.resolve d.package ("property " ++ p.name ++ " of " ++ d.qualifiedName)
      p.type).result).map (·.onProperty p.name)
  refused : ∀ q, (describeProperty g s d p).result = .ok q →
    ((classify g s q).result = .error (outOfRange (s.qualify name) p.name i) ↔
      Word.isSigned bits i.toInt = false)
  accepted : ∀ q, (describeProperty g s d p).result = .ok q → Word.isSigned bits i.toInt = true →
    ∃ c default, (classify g s q).result = .ok c ∧
      parameter? c = some ⟨p.name, q.type, some default⟩ ∧ default.ReadsAs i
  /-- In a class that is generated, the number is the default of the constructor parameter. -/
  generated : ∀ before after, d.properties = before ++ p :: after →
    (∀ other ∈ before, other.name ≠ p.name) →
    ∀ file, (generate g s d).result = .ok file → Word.isSigned bits i.toInt = true ∧
      ∃ model others parameter default, file.classes = model :: others ∧
        parameter ∈ model.constructor ∧ parameter.name = p.name ∧
        parameter.default = some default ∧ default.ReadsAs i

theorem integerDefault {name : String} {kind : LiteralKind} {bits : Nat} {i : Int64}
    (entry : (name, .literalDefault kind) ∈ Tag.vocabulary) (width : kind.width? = some bits)
    (undeclared : ∀ x ∈ g.declarations, x.simpleName ≠ name)
    (sole : p.annotations = [⟨name, [⟨Tag.soleArgument, .integer i⟩]⟩]) :
    IntegerDefault g s d p name bits i := by
  have describes := describeProperty_integer (s := s) (d := d) entry undeclared sole
  have classifies (q : PropertyDescriptor) (h : (describeProperty g s d p).result = .ok q) :
      q.name = p.name ∧ (classify g s q).result =
        if Word.isSigned bits i.toInt then .ok ⟨q, .default (.literal (.integer i)), [], []⟩
        else .error (outOfRange (s.qualify name) p.name i) := by
    rw [describes] at h
    obtain ⟨type, -, rfl⟩ := map_eq_ok_iff.1 h
    exact ⟨rfl, classify_integer entry width rfl⟩
  have accepted (q : PropertyDescriptor) (h : (describeProperty g s d p).result = .ok q)
      (fits : Word.isSigned bits i.toInt = true) :
      ∃ c default, (classify g s q).result = .ok c ∧
        parameter? c = some ⟨p.name, q.type, some default⟩ ∧ default.ReadsAs i := by
    obtain ⟨sameName, result⟩ := classifies q h
    rw [if_pos fits] at result
    exact ⟨_, _, result, by rw [← sameName]; rfl, Expression.readsAs_literal i⟩
  refine ⟨?described, ?refused, accepted, ?generated⟩
  case described =>
    rw [describes, failure?_map, failure?_mapError]
  case refused =>
    intro q h
    rw [(classifies q h).2]
    cases Word.isSigned bits i.toInt <;> simp
  case generated =>
    intro before after split first file made
    obtain ⟨q, c, model, others, h, classified, classes, parameters⟩ :=
      generate_classified split first made
    have fits : Word.isSigned bits i.toInt = true := by
      by_contra outside
      rw [(classifies q h).2, if_neg outside] at classified
      cases classified
    obtain ⟨c', default, classified', parameter, reads⟩ := accepted q h fits
    cases classified.symm.trans classified'
    exact ⟨fits, model, others, _, default, classes, parameters _ parameter, rfl, rfl, reads⟩

end Generation

end ModelClasses
