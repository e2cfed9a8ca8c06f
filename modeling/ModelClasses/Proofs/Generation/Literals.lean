import ModelClasses.Proofs.Annotations
import ModelClasses.Proofs.Generation
import ModelClasses.Proofs.Literal.RoundTrip

/-! # Literals of generated files

Every literal in a generated file is the value of an argument of an annotation, and has been checked
on its way, as a default or as a member of an annotation that is copied. So it can be written, and
what is written is read as the value. -/

namespace ModelClasses

mutual
/-- The values of the literals in an expression. -/
def Expression.literals : Expression → List AnnotationValue
  | .literal v => [v]
  | .name _ => []
  | .member _ _ => []
  | .call _ _ arguments => Expression.literalsOf arguments
  | .verbatim _ => []

def Expression.literalsOf : List Expression → List AnnotationValue
  | [] => []
  | e :: rest => e.literals ++ Expression.literalsOf rest
end

def Parameter.expressions (q : Parameter) : List Expression := q.default.toList

def Initializer.expressions : Initializer → List Expression
  | .parameter => []
  | .expression e => [e]

def Property.expressions (q : Property) : List Expression :=
  q.initializer.expressions ++ q.annotations.flatMap fun copy => copy.members.map (·.value)

def Conversion.expressions (c : Conversion) : List Expression :=
  c.parameters.flatMap (·.expressions) ++ c.arguments.map (·.value)

def ClassModel.expressions (m : ClassModel) : List Expression :=
  m.constructor.flatMap (·.expressions) ++ m.properties.flatMap (·.expressions) ++
    m.conversions.flatMap (·.expressions)

/-- The values of all literals in a file. -/
def SourceFile.literals (file : SourceFile) : List AnnotationValue :=
  file.classes.flatMap fun m => m.expressions.flatMap (·.literals)

/-- A value that an annotation of a property has, and that can be written. -/
def PropertyDescriptor.Writes (p : PropertyDescriptor) (v : AnnotationValue) : Prop :=
  v.isRenderable = true ∧ ∃ a ∈ p.annotations, ∃ x ∈ a.arguments, x.value = v

namespace Synthesis

variable {g : DeclarationGraph} {s : Settings} {p : PropertyDescriptor}

theorem mem_of_argument? {a : AnnotationRecord} {argument : String} {v : AnnotationValue}
    (h : a.argument? argument = some v) : ∃ x ∈ a.arguments, x.value = v := by
  obtain ⟨x, found, value⟩ := Option.map_eq_some_iff.1 h
  exact ⟨x, List.mem_of_find?_eq_some found, value⟩

theorem writes_defaultValue {tag : Tag} {a : AnnotationRecord} {e : Expression}
    (carried : a ∈ p.annotations) (h : defaultValue p tag a = .ok e) :
    ∀ v ∈ e.literals, p.Writes v := by
  obtain ⟨value, found, h⟩ := bind_eq_ok_iff.1 h
  have given := mem_of_argument? (required_ok_iff.1 found)
  intro v hv
  split at h
  · split at h
    · rename_i fits
      cases h
      rw [Expression.literals, List.mem_singleton] at hv
      rw [hv]
      exact ⟨fits.2, a, carried, given⟩
    · cases h
  · obtain ⟨receiver, -, h⟩ := bind_eq_ok_iff.1 h
    cases h
    simp [Expression.literals, Expression.literalsOf] at hv
  · cases h

theorem writes_copyRecord {a : AnnotationRecord} {copy : AnnotationCopy}
    (carried : a ∈ p.annotations) (h : copyRecord p a = .ok copy) :
    ∀ member ∈ copy.members, ∀ v ∈ member.value.literals, p.Writes v := by
  obtain ⟨members, each, rfl⟩ := map_eq_ok_iff.1 h
  intro member hm v hv
  obtain ⟨x, hx, copied⟩ := exists_of_mem_right (mapM_eq_ok_iff.1 each) hm
  rw [copyArgument] at copied
  split at copied
  · rename_i renderable
    cases copied
    rw [Expression.literals, List.mem_singleton] at hv
    rw [hv]
    exact ⟨renderable, a, carried, x, hx, rfl⟩
  · cases copied

theorem writes_parameter {c : ClassifiedProperty} (h : Classifies g s p c) {q : Parameter}
    (hq : parameter? c = some q) : ∀ e ∈ q.expressions, ∀ v ∈ e.literals, p.Writes v := by
  obtain ⟨-, governs, -, -⟩ := h
  rw [parameter?] at hq
  split at hq
  · cases hq
    intro e he
    cases he
  · rename_i value source
    cases hq
    rw [source] at governs
    cases governs with
    | default _ _ carried _ given =>
      intro e he
      obtain rfl : e = value := by simpa [Parameter.expressions] using he
      exact writes_defaultValue carried given
  · cases hq

theorem literals_initializer (c : ClassifiedProperty) :
    ∀ e ∈ (initializer c).expressions, e.literals = [] := by
  intro e he
  rw [initializer] at he
  split at he
  · obtain rfl : e = _ := by simpa [Initializer.expressions] using he
    rw [Expression.literals]
  · cases he

theorem literals_created {a : AnnotationRecord} {q : Property} (h : Creates p a q) :
    ∀ e ∈ q.expressions, e.literals = [] := by
  obtain ⟨-, -, ⟨modifier, -, initializer⟩, annotations⟩ := h
  intro e he
  rw [Property.expressions, initializer, annotations] at he
  obtain rfl : e = _ := by simpa [Initializer.expressions] using he
  rfl

theorem writes_property {c : ClassifiedProperty} (h : Classifies g s p c) :
    ∀ q ∈ propertiesOf c, ∀ e ∈ q.expressions, ∀ v ∈ e.literals, p.Writes v := by
  intro q hq e he v hv
  rw [propertiesOf_eq] at hq
  rcases List.mem_cons.1 hq with rfl | hq
  · rcases List.mem_append.1 he with he | he
    · rw [literals_initializer c e he] at hv
      cases hv
    · obtain ⟨copy, hc, he⟩ := List.mem_flatMap.1 he
      obtain ⟨member, hm, rfl⟩ := List.mem_map.1 he
      obtain ⟨a, ha, copied⟩ := exists_of_mem_right h.copied hc
      exact writes_copyRecord (List.mem_filter.1 ha).1 copied member hm v hv
  · obtain ⟨a, -, creates⟩ := exists_of_mem_right h.creates hq
    rw [literals_created creates e he] at hv
    cases hv

theorem literals_conversion (source : TypeName) (parameters : List Parameter) :
    ∀ e ∈ (conversion source parameters).expressions, e.literals = [] := by
  intro e he
  rcases List.mem_append.1 he with he | he
  · cases he
  · obtain ⟨argument, ha, rfl⟩ := List.mem_map.1 he
    obtain ⟨q, -, rfl⟩ := List.mem_map.1 ha
    rfl

theorem writes_synthesize {d : Descriptor} {made : Synthesis}
    (h : (synthesize g s d).result = .ok made) :
    ∀ e ∈ made.model.expressions, ∀ v ∈ e.literals, ∃ p ∈ d.properties, p.Writes v := by
  obtain ⟨classified, each, rfl⟩ := synthesize_ok h
  intro e he v hv
  rcases List.mem_append.1 he with he | he
  · rcases List.mem_append.1 he with he | he
    · obtain ⟨q, hq, he⟩ := List.mem_flatMap.1 he
      obtain ⟨c, hc, hq⟩ := List.mem_filterMap.1 hq
      obtain ⟨p, hp, classifies⟩ := exists_of_mem_right each hc
      exact ⟨p, hp, writes_parameter classifies hq e he v hv⟩
    · obtain ⟨q, hq, he⟩ := List.mem_flatMap.1 he
      obtain ⟨c, hc, hq⟩ := List.mem_flatMap.1 hq
      obtain ⟨p, hp, classifies⟩ := exists_of_mem_right each hc
      exact ⟨p, hp, writes_property classifies q hq e he v hv⟩
  · obtain ⟨c, hc, he⟩ := List.mem_flatMap.1 he
    obtain rfl := List.mem_singleton.1 hc
    rw [literals_conversion _ _ e he] at hv
    cases hv

end Synthesis

theorem Delegation.literals_model (s : Settings) (d : Descriptor) (derived : List DerivedProperty) :
    ∀ e ∈ (Delegation.model s d derived).expressions, e.literals = [] := by
  intro e he
  rcases List.mem_append.1 he with he | he
  · rcases List.mem_append.1 he with he | he
    · obtain ⟨q, hq, he⟩ := List.mem_flatMap.1 he
      obtain ⟨i, -, rfl⟩ := List.mem_map.1 hq
      cases he
    · obtain ⟨q, hq, he⟩ := List.mem_flatMap.1 he
      obtain ⟨x, -, rfl⟩ := List.mem_map.1 hq
      obtain rfl : e = _ := by simpa [Property.expressions, Initializer.expressions] using he
      rfl
  · cases he

namespace Generation

theorem refersTo_build {g : DeclarationGraph} (wellNamed : g.WellNamed) {s : Settings}
    {package : String} {d : Declaration} {made : Descriptor}
    (h : (Descriptor.build g s package d).result = .ok made) :
    ∀ p ∈ made.properties, ∀ a ∈ p.annotations, ∀ x ∈ a.arguments, x.value.RefersTo g := by
  obtain ⟨-, _, _, _, c, -, -, -, -, collected, rfl⟩ := Descriptor.build_ok_iff.1 h
  obtain ⟨order, depthFirst, -⟩ := g.existsUnique_depthFirst d
  intro p hp
  obtain ⟨a, -, described⟩ :=
    exists_of_mem_right (Descriptor.collectAll_properties collected depthFirst) hp
  obtain ⟨-, -, annotations⟩ := Descriptor.describeProperty_ok described
  exact DeclarationGraph.refersTo_resolveAnnotations wellNamed annotations

theorem writes_generate {g : DeclarationGraph} {s : Settings} {d : Declaration} {file : SourceFile}
    (h : (generate g s d).result = .ok file) :
    ∃ descriptor, (Descriptor.build g s d.package d).result = .ok descriptor ∧
      ∀ v ∈ file.literals, ∃ p ∈ descriptor.properties, p.Writes v := by
  obtain ⟨descriptor, made, delegated, built, synthesized, delegates, rfl⟩ := generate_ok_iff.1 h
  refine ⟨descriptor, built, ?_⟩
  intro v hv
  obtain ⟨m, hm, inModel⟩ := List.mem_flatMap.1 hv
  obtain ⟨e, he, held⟩ := List.mem_flatMap.1 inModel
  rcases List.mem_cons.1 hm with rfl | hm
  · exact Synthesis.writes_synthesize synthesized e he v held
  · rw [Option.mem_toList] at hm
    cases hm
    rw [Delegation.delegate?] at delegates
    split at delegates
    · cases delegates
      rw [Delegation.literals_model s descriptor made.derived e he] at held
      cases held
    · cases delegates

theorem literals_readBack {g : DeclarationGraph} (wellNamed : g.WellNamed) {s : Settings}
    {d : Declaration} {file : SourceFile} (h : (generate g s d).result = .ok file) :
    ∀ v ∈ file.literals, v.isRenderable = true ∧ (∀ text, ¬ v.Holds (.unsupported text)) ∧
      AnnotationValue.parseIn g v.literal = .ok v := by
  obtain ⟨descriptor, built, writes⟩ := writes_generate h
  intro v hv
  obtain ⟨p, hp, renderable, a, ha, x, hx, rfl⟩ := writes v hv
  have refers := refersTo_build wellNamed built p hp a ha x hx
  have readable := AnnotationValue.readable_of_isRenderable renderable refers
  refine ⟨renderable, readable.supported, ?_⟩
  rw [AnnotationValue.parseIn]
  exact Literal.read_literal readable

/-- A default and an annotation that is copied, with references in an array. -/
theorem literals_readBack_copied :
    let d : Declaration := {
      package := "p", name := "Item", kind := .interface
      annotations := [⟨"Generate", [⟨"name", .string "Made"⟩]⟩]
      properties := [⟨"tint", ⟨"String", [], false⟩, [
        ⟨"StringDefault", [⟨"value", .string "$\n\"é"⟩]⟩,
        ⟨"q.Doc", [⟨"see", .array [.reference "Color.Red", .reference "q.Palette",
          .array [.reference "List", .char '\'', .integer Int64.minValue]]⟩]⟩]⟩] }
    let g : DeclarationGraph := ⟨[d,
      { package := "p", name := "Color.Red", kind := .enumEntry },
      { package := "q", name := "Palette", kind := .object }]⟩
    g.WellNamed ∧ ∃ file, (generate g {} d).result = .ok file ∧ file.literals.length = 2 ∧
      ∀ v ∈ file.literals, v.isRenderable = true ∧ (∀ text, ¬ v.Holds (.unsupported text)) ∧
        AnnotationValue.parseIn g v.literal = .ok v := by
  intro d g
  have wellNamed : g.WellNamed := ⟨by decide +kernel, by decide +kernel⟩
  have depthFirst : g.DepthFirst d [d] := ⟨[], .nil _ _, rfl⟩
  have collects : Descriptor.Collects g {} [] {} [d] {
      seen := ["tint"]
      properties := [⟨"tint", .named "kotlin.String", [
        ⟨"annotations.StringDefault", [⟨"value", .string "$\n\"é"⟩]⟩,
        ⟨"q.Doc", [⟨"see", .array [.reference ⟨"p.Color.Red", .enumConstant⟩,
          .reference ⟨"q.Palette", .singleton⟩, .array [
            .reference ⟨"kotlin.collections.List", .class_⟩, .char '\'',
            .integer Int64.minValue]]⟩]⟩], "p.Item"⟩]
      files := [] } := .cons rfl (.nil _ _)
  have collected := (Descriptor.collectAll_ok_iff depthFirst).2 collects
  have built : (Descriptor.build g {} d.package d).result = .ok _ :=
    Descriptor.build_ok_iff.2 ⟨rfl, _, _, _, _, rfl, rfl, by decide, rfl, collected, rfl⟩
  have generated : ∃ file, (generate g {} d).result = .ok file ∧ file.literals.length = 2 :=
    ⟨_, generate_ok_iff.2 ⟨_, _, _, built, rfl, rfl, rfl⟩, rfl⟩
  obtain ⟨file, ok, two⟩ := generated
  exact ⟨wellNamed, file, ok, two, literals_readBack wellNamed ok⟩

end Generation

end ModelClasses
