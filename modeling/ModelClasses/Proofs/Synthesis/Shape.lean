import ModelClasses.Proofs.Synthesis.Classification

/-! # The shape of a synthesized class

The lists of a class and its constructors, each said of the properties of the descriptor and their
tags: which properties override, which are parameters, which are derived, and where the created ones
stand. -/

namespace ModelClasses

/-- A property that is computed from a text as it is. -/
def Property.computed? (q : Property) : Option DerivedProperty :=
  match q.initializer with
  | .expression (.verbatim text) => some ⟨q.name, q.type, text⟩
  | _ => none

namespace Synthesis

/-- The properties of a class that come from one property: the one that overrides it, and one for
every tag that asks for a further one. -/
def ComesFrom (s : Settings) (p : PropertyDescriptor) (group : List Property) : Prop :=
  ∃ own created, group = own :: created ∧
    own.isOverride = true ∧ own.name = p.name ∧ own.type = p.type ∧
    List.Forall₂ (Creates p) (p.createTags s) created

/-- How a class and what is derived in it follow from a descriptor. -/
structure Shape (s : Settings) (d : Descriptor) (made : Synthesis) : Prop where
  overrides : (made.model.properties.filter (·.isOverride)).map (fun q => (q.name, q.type)) =
    d.properties.map fun p => (p.name, p.type)
  parameters : List.Forall₂
    (fun (p : PropertyDescriptor) (q : Parameter) =>
      q.name = p.name ∧ q.type = p.type ∧ (q.default.isSome = true ↔ p.hasDefault s = true))
    (d.properties.filter fun p => !p.isDerived s) made.model.constructor
  conversion : ∃ instanceName, made.model.conversions = [{
    parameters := [⟨instanceName, d.sourceInterface, none⟩]
    arguments := made.model.constructor.map fun q => ⟨q.name, .member instanceName q.name⟩ }]
  derived : List.Forall₂
    (fun (p : PropertyDescriptor) (x : DerivedProperty) => x.name = p.name ∧ x.type = p.type)
    (d.properties.filter fun p => p.isDerived s) made.derived
  initializers : (made.model.properties.filter (·.isOverride)).filterMap (·.computed?) = made.derived
  groups : ∃ groups, List.Forall₂ (ComesFrom s) d.properties groups ∧
    made.model.properties = groups.flatten

/-- The property that overrides the interface's one. -/
def own (c : ClassifiedProperty) : Property where
  name := c.property.name
  type := c.property.type
  isOverride := true
  initializer := initializer c
  annotations := c.copied

theorem propertiesOf_eq (c : ClassifiedProperty) : propertiesOf c = own c :: c.created := rfl

variable {g : DeclarationGraph} {s : Settings}

theorem Classifies.creates {p : PropertyDescriptor} {c : ClassifiedProperty}
    (h : Classifies g s p c) : List.Forall₂ (Creates p) (p.createTags s) c.created :=
  h.created.imp fun _ _ => createProperty_ok

theorem Classifies.notOverride {p : PropertyDescriptor} {c : ClassifiedProperty}
    (h : Classifies g s p c) : ∀ q ∈ c.created, q.isOverride = false := by
  intro q hq
  obtain ⟨a, -, creates⟩ := exists_of_mem_right h.creates hq
  exact creates.notOverride

theorem filter_isOverride {p : PropertyDescriptor} {c : ClassifiedProperty}
    (h : Classifies g s p c) : (propertiesOf c).filter (·.isOverride) = [own c] := by
  have created : c.created.filter (·.isOverride) = [] := by
    simpa [List.filter_eq_nil_iff] using h.notOverride
  rw [propertiesOf_eq, List.filter_cons_of_pos rfl, created]

theorem filter_not_isOverride {p : PropertyDescriptor} {c : ClassifiedProperty}
    (h : Classifies g s p c) : (propertiesOf c).filter (!·.isOverride) = c.created := by
  rw [propertiesOf_eq, List.filter_cons_of_neg (by simp [own])]
  simpa [List.filter_eq_self] using h.notOverride

theorem overrides_flatMap {ps : List PropertyDescriptor} {cs : List ClassifiedProperty}
    (h : List.Forall₂ (Classifies g s) ps cs) :
    (cs.flatMap propertiesOf).filter (·.isOverride) = cs.map own := by
  induction h with
  | nil => rfl
  | cons first _ ih => rw [List.flatMap_cons, List.filter_append, filter_isOverride first, ih]; rfl

theorem created_flatMap {ps : List PropertyDescriptor} {cs : List ClassifiedProperty}
    (h : List.Forall₂ (Classifies g s) ps cs) :
    (cs.flatMap propertiesOf).filter (!·.isOverride) = cs.flatMap (·.created) := by
  induction h with
  | nil => rfl
  | cons first _ ih =>
    rw [List.flatMap_cons, List.filter_append, filter_not_isOverride first, ih, List.flatMap_cons]

theorem parameters_ok {ps : List PropertyDescriptor} {cs : List ClassifiedProperty}
    (h : List.Forall₂ (Classifies g s) ps cs) :
    List.Forall₂
      (fun (p : PropertyDescriptor) (q : Parameter) =>
        q.name = p.name ∧ q.type = p.type ∧ (q.default.isSome = true ↔ p.hasDefault s = true))
      (ps.filter fun p => !p.isDerived s) (cs.filterMap parameter?) := by
  apply forall₂_filterMap h
  intro p c classifies
  obtain ⟨rfl, governs, -, -⟩ := classifies
  rw [parameter?]
  cases source : c.source with
  | plain =>
    rw [source] at governs
    cases governs with
    | plain notDerived noDefault => simp [notDerived, noDefault]
  | default value =>
    rw [source] at governs
    cases governs with
    | default notDerived hasDefault => simp [notDerived, hasDefault]
  | derived text =>
    rw [source] at governs
    cases governs with
    | derived isDerived => simp [isDerived]

theorem derived_ok {ps : List PropertyDescriptor} {cs : List ClassifiedProperty}
    (h : List.Forall₂ (Classifies g s) ps cs) :
    List.Forall₂
      (fun (p : PropertyDescriptor) (x : DerivedProperty) => x.name = p.name ∧ x.type = p.type)
      (ps.filter fun p => p.isDerived s) (cs.filterMap derived?) := by
  apply forall₂_filterMap h
  intro p c classifies
  obtain ⟨rfl, governs, -, -⟩ := classifies
  rw [derived?]
  cases source : c.source with
  | plain =>
    rw [source] at governs
    cases governs with
    | plain notDerived => exact notDerived
  | default value =>
    rw [source] at governs
    cases governs with
    | default notDerived => exact notDerived
  | derived text =>
    rw [source] at governs
    cases governs with
    | derived isDerived => exact ⟨isDerived, rfl, rfl⟩

theorem computed?_own (c : ClassifiedProperty) : (own c).computed? = derived? c := by
  rw [Property.computed?, own, initializer, derived?]
  cases c.source <;> rfl

/-- What a class is made from, seen as the list of what comes from every property. -/
theorem comesFrom_propertiesOf {p : PropertyDescriptor} {c : ClassifiedProperty}
    (h : Classifies g s p c) : ComesFrom s p (propertiesOf c) := by
  refine ⟨own c, c.created, rfl, rfl, ?_, ?_, h.creates⟩
  · rw [← h.property]
    rfl
  · rw [← h.property]
    rfl

theorem synthesize_ok {d : Descriptor} {made : Synthesis}
    (h : (synthesize g s d).result = .ok made) :
    ∃ classified, List.Forall₂ (Classifies g s) d.properties classified ∧
      made = ofClassified s d classified := by
  obtain ⟨classified, each, h⟩ := Outcome.bind_ok_iff.1 h
  cases h
  exact ⟨classified, (Outcome.forEach_ok_iff.1 each).imp fun _ _ => classify_ok, rfl⟩

theorem overrides_ok {d : Descriptor} {made : Synthesis}
    (h : (synthesize g s d).result = .ok made) :
    List.Forall₂ (fun p q => q.name = p.name ∧ q.type = p.type) d.properties
      (made.model.properties.filter (·.isOverride)) := by
  obtain ⟨classified, each, rfl⟩ := synthesize_ok h
  have overrides := overrides_flatMap each
  rw [ofClassified, overrides, List.forall₂_map_right_iff]
  refine each.imp fun p c classifies => ?_
  rw [← classifies.property]
  exact ⟨rfl, rfl⟩

theorem synthesize_shape {d : Descriptor} {made : Synthesis}
    (h : (synthesize g s d).result = .ok made) : Shape s d made := by
  have overrides := overrides_ok h
  obtain ⟨classified, each, rfl⟩ := synthesize_ok h
  refine ⟨?_, parameters_ok each, ⟨_, rfl⟩, derived_ok each, ?_, classified.map propertiesOf, ?_, ?_⟩
  · rw [← List.forall₂_eq_eq_eq, List.forall₂_map_left_iff, List.forall₂_map_right_iff]
    refine List.Forall₂.flip (overrides.imp ?_)
    rintro p q ⟨name, type⟩
    show (q.name, q.type) = (p.name, p.type)
    rw [name, type]
  · rw [ofClassified, overrides_flatMap each, List.filterMap_map]
    congr 1
    funext c
    exact computed?_own c
  · rw [List.forall₂_map_right_iff]
    exact each.imp fun _ _ => comesFrom_propertiesOf
  · rw [ofClassified, List.flatMap_def]

/-- A property with a default and a created one, a derived property and a plain one. -/
theorem synthesize_shape_mixed :
    let g : DeclarationGraph := ⟨[{
      package := "p", name := "Length", kind := .object
      supertypes := [⟨"ValueModifier", [⟨"kotlin.String", [], false⟩, ⟨"Int", [], false⟩], false⟩] }]⟩
    let d : Descriptor := {
      packageName := "p", className := "ItemImpl", sourceInterface := .named "p.Item"
      properties := [
        { name := "title", type := .named "kotlin.String", annotations := [
          ⟨"annotations.Create", [⟨"newProp", .string "size"⟩,
            ⟨"valueModifier", .reference ⟨"p.Length", .singleton⟩⟩]⟩,
          ⟨"annotations.StringDefault", [⟨"value", .string "none"⟩]⟩] },
        { name := "area", type := .named "kotlin.Double", annotations := [
          ⟨"annotations.Derived", [⟨"from", .string "width * height"⟩]⟩] },
        { name := "width", type := .named "kotlin.Double" }] }
    ∃ made, (synthesize g {} d).result = .ok made ∧
      made.model.properties.map (fun q => (q.name, q.isOverride)) =
        [("title", true), ("size", false), ("area", true), ("width", true)] ∧
      made.model.constructor.map (fun q => (q.name, q.default.isSome)) =
        [("title", true), ("width", false)] ∧
      Shape {} d made := by
  intro g d
  have evaluated : ∃ made, (synthesize g {} d).result = .ok made ∧
      made.model.properties.map (fun q => (q.name, q.isOverride)) =
        [("title", true), ("size", false), ("area", true), ("width", true)] ∧
      made.model.constructor.map (fun q => (q.name, q.default.isSome)) =
        [("title", true), ("width", false)] := ⟨_, rfl, rfl, rfl⟩
  obtain ⟨made, ok, properties, parameters⟩ := evaluated
  exact ⟨made, ok, properties, parameters, synthesize_shape ok⟩

end Synthesis

end ModelClasses
