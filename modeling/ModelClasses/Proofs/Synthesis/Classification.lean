import ModelClasses.Proofs.Synthesis.Arguments

/-! # What the tags of a property say

A property that is classified is derived, has a default or neither, as its tags say, and gives one
created property for every tag that asks for one. Sorting goes through the annotations once; what
it collects of each sort is the list of the annotations of that sort. -/

namespace ModelClasses

namespace PropertyDescriptor

def isDerived (s : Settings) (p : PropertyDescriptor) : Bool :=
  p.annotations.any fun a => s.tag? a.qualifiedName == some .derived

def hasDefault (s : Settings) (p : PropertyDescriptor) : Bool :=
  p.annotations.any fun a => (s.tag? a.qualifiedName).any (·.isDefaultValue)

/-- The tags that ask for a further property. -/
def createTags (s : Settings) (p : PropertyDescriptor) : List AnnotationRecord :=
  p.annotations.filter fun a => s.tag? a.qualifiedName == some .create

/-- The annotations that are no tags. -/
def otherAnnotations (s : Settings) (p : PropertyDescriptor) : List AnnotationRecord :=
  p.annotations.filter fun a => (s.tag? a.qualifiedName).isNone

end PropertyDescriptor

namespace Synthesis

/-- The tag for a default value that an annotation is, and the annotation. -/
def defaultTag? (s : Settings) (a : AnnotationRecord) : Option (Tag × AnnotationRecord) :=
  ((s.tag? a.qualifiedName).filter (·.isDefaultValue)).map fun tag => (tag, a)

theorem mem_defaultTags_iff {s : Settings} {annotations : List AnnotationRecord} {tag : Tag}
    {a : AnnotationRecord} :
    (tag, a) ∈ annotations.filterMap (defaultTag? s) ↔
      a ∈ annotations ∧ s.tag? a.qualifiedName = some tag ∧ tag.isDefaultValue = true := by
  rw [List.mem_filterMap]
  constructor
  · rintro ⟨b, hb, selected⟩
    obtain ⟨tag', found, same⟩ := Option.map_eq_some_iff.1 selected
    cases same
    exact ⟨hb, Option.filter_eq_some_iff.1 found⟩
  · rintro ⟨ha, tagged⟩
    exact ⟨a, ha, Option.map_eq_some_iff.2 ⟨tag, Option.filter_eq_some_iff.2 tagged, rfl⟩⟩

/-- What sorting annotations comes to. -/
structure Sorts (g : DeclarationGraph) (s : Settings) (p : PropertyDescriptor)
    (annotations : List AnnotationRecord) (sorted : Sorted) : Prop where
  defaults : sorted.defaults = annotations.filterMap (defaultTag? s)
  derives : sorted.derives = annotations.filter fun a => s.tag? a.qualifiedName == some .derived
  created : List.Forall₂ (fun a q => createProperty g s p a = .ok q)
    (annotations.filter fun a => s.tag? a.qualifiedName == some .create) sorted.created
  copied : List.Forall₂ (fun a copy => copyRecord p a = .ok copy)
    (annotations.filter fun a => (s.tag? a.qualifiedName).isNone) sorted.copied

theorem sort_ok {g : DeclarationGraph} {s : Settings} {p : PropertyDescriptor}
    {annotations : List AnnotationRecord} {sorted : Sorted}
    (h : (sort g s p annotations).result = .ok sorted) : Sorts g s p annotations sorted := by
  induction annotations generalizing sorted with
  | nil =>
    cases h
    exact ⟨rfl, rfl, .nil, .nil⟩
  | cons a rest ih =>
    rw [sort] at h
    -- a default or a derivation is only set aside, so three kinds of tags are one case
    cases tag : s.tag? a.qualifiedName with
    | none =>
      rw [tag] at h
      obtain ⟨copy, first, h⟩ := Outcome.bind_ok_iff.1 h
      obtain ⟨others, later, h⟩ := Outcome.bind_ok_iff.1 h
      cases h
      obtain ⟨defaults, derives, created, copied⟩ := ih later
      refine ⟨?_, ?_, ?_, ?_⟩
      · simp [defaultTag?, tag, defaults]
      · simp [tag, derives]
      · simpa [tag] using created
      · simpa [tag] using ⟨first, copied⟩
    | some tag' =>
      rw [tag] at h
      cases tag' with
      | create =>
        obtain ⟨property, first, h⟩ := Outcome.bind_ok_iff.1 h
        obtain ⟨others, later, h⟩ := Outcome.bind_ok_iff.1 h
        cases h
        obtain ⟨defaults, derives, created, copied⟩ := ih later
        refine ⟨?_, ?_, ?_, ?_⟩
        · simp [defaultTag?, tag, Tag.isDefaultValue, defaults]
        · simp [tag, derives]
        · simpa [tag] using ⟨first, created⟩
        · simpa [tag] using copied
      | generate =>
        obtain ⟨_, -, later⟩ := Outcome.bind_ok_iff.1 h
        obtain ⟨defaults, derives, created, copied⟩ := ih later
        refine ⟨?_, ?_, ?_, ?_⟩
        · simp [defaultTag?, tag, Tag.isDefaultValue, defaults]
        · simp [tag, derives]
        · simpa [tag] using created
        · simpa [tag] using copied
      | literalDefault | providerDefault | derived =>
        obtain ⟨others, later, h⟩ := Outcome.bind_ok_iff.1 h
        cases h
        obtain ⟨defaults, derives, created, copied⟩ := ih later
        refine ⟨?_, ?_, ?_, ?_⟩
        · simp [defaultTag?, tag, Tag.isDefaultValue, defaults]
        · simp [tag, derives]
        · simpa [tag] using created
        · simpa [tag] using copied

/-- Where a property's value comes from, as its tags say. -/
inductive Governs (s : Settings) (p : PropertyDescriptor) : Source → Prop
  | plain (notDerived : p.isDerived s = false) (noDefault : p.hasDefault s = false) :
      Governs s p .plain
  | default {tag : Tag} {a : AnnotationRecord} {value : Expression}
      (notDerived : p.isDerived s = false) (hasDefault : p.hasDefault s = true)
      (carried : a ∈ p.annotations) (tagged : s.tag? a.qualifiedName = some tag)
      (given : defaultValue p tag a = .ok value) : Governs s p (.default value)
  | derived {a : AnnotationRecord} {text : String} (isDerived : p.isDerived s = true)
      (noDefault : p.hasDefault s = false) (carried : a ∈ p.annotations)
      (tagged : s.tag? a.qualifiedName = some .derived) (given : deriveText p a = .ok text) :
      Governs s p (.derived text)

theorem isDerived_eq {g : DeclarationGraph} {s : Settings} {p : PropertyDescriptor}
    {sorted : Sorted} (h : Sorts g s p p.annotations sorted) : p.isDerived s = !sorted.derives.isEmpty := by
  rw [h.derives, PropertyDescriptor.isDerived, Bool.eq_iff_iff]
  simp [List.filter_eq_nil_iff]

theorem hasDefault_eq {g : DeclarationGraph} {s : Settings} {p : PropertyDescriptor}
    {sorted : Sorted} (h : Sorts g s p p.annotations sorted) : p.hasDefault s = !sorted.defaults.isEmpty := by
  rw [h.defaults, PropertyDescriptor.hasDefault, Bool.eq_iff_iff]
  simp [defaultTag?, Option.any_eq_true]

theorem mem_of_defaults {g : DeclarationGraph} {s : Settings} {p : PropertyDescriptor}
    {sorted : Sorted} (h : Sorts g s p p.annotations sorted) {tag : Tag} {a : AnnotationRecord}
    (ha : (tag, a) ∈ sorted.defaults) : a ∈ p.annotations ∧ s.tag? a.qualifiedName = some tag := by
  rw [h.defaults] at ha
  obtain ⟨carried, tagged, -⟩ := mem_defaultTags_iff.1 ha
  exact ⟨carried, tagged⟩

theorem mem_of_derives {g : DeclarationGraph} {s : Settings} {p : PropertyDescriptor}
    {sorted : Sorted} (h : Sorts g s p p.annotations sorted) {a : AnnotationRecord}
    (ha : a ∈ sorted.derives) : a ∈ p.annotations ∧ s.tag? a.qualifiedName = some .derived := by
  rw [h.derives] at ha
  obtain ⟨carried, tagged⟩ := List.mem_filter.1 ha
  exact ⟨carried, beq_iff_eq.1 tagged⟩

theorem sourceOf_ok {g : DeclarationGraph} {s : Settings} {p : PropertyDescriptor} {sorted : Sorted}
    {source : Source} (sorts : Sorts g s p p.annotations sorted)
    (h : sourceOf p sorted = .ok source) : Governs s p source := by
  have isDerived := isDerived_eq sorts
  have hasDefault := hasDefault_eq sorts
  unfold sourceOf at h
  split at h
  · rename_i derives defaults
    cases h
    rw [derives] at isDerived
    rw [defaults] at hasDefault
    exact .plain isDerived hasDefault
  · rename_i a derives defaults
    obtain ⟨text, given, rfl⟩ := map_eq_ok_iff.1 h
    obtain ⟨carried, tagged⟩ := mem_of_derives sorts (derives ▸ List.mem_cons_self)
    rw [derives] at isDerived
    rw [defaults] at hasDefault
    exact .derived isDerived hasDefault carried tagged given
  · rename_i tag a derives defaults
    obtain ⟨value, given, rfl⟩ := map_eq_ok_iff.1 h
    obtain ⟨carried, tagged⟩ := mem_of_defaults sorts (defaults ▸ List.mem_cons_self)
    rw [derives] at isDerived
    rw [defaults] at hasDefault
    exact .default isDerived hasDefault carried tagged given
  · cases h

/-- What the classification of a property comes to. -/
structure Classifies (g : DeclarationGraph) (s : Settings) (p : PropertyDescriptor)
    (c : ClassifiedProperty) : Prop where
  property : c.property = p
  source : Governs s p c.source
  created : List.Forall₂ (fun a q => createProperty g s p a = .ok q) (p.createTags s) c.created
  copied : List.Forall₂ (fun a copy => copyRecord p a = .ok copy) (p.otherAnnotations s) c.copied

theorem classify_ok {g : DeclarationGraph} {s : Settings} {p : PropertyDescriptor}
    {c : ClassifiedProperty} (h : (classify g s p).result = .ok c) : Classifies g s p c := by
  obtain ⟨sorted, sorting, h⟩ := Outcome.bind_ok_iff.1 h
  obtain ⟨source, given, h⟩ := Outcome.bind_ok_iff.1 h
  cases h
  have sorts := sort_ok sorting
  exact ⟨rfl, sourceOf_ok sorts given, sorts.created, sorts.copied⟩

/-- A created property calls a modifier's function on the property that it is created from. -/
structure Creates (p : PropertyDescriptor) (a : AnnotationRecord) (q : Property) : Prop where
  notOverride : q.isOverride = false
  name : a.argument? Tag.newPropertyArgument = some (.string q.name)
  initializer : ∃ modifier,
    a.argument? Tag.create.valueArgument = some (.reference ⟨modifier, .singleton⟩) ∧
      q.initializer = .expression (.call modifier modifyFunction [.name p.name])
  annotations : q.annotations = []

theorem createProperty_ok {g : DeclarationGraph} {s : Settings} {p : PropertyDescriptor}
    {a : AnnotationRecord} {q : Property} (h : createProperty g s p a = .ok q) : Creates p a q := by
  obtain ⟨name, modifier, output, named, -, given, -, rfl⟩ := createProperty_ok_iff.1 h
  exact ⟨rfl, named, ⟨modifier, given, rfl⟩, rfl⟩

end Synthesis

end ModelClasses
