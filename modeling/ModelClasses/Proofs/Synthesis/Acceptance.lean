import ModelClasses.Proofs.Synthesis.Shape

/-! # Which descriptors are accepted

A class is synthesized exactly if every property is valid, which is said of the tags of the property
and their arguments. Otherwise the failure is that of the first property that is not valid. Of its
failures those of single annotations come first, in the order in which the annotations are written;
then that there are several annotations for one value; then that of the one there is. -/

namespace ModelClasses

/-- Whether a tag says where the value of a property comes from. -/
def Tag.givesValue : Tag → Bool
  | literalDefault _ | providerDefault | derived => true
  | generate | create => false

/-- The tags that say where the value of a property comes from. -/
def PropertyDescriptor.valueTags (s : Settings) (p : PropertyDescriptor) : List AnnotationRecord :=
  p.annotations.filter fun a => (s.tag? a.qualifiedName).any (·.givesValue)

namespace Synthesis

/-- What is asked of the annotations of a property. -/
structure Valid (g : DeclarationGraph) (s : Settings) (p : PropertyDescriptor) : Prop where
  creates : ∀ a ∈ p.createTags s, ∃ name modifier output,
    a.argument? Tag.newPropertyArgument = some (.string name) ∧ name ≠ "" ∧
    a.argument? Tag.create.valueArgument = some (.reference ⟨modifier, .singleton⟩) ∧
    Modifies g s modifier p.type output
  others : ∀ a ∈ p.otherAnnotations s, ∀ x ∈ a.arguments, x.value.isRenderable = true
  sole : (p.valueTags s).length ≤ 1
  derives : ∀ a ∈ p.annotations, s.tag? a.qualifiedName = some .derived →
    ∃ text, a.argument? Tag.derived.valueArgument = some (.string text)
  literals : ∀ a ∈ p.annotations, ∀ kind, s.tag? a.qualifiedName = some (.literalDefault kind) →
    ∃ v, a.argument? (Tag.literalDefault kind).valueArgument = some v ∧ HasLiteral kind v
  providers : ∀ a ∈ p.annotations, s.tag? a.qualifiedName = some .providerDefault →
    ∃ name, a.argument? Tag.providerDefault.valueArgument = some (.reference ⟨name, .singleton⟩)

/-- The failure of an annotation that is looked at by itself. -/
def annotationFailure? (g : DeclarationGraph) (s : Settings) (p : PropertyDescriptor)
    (a : AnnotationRecord) : Option GenerationError :=
  match s.tag? a.qualifiedName with
  | none => failure? (copyRecord p a)
  | some .create => failure? (createProperty g s p a)
  | some _ => none

/-- The failure of the annotations that say where the value comes from. -/
def sourceFailure? (p : PropertyDescriptor) (defaults : List (Tag × AnnotationRecord))
    (derives : List AnnotationRecord) : Option GenerationError :=
  if 1 < defaults.length + derives.length then
    some (.conflictingAnnotations p.name
      (defaults.map (·.2.qualifiedName) ++ derives.map (·.qualifiedName)))
  else
    (derives.findSome? fun a => failure? (deriveText p a)).or
      (defaults.findSome? fun x => failure? (defaultValue p x.1 x.2))

/-- The failures of a property; the first one counts. -/
def failures (g : DeclarationGraph) (s : Settings) (p : PropertyDescriptor) : List GenerationError :=
  p.annotations.filterMap (annotationFailure? g s p) ++
    (sourceFailure? p (p.annotations.filterMap (defaultTag? s))
      (p.annotations.filter fun a => s.tag? a.qualifiedName == some .derived)).toList

variable {g : DeclarationGraph} {s : Settings} {p : PropertyDescriptor}

theorem failure?_sort (annotations : List AnnotationRecord) :
    failure? (sort g s p annotations).result =
      (annotations.filterMap (annotationFailure? g s p)).head? := by
  induction annotations with
  | nil => rfl
  | cons a rest ih =>
    have here : (a :: rest).filterMap (annotationFailure? g s p) =
        (annotationFailure? g s p a).toList ++ rest.filterMap (annotationFailure? g s p) := by
      rw [List.filterMap_cons]
      cases annotationFailure? g s p a <;> rfl
    rw [sort, here, annotationFailure?]
    -- whatever an annotation is, the others are sorted after it, and their result is only changed
    cases s.tag? a.qualifiedName with
    | none =>
      refine Outcome.failure?_result_bind Option.head?_toList.symm fun copy _ => ?_
      rw [Outcome.failure?_bind_pure, ih]
    | some tag =>
      cases tag with
      | create =>
        refine Outcome.failure?_result_bind Option.head?_toList.symm fun property _ => ?_
        rw [Outcome.failure?_bind_pure, ih]
      | generate => exact Outcome.failure?_result_bind rfl fun _ _ => ih
      | literalDefault | providerDefault | derived =>
        exact (Outcome.failure?_bind_pure _ _).trans ih

theorem failure?_sourceOf (p : PropertyDescriptor) (sorted : Sorted) :
    failure? (sourceOf p sorted) = sourceFailure? p sorted.defaults sorted.derives := by
  obtain ⟨defaults, derives, created, copied⟩ := sorted
  rw [sourceFailure?]
  match derives, defaults with
  | [], [] => rfl
  | [a], [] => simp [sourceOf]
  | [], [(tag, a)] => simp [sourceOf]
  | _ :: _ :: _, _ | [_], _ :: _ | [], _ :: _ :: _ =>
    rw [if_pos (by simp only [List.length_cons]; omega)]
    rfl

theorem failure?_classify (p : PropertyDescriptor) :
    failure? (classify g s p).result = (failures g s p).head? := by
  refine Outcome.failure?_result_bind (failure?_sort p.annotations) fun sorted h => ?_
  obtain ⟨defaults, derives, -, -⟩ := sort_ok h
  rw [Outcome.failure?_bind_pure, Outcome.result_liftM, failure?_sourceOf, defaults, derives,
    Option.head?_toList]

theorem failure?_synthesize (d : Descriptor) :
    failure? (synthesize g s d).result = (d.properties.flatMap (failures g s)).head? := by
  rw [synthesize, Outcome.failure?_bind_pure, Outcome.failure?_forEach, List.head?_flatMap]
  simp only [failure?_classify]

theorem annotationFailure?_eq_none_iff {a : AnnotationRecord} :
    annotationFailure? g s p a = none ↔
      (s.tag? a.qualifiedName = some .create → ∃ q, createProperty g s p a = .ok q) ∧
      (s.tag? a.qualifiedName = none → ∃ copy, copyRecord p a = .ok copy) := by
  rw [annotationFailure?]
  cases s.tag? a.qualifiedName with
  | none => simp [failure?_eq_none_iff]
  | some tag => cases tag <;> simp [failure?_eq_none_iff]

/-- Every tag that says where a value comes from is a default or a derivation. -/
theorem length_valueTags (s : Settings) (annotations : List AnnotationRecord) :
    (annotations.filter fun a => (s.tag? a.qualifiedName).any (·.givesValue)).length =
      (annotations.filterMap (defaultTag? s)).length +
        (annotations.filter fun a => s.tag? a.qualifiedName == some .derived).length := by
  induction annotations with
  | nil => rfl
  | cons a rest ih =>
    simp only [List.filter_cons, List.filterMap_cons, defaultTag?]
    generalize rest.filter (fun a => (s.tag? a.qualifiedName).any (·.givesValue)) = values at ih ⊢
    generalize rest.filterMap (defaultTag? s) = defaults at ih ⊢
    cases s.tag? a.qualifiedName with
    | none => simpa using ih
    | some tag =>
      simp only [Option.any_some, Option.filter_some]
      cases tag <;> simp [Tag.givesValue, Tag.isDefaultValue] <;> omega

theorem sourceFailure?_eq_none_iff {defaults : List (Tag × AnnotationRecord)}
    {derives : List AnnotationRecord} :
    sourceFailure? p defaults derives = none ↔
      defaults.length + derives.length ≤ 1 ∧ (∀ a ∈ derives, ∃ text, deriveText p a = .ok text) ∧
        ∀ x ∈ defaults, ∃ e, defaultValue p x.1 x.2 = .ok e := by
  rw [sourceFailure?]
  split
  · rename_i several
    refine iff_of_false (Option.some_ne_none _) ?_
    rintro ⟨sole, -⟩
    exact absurd several (Nat.not_lt.2 sole)
  · rename_i sole
    rw [Option.or_eq_none_iff, List.findSome?_eq_none_iff, List.findSome?_eq_none_iff,
      and_iff_right (Nat.not_lt.1 sole)]
    simp only [failure?_eq_none_iff]

theorem failures_eq_nil_iff : failures g s p = [] ↔ Valid g s p := by
  rw [failures, List.append_eq_nil_iff, List.filterMap_eq_nil_iff, Option.toList_eq_nil_iff,
    sourceFailure?_eq_none_iff, ← length_valueTags]
  constructor
  · rintro ⟨single, sole, derives, defaults⟩
    refine ⟨?creates, ?others, sole, ?derives, ?literals, ?providers⟩
    case creates =>
      intro a ha
      obtain ⟨carried, tagged⟩ := List.mem_filter.1 ha
      obtain ⟨create, -⟩ := annotationFailure?_eq_none_iff.1 (single a carried)
      obtain ⟨q, created⟩ := create (beq_iff_eq.1 tagged)
      obtain ⟨name, modifier, output, named, nonempty, given, modifies, -⟩ :=
        createProperty_ok_iff.1 created
      exact ⟨name, modifier, output, named, nonempty, given, modifies⟩
    case others =>
      intro a ha
      obtain ⟨carried, untagged⟩ := List.mem_filter.1 ha
      obtain ⟨-, copy⟩ := annotationFailure?_eq_none_iff.1 (single a carried)
      exact copyRecord_ok_iff.1 (copy (Option.isNone_iff_eq_none.1 untagged))
    case derives =>
      intro a ha tagged
      obtain ⟨text, given⟩ := derives a (List.mem_filter.2 ⟨ha, beq_iff_eq.2 tagged⟩)
      exact ⟨text, deriveText_ok_iff.1 given⟩
    case literals =>
      intro a ha kind tagged
      exact literalDefault_ok_iff.1 (defaults _ (mem_defaultTags_iff.2 ⟨ha, tagged, rfl⟩))
    case providers =>
      intro a ha tagged
      exact providerDefault_ok_iff.1 (defaults _ (mem_defaultTags_iff.2 ⟨ha, tagged, rfl⟩))
  · rintro ⟨creates, others, sole, derives, literals, providers⟩
    refine ⟨?_, sole, ?_, ?_⟩
    · intro a ha
      refine annotationFailure?_eq_none_iff.2 ⟨?_, ?_⟩
      · intro tagged
        obtain ⟨name, modifier, output, named, nonempty, given, modifies⟩ :=
          creates a (List.mem_filter.2 ⟨ha, beq_iff_eq.2 tagged⟩)
        exact ⟨_, createProperty_ok_iff.2
          ⟨name, modifier, output, named, nonempty, given, modifies, rfl⟩⟩
      · intro untagged
        exact copyRecord_ok_iff.2
          (others a (List.mem_filter.2 ⟨ha, Option.isNone_iff_eq_none.2 untagged⟩))
    · intro a ha
      obtain ⟨carried, tagged⟩ := List.mem_filter.1 ha
      obtain ⟨text, given⟩ := derives a carried (beq_iff_eq.1 tagged)
      exact ⟨text, deriveText_ok_iff.2 given⟩
    · rintro ⟨tag, a⟩ hx
      obtain ⟨carried, tagged, isDefault⟩ := mem_defaultTags_iff.1 hx
      cases tag with
      | literalDefault kind => exact literalDefault_ok_iff.2 (literals a carried kind tagged)
      | providerDefault => exact providerDefault_ok_iff.2 (providers a carried tagged)
      | generate | derived | create => cases isDefault

/-- A created property has the type that its modifier gives for the type of its source. -/
def HasModifiedType (g : DeclarationGraph) (s : Settings)
    (x : PropertyDescriptor × AnnotationRecord) (q : Property) : Prop :=
  ∃ modifier, x.2.argument? Tag.create.valueArgument = some (.reference ⟨modifier, .singleton⟩) ∧
    Modifies g s modifier x.1.type q.type

/-- The tags that ask for further properties, each beside the property that it is on. -/
def creations (s : Settings) (d : Descriptor) : List (PropertyDescriptor × AnnotationRecord) :=
  d.properties.flatMap fun p => (p.createTags s).map fun a => (p, a)

theorem hasModifiedType_created {ps : List PropertyDescriptor} {cs : List ClassifiedProperty}
    (h : List.Forall₂ (Classifies g s) ps cs) :
    List.Forall₂ (HasModifiedType g s) (ps.flatMap fun p => (p.createTags s).map fun a => (p, a))
      ((cs.flatMap propertiesOf).filter (!·.isOverride)) := by
  induction h with
  | nil => exact .nil
  | cons first _ ih =>
    rw [List.flatMap_cons, List.flatMap_cons, List.filter_append, filter_not_isOverride first]
    refine List.rel_append ?_ ih
    rw [List.forall₂_map_left_iff]
    refine first.created.imp ?_
    intro a q made
    obtain ⟨name, modifier, output, -, -, given, modifies, rfl⟩ := createProperty_ok_iff.1 made
    exact ⟨modifier, given, modifies⟩

theorem synthesize_accepts (g : DeclarationGraph) (s : Settings) (d : Descriptor) :
    ((∃ made, (synthesize g s d).result = .ok made) ↔ ∀ p ∈ d.properties, Valid g s p) ∧
    (∀ made, (synthesize g s d).result = .ok made →
      List.Forall₂ (HasModifiedType g s) (creations s d)
        (made.model.properties.filter (!·.isOverride))) ∧
    ∀ e, (synthesize g s d).result = .error e ↔
      (d.properties.flatMap (failures g s)).head? = some e := by
  refine ⟨?_, ?_, ?_⟩
  · rw [← failure?_eq_none_iff, failure?_synthesize, List.head?_eq_none_iff,
      List.flatMap_eq_nil_iff]
    exact forall₂_congr fun p _ => failures_eq_nil_iff
  · intro made h
    obtain ⟨classified, each, rfl⟩ := synthesize_ok h
    exact hasModifiedType_created each
  · intro e
    rw [← failure?_eq_some_iff, failure?_synthesize]

/-- The smallest byte, and a modifier that the graph does not know the interface of; then the same
properties after one with two defaults, of which one is too large. -/
theorem synthesize_accepts_limits :
    let g : DeclarationGraph := ⟨[{
      package := "p", name := "First", kind := .object
      supertypes := [⟨"Any", [], false⟩,
        ⟨"ValueModifier", [⟨"List", [⟨"String", [], true⟩], false⟩, ⟨"p.First", [], true⟩], false⟩] }]⟩
    let level : PropertyDescriptor := {
      name := "level", type := .named "kotlin.Byte"
      annotations := [⟨"annotations.ByteDefault", [⟨"value", .integer (-128)⟩]⟩] }
    let tags : PropertyDescriptor := {
      name := "tags", type := ⟨"kotlin.collections.List", [⟨"kotlin.String", [], true⟩], false⟩
      annotations := [⟨"annotations.Create", [⟨"newProp", .string "head"⟩,
        ⟨"valueModifier", .reference ⟨"p.First", .singleton⟩⟩]⟩] }
    let twice : PropertyDescriptor := {
      name := "twice", type := .named "kotlin.Byte"
      annotations := [⟨"annotations.ByteDefault", [⟨"value", .integer 128⟩]⟩,
        ⟨"annotations.Default", []⟩] }
    let d : Descriptor := {
      packageName := "p", className := "Made", sourceInterface := .named "p.Item"
      properties := [level, tags] }
    (∀ p ∈ d.properties, Valid g {} p) ∧
      (∃ made, (synthesize g {} d).result = .ok made ∧
        List.Forall₂ (HasModifiedType g {}) (creations {} d)
          (made.model.properties.filter (!·.isOverride)) ∧
        (made.model.properties.filter (!·.isOverride)).map (·.type) = [⟨"p.First", [], true⟩]) ∧
      (synthesize g {} { d with properties := [level, twice, tags] }).result =
        .error (.conflictingAnnotations "twice" ["annotations.ByteDefault", "annotations.Default"]) := by
  intro g level tags twice d
  have evaluated : ∃ made, (synthesize g {} d).result = .ok made ∧
      (made.model.properties.filter (!·.isOverride)).map (·.type) = [⟨"p.First", [], true⟩] :=
    ⟨_, rfl, rfl⟩
  obtain ⟨made, ok, types⟩ := evaluated
  obtain ⟨valid, modified, -⟩ := synthesize_accepts g {} d
  obtain ⟨-, -, rejected⟩ := synthesize_accepts g {} { d with properties := [level, twice, tags] }
  exact ⟨valid.1 ⟨made, ok⟩, ⟨made, ok, modified made ok, types⟩, (rejected _).2 rfl⟩

end Synthesis

end ModelClasses
