import ModelClasses.Proofs.Descriptor.Redeclaration
import ModelClasses.Proofs.Generation.Discovery

/-! # Delegated classes

A delegated class passes every interface that its interface extends directly on to a constructor
parameter. All other properties come from somewhere: a derived one is computed as in the first class of
the file, and a property that is declared above is declared above one of the parameters' interfaces,
since the walk that collects the properties starts from these. What is left are the properties of the
interface itself, and these a warning names. -/

namespace ModelClasses

open Outcome

/-- A warning names properties that a delegated class leaves without an implementation. -/
def Warning.isUndelegated : Warning → Bool
  | .undelegatedProperties .. => true
  | _ => false

namespace Descriptor

variable {g : DeclarationGraph} {s : Settings} {P : Warning → Prop}

theorem warns_resolve (unknown : ∀ name context, P (.unknownType name context))
    (package context : String) (t : TypeUsage) : Warns P (g.resolve package context t) := by
  rw [Warns, DeclarationGraph.resolve]
  cases g.resolveName? package t.name <;> simp [unknown]

theorem warns_describeProperty (unknown : ∀ name context, P (.unknownType name context))
    (d : Declaration) (p : PropertyDeclaration) : Warns P (describeProperty g s d p) := by
  have described := (warns_resolve (g := g) unknown d.package
    ("property " ++ p.name ++ " of " ++ d.qualifiedName) p.type).bind fun type =>
      (warns_liftM (g.resolveAnnotations s d.package p.annotations)).bind fun annotations =>
        warns_pure (PropertyDescriptor.mk p.name type annotations d.qualifiedName)
  exact described

theorem warns_gather (unknown : ∀ name context, P (.unknownType name context))
    (order : List Declaration) :
    ∀ visited c, Warns P (gather g s visited c order) := by
  induction order with
  | nil => exact fun _ c => warns_pure c
  | cons d order ih =>
    intro visited c
    have own := warns_forEach (warns_describeProperty (g := g) (s := s) unknown d)
      (firstOfName c.seen d.properties)
    exact (own.bind fun _ => warns_pure _).bind fun c => ih _ c

theorem warns_build (unknown : ∀ name context, P (.unknownType name context)) (package : String)
    (d : Declaration) : Warns P (build g s package d) := by
  have above := warns_forEach (warns_resolve (g := g) unknown d.package
    ("supertypes of " ++ d.qualifiedName)) (d.supertypes.filter fun t => (g.parent? d.package t).isSome)
  obtain ⟨order, first, -⟩ := g.existsUnique_depthFirst d
  have collected : Warns P (collectAll g s d) := by
    rw [collectAll_eq_gather first]
    exact warns_gather unknown order [] {}
  rw [build]
  refine Warns.unless ?_ _ _
  refine (warns_liftM _).bind fun annotations => (warns_liftM _).bind fun directive => ?_
  refine Warns.unless ?_ _ _
  exact above.bind fun _ => collected.bind fun _ => warns_pure _

end Descriptor

namespace Synthesis

variable {g : DeclarationGraph} {s : Settings} {P : Warning → Prop}

theorem warns_sort (ignored : ∀ property tag, P (.ignoredTag property tag)) (p : PropertyDescriptor)
    (annotations : List AnnotationRecord) : Warns P (sort g s p annotations) := by
  induction annotations with
  | nil => exact warns_pure _
  | cons a rest ih =>
    rw [sort]
    split
    · exact (warns_liftM _).bind fun _ => ih.bind fun _ => warns_pure _
    · exact (warns_liftM _).bind fun _ => ih.bind fun _ => warns_pure _
    · exact ih.bind fun _ => warns_pure _
    · exact Warns.bind (by simp [Warns, warn, ignored]) fun _ => ih
    · exact ih.bind fun _ => warns_pure _

theorem warns_synthesize (ignored : ∀ property tag, P (.ignoredTag property tag)) (d : Descriptor) :
    Warns P (synthesize g s d) := by
  have classified (p : PropertyDescriptor) : Warns P (classify g s p) :=
    (warns_sort ignored p p.annotations).bind fun _ => (warns_liftM _).bind fun _ => warns_pure _
  exact (warns_forEach classified d.properties).bind fun _ => warns_pure _

end Synthesis

namespace DeclarationGraph

variable {g : DeclarationGraph} {s : Settings} {package : String}

/-- The annotation that asks for a class of a declaration asks for a delegated one as well. -/
def WantsDelegated (g : DeclarationGraph) (s : Settings) (d : Declaration) : Prop :=
  ∃ u, g.directiveUsage? s d = some u ∧
    u.argument? Tag.delegatedClassArgument = some (.bool true)

theorem flagArgument_resolveUsage {u : AnnotationUsage} {r : AnnotationRecord}
    (h : g.resolveUsage s package u = .ok r) {argument : String} {b : Bool}
    (given : Directive.flagArgument r argument = .ok b) :
    b = true ↔ u.argument? argument = some (.bool true) := by
  have written := argument?_resolveUsage h argument
  rw [Directive.flagArgument] at given
  generalize u.argument? argument = v at written ⊢
  generalize r.argument? argument = w at written given
  cases written with
  | none =>
    cases given
    simp
  | some stands =>
    split at given
    · contradiction
    · rename_i same
      cases same
      cases given
      cases stands with
      | bool => simp
    · cases given

theorem delegatedClass_iff {d : Declaration} {records : List AnnotationRecord}
    (resolved : g.resolveAnnotations s d.package d.annotations = .ok records) {directive : Directive}
    (given : Directive.ofRecords s records = .ok directive) :
    directive.delegatedClass = true ↔ g.WantsDelegated s d := by
  have found := Generation.record?_resolveAnnotations resolved
  rw [WantsDelegated]
  generalize g.directiveUsage? s d = u at found ⊢
  generalize record : Directive.record? s records = a at found
  cases found with
  | none =>
    rw [Directive.record?] at record
    rw [Directive.ofRecords, record] at given
    cases given
    simp
  | some read =>
    rw [Directive.ofRecords_of_record? record] at given
    obtain ⟨delegatedClass, flag, given⟩ := bind_eq_ok_iff.1 given
    obtain ⟨_, -, given⟩ := bind_eq_ok_iff.1 given
    obtain ⟨_, -, given⟩ := bind_eq_ok_iff.1 given
    obtain ⟨_, -, given⟩ := bind_eq_ok_iff.1 given
    cases given
    simpa using flagArgument_resolveUsage read flag

end DeclarationGraph

/-- The properties of a class that implement the interface's by an expression. -/
def ClassModel.computed (c : ClassModel) : List Property :=
  c.properties.filter fun q => q.isOverride && !q.initializer.isParameter

namespace Synthesis

variable {g : DeclarationGraph} {s : Settings}

theorem computed_own (classified : List ClassifiedProperty) :
    ((classified.map own).filter fun q => !q.initializer.isParameter).map
        (fun q => { q with annotations := [] }) =
      (classified.filterMap derived?).map fun x =>
        ⟨x.name, x.type, true, .expression (.verbatim x.deriveFrom), []⟩ := by
  induction classified with
  | nil => rfl
  | cons c classified ih =>
    rw [List.map_cons]
    cases source : c.source with
    | plain | default =>
      have parameter : (own c).initializer.isParameter = true := by
        simp [own, initializer, source, Initializer.isParameter]
      rw [List.filter_cons_of_neg (by simp [parameter]), ih,
        List.filterMap_cons_none (by simp [derived?, source])]
    | derived text =>
      have expression : (own c).initializer = .expression (.verbatim text) := by
        simp [own, initializer, source]
      rw [List.filter_cons_of_pos (by simp [expression, Initializer.isParameter]), List.map_cons, ih,
        List.filterMap_cons_some (b := ⟨c.property.name, c.property.type, text⟩)
          (by simp [derived?, source]), List.map_cons, expression]
      rfl

theorem computed_model {d : Descriptor} {made : Synthesis}
    (h : (synthesize g s d).result = .ok made) :
    made.model.computed.map (fun q => { q with annotations := [] }) =
      made.derived.map fun x => ⟨x.name, x.type, true, .expression (.verbatim x.deriveFrom), []⟩ := by
  obtain ⟨classified, each, rfl⟩ := synthesize_ok h
  have overriding : (ofClassified s d classified).model.computed =
      (classified.map own).filter fun q => !q.initializer.isParameter := by
    rw [← overrides_flatMap each, List.filter_filter]
    simp only [ClassModel.computed, ofClassified, Bool.and_comm]
  rw [overriding, computed_own]
  rfl

end Synthesis

namespace Delegation

open DeclarationGraph

variable {g : DeclarationGraph} {s : Settings} {d : Declaration} {descriptor : Descriptor}
  {made : Synthesis}

/-- The names of a descriptor's properties that the declaration has itself and that are not derived. -/
def leftOut (s : Settings) (d : Declaration) (descriptor : Descriptor) : List String :=
  (descriptor.properties.filter fun p =>
    d.properties.any (·.name == p.name) && !p.isDerived s).map (·.name)

/-- A parameter takes what a supertype stands for, which is an interface of the graph. -/
structure Takes (g : DeclarationGraph) (d : Declaration) (t : TypeUsage) (q : Parameter) : Prop where
  resolved : (g.resolve d.package ("supertypes of " ++ d.qualifiedName) t).result = .ok q.type
  interface : ∃ i, g.parent? d.package t = some i ∧ g.get? q.type.qualifiedName = some i
  noDefault : q.default = none

/-- A property comes from above a parameter, declared in an interface that the parameter's interface
leads to. -/
def Forwards (g : DeclarationGraph) (q : Parameter) (p : PropertyDescriptor) : Prop :=
  ∃ i x, g.get? q.type.qualifiedName = some i ∧ Relation.ReflTransGen g.Extends i x ∧
    x.kind = .interface ∧ x.qualifiedName = p.declaredIn ∧ Descriptor.Declares x p.name

/-- What the delegated class of a declaration holds, beside the first class of the file. -/
structure Delegates (g : DeclarationGraph) (s : Settings) (d : Declaration) (descriptor : Descriptor)
    (first c : ClassModel) : Prop where
  parameters : List.Forall₂ (Takes g d) (d.supertypes.filter fun t => (g.parent? d.package t).isSome)
    c.constructor
  supertypes : c.supertypes =
    ⟨.named d.qualifiedName, none⟩ :: c.constructor.map fun q => ⟨q.type, some q.name⟩
  properties : c.properties = first.computed.map fun q => { q with annotations := [] }
  derived : List.Forall₂ (fun p q => q.name = p.name ∧ q.type = p.type)
    (descriptor.properties.filter (·.isDerived s)) c.properties
  covered : ∀ p ∈ descriptor.properties,
    (∃ q ∈ c.properties, q.name = p.name) ∨ (∃ q ∈ c.constructor, Forwards g q p) ∨
      p.name ∈ leftOut s d descriptor
  conversions : c.conversions = []

theorem get?_of_resolve {context : String} {t : TypeUsage} {i : Declaration} {type : TypeName}
    (parent : g.parent? d.package t = some i)
    (resolved : (g.resolve d.package context t).result = .ok type) :
    g.get? type.qualifiedName = some i := by
  obtain ⟨found, -⟩ := Option.filter_eq_some_iff.1 parent
  obtain ⟨name, stands, found⟩ := Option.bind_eq_some_iff.1 found
  rw [resolve, stands] at resolved
  obtain ⟨arguments, -, rfl⟩ := map_eq_ok_iff.1 resolved
  exact found

theorem kind_of_parent? {package : String} {t : TypeUsage} {i : Declaration}
    (parent : g.parent? package t = some i) : i.kind = .interface := by
  simpa using (Option.filter_eq_some_iff.1 parent).2

theorem takes_inherited (built : (Descriptor.build g s d.package d).result = .ok descriptor) :
    List.Forall₂ (Takes g d) (d.supertypes.filter fun t => (g.parent? d.package t).isSome)
      (descriptor.inheritedInterfaces.map fun i => ⟨parameterName i, i, none⟩) := by
  obtain ⟨-, _, _, inherited, c, -, -, -, inherits, -, rfl⟩ := Descriptor.build_ok_iff.1 built
  have each := (List.forall₂_and_left _ _).2
    ⟨fun t ht => (List.mem_filter.1 ht).2, Outcome.forEach_ok_iff.1 inherits⟩
  rw [List.forall₂_map_right_iff]
  refine each.imp fun t type both => ?_
  obtain ⟨isInterface, resolved⟩ := both
  obtain ⟨i, parent⟩ := Option.isSome_iff_exists.1 isInterface
  exact ⟨resolved, ⟨i, parent, get?_of_resolve parent resolved⟩, rfl⟩

theorem undelegated_eq (built : (Descriptor.build g s d.package d).result = .ok descriptor)
    (synthesized : (Synthesis.synthesize g s descriptor).result = .ok made) :
    undelegated descriptor made.derived = leftOut s d descriptor := by
  have derived := (Synthesis.synthesize_shape synthesized).derived
  obtain ⟨-, _, _, _, c, -, -, -, -, collected, rfl⟩ := Descriptor.build_ok_iff.1 built
  obtain ⟨order, first, -⟩ := g.existsUnique_depthFirst d
  rw [undelegated, leftOut]
  congr 1
  apply List.filter_congr
  intro p hp
  have computed : (∃ x ∈ made.derived, x.name = p.name) ↔ p.isDerived s = true := by
    constructor
    · rintro ⟨x, hx, named⟩
      obtain ⟨p', hp', same, -⟩ := exists_of_mem_right derived hx
      obtain ⟨inside, isDerived⟩ := List.mem_filter.1 hp'
      rwa [Descriptor.eq_of_name collected first hp inside (same.symm.trans named)] at isDerived
    · intro isDerived
      obtain ⟨x, hx, named, -⟩ := exists_of_mem_right derived.flip (List.mem_filter.2 ⟨hp, isDerived⟩)
      exact ⟨x, hx, named⟩
  have whose := Descriptor.declaredIn_eq_iff collected first hp
  rw [Bool.eq_iff_iff]
  simp only [TypeName.named, Bool.and_eq_true, Bool.not_eq_true', decide_eq_true_eq, List.any_eq_true,
    beq_iff_eq, whose, computed, Descriptor.Declares, Bool.not_eq_true]

theorem kind_of_reaches {i x : Declaration} (interface : i.kind = .interface)
    (reach : Relation.ReflTransGen g.Extends i x) : x.kind = .interface := by
  cases reach with
  | refl => exact interface
  | tail _ step =>
    obtain ⟨_, -, parent⟩ := step
    exact kind_of_parent? parent

/-- What is collected from above the declaration comes from above one of its supertypes. -/
theorem forwards_of_not_declares (built : (Descriptor.build g s d.package d).result = .ok descriptor)
    {parameters : List Parameter}
    (takes : List.Forall₂ (Takes g d) (d.supertypes.filter fun t => (g.parent? d.package t).isSome)
      parameters)
    {p : PropertyDescriptor} (hp : p ∈ descriptor.properties)
    (above : ¬ Descriptor.Declares d p.name) : ∃ q ∈ parameters, Forwards g q p := by
  obtain ⟨-, _, _, _, c, -, -, -, -, collected, rfl⟩ := Descriptor.build_ok_iff.1 built
  obtain ⟨order, first, -⟩ := g.existsUnique_depthFirst d
  obtain ⟨a, declared, described⟩ := Descriptor.firstDeclared?_of_mem collected first hp
  obtain ⟨front, back, rfl, declares, -⟩ := Descriptor.firstDeclared?_eq_some declared
  have inOrder : a.1 ∈ front ++ a.1 :: back := by simp
  obtain ⟨walked, walk, order⟩ := first
  rw [order] at inOrder
  have further : a.1 ∈ walked := by
    refine (List.mem_cons.1 inOrder).resolve_left ?_
    rintro same
    exact above (same ▸ declares)
  obtain ⟨t, ht, i, parent, way, isWay⟩ := walk.exists_way further
  obtain ⟨q, hq, taken⟩ := exists_of_mem_right takes.flip
    (List.mem_filter.2 ⟨ht, Option.isSome_iff_exists.2 ⟨i, parent⟩⟩)
  obtain ⟨i', parent', found⟩ := taken.interface
  obtain rfl : i = i' := Option.some.inj (parent.symm.trans parent')
  exact ⟨q, hq, i, a.1, found, isWay.reaches, kind_of_reaches (kind_of_parent? parent) isWay.reaches,
    (Descriptor.declaredIn_describeProperty described).symm, declares⟩

theorem delegates_model (built : (Descriptor.build g s d.package d).result = .ok descriptor)
    (synthesized : (Synthesis.synthesize g s descriptor).result = .ok made) :
    Delegates g s d descriptor made.model (model s descriptor made.derived) := by
  have takes := takes_inherited built
  have derived : List.Forall₂ (fun p q => q.name = p.name ∧ q.type = p.type)
      (descriptor.properties.filter (·.isDerived s)) (model s descriptor made.derived).properties := by
    rw [model, List.forall₂_map_right_iff]
    exact (Synthesis.synthesize_shape synthesized).derived
  refine ⟨takes, ?_, (Synthesis.computed_model synthesized).symm, derived, ?_, rfl⟩
  · obtain ⟨-, _, _, _, c, -, -, -, -, -, rfl⟩ := Descriptor.build_ok_iff.1 built
    simp [model]
  · intro p hp
    by_cases own : Descriptor.Declares d p.name
    · cases isDerived : p.isDerived s with
      | true =>
        obtain ⟨q, hq, named, -⟩ :=
          exists_of_mem_right derived.flip (List.mem_filter.2 ⟨hp, isDerived⟩)
        exact .inl ⟨q, hq, named⟩
      | false =>
        refine .inr (.inr (List.mem_map_of_mem (List.mem_filter.2 ⟨hp, ?_⟩)))
        obtain ⟨x, hx, named⟩ := own
        simp only [isDerived, Bool.not_false, Bool.and_true, List.any_eq_true, beq_iff_eq]
        exact ⟨x, hx, named⟩
    · exact .inr (.inl (forwards_of_not_declares built takes hp own))

/-- Of a descriptor there is no other delegated class than the one of its model. -/
theorem eq_model_of_delegate? {derived : List DerivedProperty} {delegated : Option ClassModel}
    (h : (delegate? s descriptor derived).result = .ok delegated) :
    ∀ c ∈ delegated, c = model s descriptor derived := by
  rintro c ⟨⟩
  rw [delegate?] at h
  split at h
  · cases h
    rfl
  · cases h

theorem inheritedInterfaces_ne_nil_iff
    (built : (Descriptor.build g s d.package d).result = .ok descriptor) :
    ¬ descriptor.inheritedInterfaces.isEmpty ↔
      ∃ t ∈ d.supertypes, (g.parent? d.package t).isSome = true := by
  have same := (takes_inherited built).length_eq
  rw [List.length_map] at same
  rw [List.isEmpty_iff, ← List.length_eq_zero_iff, ← same, List.length_eq_zero_iff,
    List.filter_eq_nil_iff]
  push Not
  rfl

end Delegation

namespace Generation

open DeclarationGraph Delegation

theorem generate_delegated {g : DeclarationGraph} {s : Settings} {d : Declaration} {file : SourceFile}
    (h : (generate g s d).result = .ok file) :
    ∃ (descriptor : Descriptor) (first : ClassModel) (delegated : Option ClassModel),
      (Descriptor.build g s d.package d).result = .ok descriptor ∧
      file.classes = first :: delegated.toList ∧
      (delegated.isSome = true ↔
        g.WantsDelegated s d ∧ ∃ t ∈ d.supertypes, (g.parent? d.package t).isSome = true) ∧
      (∀ c ∈ delegated, Delegates g s d descriptor first c) ∧
      (generate g s d).warnings.filter (·.isUndelegated) =
        if delegated.isSome = true ∧ leftOut s d descriptor ≠ [] then
          [.undelegatedProperties d.qualifiedName (leftOut s d descriptor)]
        else [] := by
  obtain ⟨descriptor, made, delegated, built, synthesized, delegates, rfl⟩ := generate_ok_iff.1 h
  have undelegated := undelegated_eq built synthesized
  have wanted : descriptor.delegatedClass = true ↔ g.WantsDelegated s d := by
    obtain ⟨-, _, directive, _, _, resolved, given, -, -, -, rfl⟩ := Descriptor.build_ok_iff.1 built
    exact delegatedClass_iff resolved given
  have source : descriptor.sourceInterface.qualifiedName = d.qualifiedName := by
    obtain ⟨-, _, _, _, _, -, -, -, -, -, rfl⟩ := Descriptor.build_ok_iff.1 built
    rfl
  have warnings : (generate g s d).warnings.filter (·.isUndelegated) =
      (delegate? s descriptor made.derived).warnings.filter (·.isUndelegated) := by
    have before := Descriptor.warns_build (g := g) (s := s) (P := fun w => ¬ w.isUndelegated)
      (fun _ _ => nofun) d.package d
    have between := Synthesis.warns_synthesize (g := g) (s := s) (P := fun w => ¬ w.isUndelegated)
      (fun _ _ => nofun) descriptor
    rw [generate, warnings_bind_of_ok built, warnings_bind_of_ok synthesized,
      warnings_bind_of_ok delegates, List.filter_append, List.filter_eq_nil_iff.2 before,
      List.filter_append, List.filter_eq_nil_iff.2 between]
    simp
  rw [warnings, ← wanted, ← inheritedInterfaces_ne_nil_iff built]
  refine ⟨descriptor, made.model, delegated, built, rfl, ?_⟩
  rw [delegate?, undelegated, source] at delegates ⊢
  by_cases asked : descriptor.delegatedClass ∧ ¬ descriptor.inheritedInterfaces.isEmpty
  · rw [if_pos asked] at delegates ⊢
    cases delegates
    refine ⟨iff_of_true rfl asked, ?_, ?_⟩
    · rintro _ ⟨⟩
      exact delegates_model built synthesized
    · cases leftOut s d descriptor <;> simp [Warning.isUndelegated]
  · rw [if_neg asked] at delegates ⊢
    cases delegates
    exact ⟨iff_of_false nofun asked, nofun, rfl⟩

/-- Two interfaces are passed on, one of which extends the first one again. One of the interface's own
properties is derived and one is left out. -/
theorem generate_delegated_bundle :
    let bundle : Declaration := {
      package := "p", name := "Bundle", kind := .interface
      supertypes := [⟨"Config", [], false⟩, ⟨"Comparable", [], false⟩, ⟨"Styles", [], false⟩]
      properties := [
        ⟨"area", ⟨"Int", [], false⟩, [⟨"Derived", [⟨"from", .string "width * 2"⟩]⟩]⟩,
        ⟨"extra", ⟨"String", [], false⟩, []⟩]
      annotations := [⟨"Generate",
        [⟨"name", .string "BundleImpl"⟩, ⟨"delegatedClass", .bool true⟩]⟩] }
    let config : Declaration := {
      package := "p", name := "Config", kind := .interface
      supertypes := [⟨"Sized", [], false⟩] }
    let sized : Declaration := {
      package := "p", name := "Sized", kind := .interface
      properties := [⟨"width", ⟨"Int", [], false⟩, []⟩, ⟨"extra", ⟨"Int", [], false⟩, []⟩] }
    let styles : Declaration := {
      package := "p", name := "Styles", kind := .interface
      supertypes := [⟨"p.Bundle", [], false⟩] }
    let g : DeclarationGraph := ⟨[bundle, config, sized, styles]⟩
    ∃ file first c descriptor, (generate g {} bundle).result = .ok file ∧
      file.classes = [first, c] ∧
      c.supertypes.map (fun t => (t.type.qualifiedName, t.delegate)) =
        [("p.Bundle", none), ("p.Config", some "config"), ("p.Styles", some "styles")] ∧
      (generate g {} bundle).warnings.filter (·.isUndelegated) =
        [.undelegatedProperties "p.Bundle" ["extra"]] ∧
      Delegates g {} bundle descriptor first c := by
  intro bundle config sized styles g
  have aboveConfig : g.Walk ["p.Bundle", "p.Config"] "p" config.supertypes (sized :: [] ++ []) :=
    .visit rfl (by decide) (.nil _ _) (.nil _ _)
  have aboveStyles : g.Walk ["p.Bundle", "p.Config", "p.Sized", "p.Styles"] "p" styles.supertypes [] :=
    .again (p := bundle) rfl (by decide) (.nil _ _)
  have afterConfig : g.Walk ["p.Bundle", "p.Config", "p.Sized"] "p"
      [⟨"Comparable", [], false⟩, ⟨"Styles", [], false⟩] (styles :: [] ++ []) :=
    .other rfl (.visit rfl (by decide) aboveStyles (.nil _ _))
  have aboveBundle : g.Walk ["p.Bundle"] "p" bundle.supertypes (config :: [sized] ++ [styles]) :=
    .visit rfl (by decide) aboveConfig afterConfig
  have depthFirst : g.DepthFirst bundle [bundle, config, sized, styles] :=
    ⟨[config, sized, styles], aboveBundle, rfl⟩
  have collected := (Descriptor.collectAll_ok_iff (s := {}) depthFirst).2
    (.cons rfl (.cons rfl (.cons rfl (.cons rfl (.nil _ _)))))
  have built : (Descriptor.build g {} bundle.package bundle).result = .ok _ :=
    Descriptor.build_ok_iff.2 ⟨rfl, _, _, _, _, rfl, rfl, by decide, rfl, collected, rfl⟩
  have generated : ∃ file first c, (generate g {} bundle).result = .ok file ∧
      file.classes = [first, c] ∧
      c.supertypes.map (fun t => (t.type.qualifiedName, t.delegate)) =
        [("p.Bundle", none), ("p.Config", some "config"), ("p.Styles", some "styles")] :=
    ⟨_, _, _, generate_ok_iff.2 ⟨_, _, _, built, rfl, rfl, rfl⟩, rfl, by decide +kernel⟩
  obtain ⟨file, first, c, ok, classes, supertypes⟩ := generated
  obtain ⟨descriptor, first', delegated, built', classes', -, delegates, warnings⟩ :=
    generate_delegated ok
  obtain rfl := Except.ok.inj (built.symm.trans built')
  obtain ⟨rfl, rest⟩ := List.cons.inj (classes.symm.trans classes')
  obtain rfl : delegated = some c := by
    cases delegated with
    | none => cases rest
    | some c' => rw [(List.cons.inj rest).1]
  exact ⟨file, first, c, _, ok, classes, supertypes, warnings, delegates c rfl⟩

end Generation

end ModelClasses
