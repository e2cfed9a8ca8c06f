import ModelClasses.Proofs.Generation.Delegated
import ModelClasses.Proofs.Generation.WrittenTags

/-! # Names of properties

A class has one property of every name that its hierarchy declares, and beside these the created ones,
whose names stand in tags. Nothing compares a name from a tag with another name: the properties of a class
are told apart by their names exactly if the names from the tags are all different and none is declared. A
delegated class has derived properties only, and so always different ones. -/

namespace ModelClasses

namespace Synthesis

variable {g : DeclarationGraph} {s : Settings} {d : Declaration} {order : List Declaration}
  {descriptor : Descriptor} {made : Synthesis}
  (built : (Descriptor.build g s d.package d).result = .ok descriptor)
  (depthFirst : g.DepthFirst d order) (synthesized : (synthesize g s descriptor).result = .ok made)

include built depthFirst synthesized

/-- A class has the names that are declared in the hierarchy and those that its tags give, each as often
as it is given. -/
theorem names_perm :
    (made.model.properties.map (·.name)).Perm
      ((Descriptor.kept order).map (·.2.name) ++
        (Descriptor.kept order).flatMap (g.createdNames s)) := by
  have declared := Descriptor.build_properties built depthFirst
  obtain ⟨classified, each, rfl⟩ := synthesize_ok synthesized
  have overriding : (Descriptor.kept order).map (·.2.name) =
      ((classified.flatMap propertiesOf).filter (·.isOverride)).map (·.name) := by
    refine map_eq_of_forall₂ ?_ (forall₂_trans declared (overrides_ok synthesized))
    rintro a q ⟨p, described, named, -⟩
    rw [named, (Descriptor.describeProperty_ok described).1]
  have created : (Descriptor.kept order).flatMap (g.createdNames s) =
      ((classified.flatMap propertiesOf).filter (!·.isOverride)).map (·.name) := by
    rw [created_flatMap each, List.map_flatMap]
    refine flatMap_eq_of_forall₂ ?_ (forall₂_trans declared each)
    rintro a x ⟨p, described, classifies⟩
    exact (Descriptor.names_created described classifies).symm
  rw [overriding, created, ← List.map_append]
  exact (List.filter_append_perm Property.isOverride _).symm.map Property.name

theorem nodup_names_iff :
    (made.model.properties.map (·.name)).Nodup ↔
      ((Descriptor.kept order).flatMap (g.createdNames s)).Nodup ∧
        ∀ name ∈ (Descriptor.kept order).flatMap (g.createdNames s),
          ∀ k ∈ order, ¬ Descriptor.Declares k name := by
  rw [(names_perm built depthFirst synthesized).nodup_iff, List.nodup_append]
  have declared := Descriptor.nodup_names_kept order
  constructor
  · rintro ⟨-, different, apart⟩
    refine ⟨different, fun name hn k hk declares => ?_⟩
    exact apart name (Descriptor.mem_names_kept.2 ⟨k, hk, declares⟩) name hn rfl
  · rintro ⟨different, apart⟩
    refine ⟨declared, different, ?_⟩
    rintro name inside _ given rfl
    obtain ⟨k, hk, declares⟩ := Descriptor.mem_names_kept.1 inside
    exact apart name given k hk declares

end Synthesis

namespace Delegation

variable {g : DeclarationGraph} {s : Settings} {d : Declaration} {descriptor : Descriptor}
  {first c : ClassModel} {order : List Declaration}
  (built : (Descriptor.build g s d.package d).result = .ok descriptor)
  (depthFirst : g.DepthFirst d order) (delegates : Delegates g s d descriptor first c)

include built depthFirst delegates

/-- A delegated class has the properties of the hierarchy that a tag derives. -/
theorem names_delegated :
    c.properties.map (·.name) =
      ((Descriptor.kept order).filter (g.isDerived s)).map (·.2.name) := by
  have described : List.Forall₂ (fun a p => (Descriptor.describeProperty g s a.1 a.2).result = .ok p)
      ((Descriptor.kept order).filter (g.isDerived s))
      (descriptor.properties.filter (·.isDerived s)) := by
    refine List.rel_filter ?_ (Descriptor.build_properties built depthFirst)
    intro a p described
    simp only [Descriptor.isDerived_describeProperty described]
  refine (map_eq_of_forall₂ ?_ (forall₂_trans described delegates.derived)).symm
  rintro a q ⟨p, described, named, -⟩
  rw [named, (Descriptor.describeProperty_ok described).1]

theorem nodup_names_delegated : (c.properties.map (·.name)).Nodup := by
  rw [names_delegated built depthFirst delegates]
  exact (List.filter_sublist.map _).nodup (Descriptor.nodup_names_kept order)

end Delegation

namespace Generation

theorem generate_propertyNames (g : DeclarationGraph) (s : Settings) (d : Declaration) :
    ∃ order, g.DepthFirst d order ∧ (∀ other, g.DepthFirst d other → other = order) ∧
      ∀ file, (generate g s d).result = .ok file →
        let declared := (Descriptor.kept order).map (·.2.name)
        let created := (Descriptor.kept order).flatMap (g.createdNames s)
        ((∀ c ∈ file.classes, (c.properties.map (·.name)).Nodup) ↔
          created.Nodup ∧ ∀ name ∈ created, ∀ k ∈ order, ¬ Descriptor.Declares k name) ∧
        ∃ first delegated, file.classes = first :: delegated ∧
          (first.properties.map (·.name)).Perm (declared ++ created) ∧
          ∀ c ∈ delegated, (c.properties.map (·.name)).Nodup := by
  obtain ⟨order, depthFirst, unique⟩ := g.existsUnique_depthFirst d
  refine ⟨order, depthFirst, unique, ?_⟩
  intro file h declared created
  obtain ⟨descriptor, made, delegated, built, synthesized, delegates, rfl⟩ := generate_ok_iff.1 h
  have derived : ∀ c ∈ delegated.toList, (c.properties.map (·.name)).Nodup := by
    intro c hc
    obtain rfl := Delegation.eq_model_of_delegate? delegates c (Option.mem_toList.1 hc)
    exact Delegation.nodup_names_delegated built depthFirst
      (Delegation.delegates_model built synthesized)
  refine ⟨?_, made.model, delegated.toList, rfl,
    Synthesis.names_perm built depthFirst synthesized, derived⟩
  rw [List.forall_mem_cons, Synthesis.nodup_names_iff built depthFirst synthesized]
  exact and_iff_left derived

/-- Properties are created from an interface's own property and from one above it, where one is derived
as well. -/
theorem generate_propertyNames_created :
    let create (name : String) : AnnotationUsage :=
      ⟨"Create", [⟨"newProp", .string name⟩, ⟨"valueModifier", .reference "Successor"⟩]⟩
    let a : Declaration := {
      package := "p", name := "A", kind := .interface
      supertypes := [⟨"B", [], false⟩]
      properties := [⟨"x", ⟨"Int", [], false⟩, [create "afterX"]⟩]
      annotations := [⟨"Generate", [⟨"name", .string "Made"⟩, ⟨"delegatedClass", .bool true⟩]⟩] }
    let b : Declaration := {
      package := "p", name := "B", kind := .interface
      properties := [⟨"x", ⟨"Int", [], false⟩, [create "x"]⟩,
        ⟨"y", ⟨"Int", [], false⟩, [create "afterY", ⟨"Derived", [⟨"from", .string "x * 2"⟩]⟩]⟩] }
    let successor : Declaration := {
      package := "p", name := "Successor", kind := .object
      supertypes := [⟨"ValueModifier", [⟨"Int", [], false⟩, ⟨"Int", [], false⟩], false⟩] }
    let g : DeclarationGraph := ⟨[a, b, successor]⟩
    (Descriptor.kept [a, b]).flatMap (g.createdNames {}) = ["afterX", "afterY"] ∧
      ∃ file, (generate g {} a).result = .ok file ∧
        file.classes.map (fun c => c.properties.map (·.name)) = [["x", "afterX", "y", "afterY"], ["y"]] ∧
        ∀ c ∈ file.classes, (c.properties.map (·.name)).Nodup := by
  intro create a b successor g
  have above : g.Walk ["p.A"] "p" a.supertypes (b :: [] ++ []) :=
    .visit rfl (by decide) (.nil _ _) (.nil _ _)
  have depthFirst : g.DepthFirst a [a, b] := ⟨[b], above, rfl⟩
  have collected := (Descriptor.collectAll_ok_iff (s := {}) depthFirst).2
    (.cons rfl (.cons rfl (.nil _ _)))
  have built : (Descriptor.build g {} a.package a).result = .ok _ :=
    Descriptor.build_ok_iff.2 ⟨rfl, _, _, _, _, rfl, rfl, by decide, rfl, collected, rfl⟩
  have generated : ∃ file, (generate g {} a).result = .ok file ∧
      file.classes.map (fun c => c.properties.map (·.name)) =
        [["x", "afterX", "y", "afterY"], ["y"]] :=
    ⟨_, generate_ok_iff.2 ⟨_, _, _, built, rfl, rfl, rfl⟩, rfl⟩
  obtain ⟨file, ok, names⟩ := generated
  obtain ⟨order, -, unique, apart⟩ := generate_propertyNames g {} a
  obtain rfl := unique _ depthFirst
  have created : (Descriptor.kept [a, b]).flatMap (g.createdNames {}) = ["afterX", "afterY"] := by
    decide +kernel
  have new : ∀ name ∈ ["afterX", "afterY"], ∀ k ∈ [a, b], ¬ Descriptor.Declares k name := by
    simp [Descriptor.Declares, a, b]
  obtain ⟨told, -⟩ := apart file ok
  refine ⟨created, file, ok, names, ?_⟩
  rw [told, created]
  exact ⟨by decide, new⟩

/-- A name from a tag that an interface above declares. -/
theorem generate_propertyNames_clash :
    let a : Declaration := {
      package := "p", name := "A", kind := .interface
      supertypes := [⟨"B", [], false⟩]
      properties := [⟨"x", ⟨"Int", [], false⟩, [⟨"Create",
        [⟨"newProp", .string "y"⟩, ⟨"valueModifier", .reference "Successor"⟩]⟩]⟩]
      annotations := [⟨"Generate", [⟨"name", .string "Made"⟩]⟩] }
    let b : Declaration := {
      package := "p", name := "B", kind := .interface
      properties := [⟨"y", ⟨"Int", [], false⟩, []⟩] }
    let successor : Declaration := {
      package := "p", name := "Successor", kind := .object
      supertypes := [⟨"ValueModifier", [⟨"Int", [], false⟩, ⟨"Int", [], false⟩], false⟩] }
    let g : DeclarationGraph := ⟨[a, b, successor]⟩
    ∃ file first, (generate g {} a).result = .ok file ∧ file.classes = [first] ∧
      first.properties.map (fun q => (q.name, q.isOverride)) =
        [("x", true), ("y", false), ("y", true)] ∧
      ¬ (first.properties.map (·.name)).Nodup := by
  intro a b successor g
  have above : g.Walk ["p.A"] "p" a.supertypes (b :: [] ++ []) :=
    .visit rfl (by decide) (.nil _ _) (.nil _ _)
  have depthFirst : g.DepthFirst a [a, b] := ⟨[b], above, rfl⟩
  have collected := (Descriptor.collectAll_ok_iff (s := {}) depthFirst).2
    (.cons rfl (.cons rfl (.nil _ _)))
  have built : (Descriptor.build g {} a.package a).result = .ok _ :=
    Descriptor.build_ok_iff.2 ⟨rfl, _, _, _, _, rfl, rfl, by decide, rfl, collected, rfl⟩
  exact ⟨_, _, generate_ok_iff.2 ⟨_, _, _, built, rfl, rfl, rfl⟩, rfl, rfl, by decide⟩

end Generation

end ModelClasses
