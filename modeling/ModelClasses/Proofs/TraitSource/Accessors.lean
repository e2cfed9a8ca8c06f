import ModelClasses.Proofs.Generation
import ModelClasses.Proofs.Naming.CamelCase
import ModelClasses.Proofs.TraitSource.Interfaces

/-! # From accessors to properties of the class

The properties of an interface have the names of its accessors in camel case. A class has one property
of every name, so an accessor has a property of its own unless another one before it has the same name
in camel case. -/

namespace ModelClasses.TraitSource

open Generation

/-- A property of a class overrides the one that a function of an interface stands for, with the type
that the function is written with. -/
structure Method.OverriddenBy (g : DeclarationGraph) (d : Declaration) (m : Method) (q : Property) :
    Prop where
  name : q.name = m.propertyName
  type : ∃ t usage, m.propertyType? = some t ∧ t.usage = .ok usage ∧
    (g.resolve d.package ("property " ++ m.propertyName ++ " of " ++ d.qualifiedName) usage).result =
      .ok q.type

variable {g : DeclarationGraph} {d : Declaration} {methods : List Method}

theorem Method.Declares.overriddenBy {m : Method} {p : PropertyDeclaration} {q : Property}
    (declares : m.Declares p) (h : Implements g (d, p) q) : m.OverriddenBy g d q := by
  obtain ⟨name, resolved⟩ := h
  obtain ⟨t, type, lowered⟩ := declares.type
  rw [declares.name] at name resolved
  exact ⟨name, t, p.type, type, lowered, resolved⟩

theorem names_of_declares {properties : List PropertyDeclaration}
    (declared : List.Forall₂ Method.Declares methods properties) :
    properties.map (·.name) = methods.map Method.propertyName :=
  (map_eq_of_forall₂ (fun _ _ h => h.name.symm) declared).symm

/-- Names in snake case stay apart. -/
theorem nodup_propertyName (snake : ∀ m ∈ methods, Naming.isSnakeCase m.name.name = true)
    (different : (methods.map (·.name.name)).Nodup) : (methods.map Method.propertyName).Nodup := by
  refine List.Nodup.map_on (fun m hm m' hm' same => ?_) different.of_map
  have names := (Naming.toCamelCase_inj (snake m hm) (snake m' hm')).1 same
  exact List.inj_on_of_nodup_map different hm hm' names

section

variable {above : List Declaration} {overrides : List Property}
  (implements : List.Forall₂ (Implements g) (Descriptor.kept (d :: above)) overrides)

include implements

theorem nodup_overrides : (overrides.map (·.name)).Nodup := by
  rw [← map_eq_of_forall₂ (fun _ _ h => h.1.symm) implements]
  exact Descriptor.nodup_names_kept (d :: above)

theorem nodup_of_own {own : List Property} (inside : own.Sublist overrides)
    (each : List.Forall₂ (Method.OverriddenBy g d) methods own) :
    (methods.map Method.propertyName).Nodup := by
  rw [map_eq_of_forall₂ (fun _ _ h => h.name.symm) each]
  exact (inside.map _).nodup (nodup_overrides implements)

variable (declared : List.Forall₂ Method.Declares methods d.properties)

include declared

/-- With different names nothing is passed over, so the first properties of the class are those of
the interface itself. -/
theorem exists_own (different : (methods.map Method.propertyName).Nodup) :
    ∃ own, own.Sublist overrides ∧ List.Forall₂ (Method.OverriddenBy g d) methods own := by
  rw [← names_of_declares declared] at different
  rw [Descriptor.kept_eq, Descriptor.keptAfter_written_cons,
    Descriptor.firstOfName_eq_self different fun _ _ => List.not_mem_nil] at implements
  obtain ⟨own, inherited, rfl, each, -⟩ := exists_append_of_forall₂ implements
  refine ⟨own, List.sublist_append_left own inherited, ?_⟩
  refine (forall₂_trans declared (List.forall₂_map_left_iff.1 each)).imp ?_
  rintro m q ⟨p, declares, h⟩
  exact declares.overriddenBy h

theorem exists_override_of_first {before after : List Method} {m : Method}
    (split : methods = before ++ m :: after)
    (first : ∀ other ∈ before, other.propertyName ≠ m.propertyName) :
    ∃ q ∈ overrides, m.OverriddenBy g d q := by
  subst split
  obtain ⟨before', rest, properties, earlier, later⟩ := exists_append_of_forall₂ declared
  obtain ⟨p, after', declares, -, rfl⟩ := List.forall₂_cons_left_iff.1 later
  have new : ∀ p' ∈ before', p'.name ≠ p.name := by
    intro p' hp'
    obtain ⟨other, inside, declares'⟩ := exists_of_mem_right earlier hp'
    rw [declares'.name, declares.name]
    exact first other inside
  have kept := Descriptor.mem_kept_of_first properties new above
  obtain ⟨q, inside, h⟩ := exists_of_mem_left implements kept
  exact ⟨q, inside, declares.overriddenBy h⟩

end

/-- Of the accessors of an interface, the first one of every name in camel case has a property of the
class that overrides it. All of them do if their names are in snake case. -/
theorem declarationsOf_accessors {o : Origin} {place : ItemPlace} {attributes : List Attribute}
    {name : Identifier} {supertypes : List SourceType} {methods : List Method}
    {g : DeclarationGraph}
    (read : (declarationsOf o
      (place.fill (.interface attributes name supertypes methods))).result = .ok g) :
    ∃ d ∈ g.declarations, d.kind = .interface ∧
      d.package = (o.within place.modules).package ∧ d.name = name.name ∧
      d.properties.map (·.name) =
        (accessors methods).map (fun m => Naming.toCamelCase m.name.name) ∧
      ((∀ m ∈ accessors methods, Naming.isSnakeCase m.name.name = true) →
        (((accessors methods).map (·.name.name)).Nodup → (d.properties.map (·.name)).Nodup) ∧
        ((∀ m ∈ accessors methods, Manifest.isIdentifier m.name.name = true) →
          ∀ p ∈ d.properties, Manifest.isIdentifier p.name = true)) ∧
      ∀ s file, (generate g s d).result = .ok file →
        ∃ model others, file.classes = model :: others ∧
          let overrides := model.properties.filter (·.isOverride)
          (overrides.map (·.name)).Nodup ∧
          ((∃ own, own.Sublist overrides ∧
              List.Forall₂ (Method.OverriddenBy g d) (accessors methods) own) ↔
            (d.properties.map (·.name)).Nodup) ∧
          ∀ before m after, accessors methods = before ++ m :: after →
            (∀ other ∈ before, other.propertyName ≠ m.propertyName) →
            ∃ q ∈ overrides, m.OverriddenBy g d q := by
  obtain ⟨d, inside, interface, package, sameName, declared⟩ := ItemPlace.exists_interface read
  have names := names_of_declares declared
  refine ⟨d, inside, interface, package, sameName, names, ?_, ?_⟩
  · intro snake
    refine ⟨fun different => names ▸ nodup_propertyName snake different, ?_⟩
    intro identifiers p hp
    obtain ⟨m, hm, declares⟩ := exists_of_mem_right declared hp
    rw [declares.name]
    exact Naming.isIdentifier_toCamelCase (snake m hm) (identifiers m hm)
  · intro s file made
    obtain ⟨order, depthFirst, -⟩ := g.existsUnique_depthFirst d
    obtain ⟨model, others, classes, implements⟩ := generate_overrides depthFirst made
    obtain ⟨above, -, rfl⟩ := depthFirst
    refine ⟨model, others, classes, nodup_overrides implements, ?_, ?_⟩
    · rw [names]
      refine ⟨?_, exists_own implements declared⟩
      rintro ⟨own, sublist, each⟩
      exact nodup_of_own implements sublist each
    · intro before m after split first
      exact exists_override_of_first implements declared split first

/-- An interface in a module, with a raw name and a function that is no accessor. -/
theorem declarationsOf_accessors_raw :
    let firstName : Method := {
      name := ⟨"first_name", false⟩, takesOnlyReceiver := true
      result := some (.named [] ⟨"String", false⟩ []) }
    let kind : Method := {
      name := ⟨"type", true⟩, takesOnlyReceiver := true
      result := some (.named [] ⟨"i32", false⟩ []) }
    let convert : Method := {
      name := ⟨"convert", false⟩, takesOnlyReceiver := false, result := none }
    let asks : Attribute := {
      path := Attribute.directivePath
      body := .directive (some [.value "name" (.literal ⟨"\"Made\"".toList, .string "Made"⟩)]) }
    let place : ItemPlace := .inside [] ⟨"m", false⟩ (.here [] []) []
    let item : SourceItem := .interface [asks] ⟨"T", false⟩ [] [firstName, convert, kind]
    ∃ g d file model own, (declarationsOf { package := "p" } (place.fill item)).result = .ok g ∧
      d ∈ g.declarations ∧ d.qualifiedName = "p.m.T" ∧
      d.properties.map (·.name) = ["firstName", "type"] ∧
      (∀ p ∈ d.properties, Manifest.isIdentifier p.name = true) ∧
      (generate g {} d).result = .ok file ∧ file.classes.head? = some model ∧
      own.Sublist (model.properties.filter (·.isOverride)) ∧
      List.Forall₂ (Method.OverriddenBy g d) [firstName, kind] own := by
  intro firstName kind convert asks place item
  let made : Declaration := {
    package := "p.m", name := "T", kind := .interface
    properties := [⟨"firstName", ⟨"String", [], false⟩, []⟩, ⟨"type", ⟨"Int", [], false⟩, []⟩]
    annotations := [⟨"Generate", [⟨"name", .string "Made"⟩]⟩] }
  have read : (declarationsOf { package := "p" } (place.fill item)).result = .ok ⟨[made]⟩ := by
    dsimp only [place, item, firstName, kind, convert, asks]
    rfl
  have generated : ∃ file, (generate ⟨[made]⟩ {} made).result = .ok file :=
    ⟨_, generate_of_alone ⟨[], .nil _ _, rfl⟩ rfl rfl rfl (by decide) rfl rfl rfl rfl⟩
  obtain ⟨file, generated⟩ := generated
  obtain ⟨d, inside, -, -, -, names, snake, classes⟩ := declarationsOf_accessors read
  obtain rfl := List.mem_singleton.1 inside
  have different := (snake (by decide)).1 (by decide)
  have identifiers := (snake (by decide)).2 (by decide)
  obtain ⟨model, others, first, -, all, -⟩ := classes {} file generated
  obtain ⟨own, sublist, each⟩ := all.2 different
  exact ⟨_, _, file, model, own, read, inside, rfl, rfl, identifiers, generated, by rw [first]; rfl,
    sublist, each⟩

/-- Names that differ in their underscores only, and one that has nothing else but a digit. -/
theorem declarationsOf_accessors_alike :
    let accessor (name type : String) : Method := {
      name := ⟨name, false⟩, takesOnlyReceiver := true, result := some (.named [] ⟨type, false⟩ []) }
    let asks : Attribute := {
      path := Attribute.directivePath
      body := .directive (some [.value "name" (.literal ⟨"\"Made\"".toList, .string "Made"⟩)]) }
    let methods := [accessor "foo_bar" "i32", accessor "fooBar" "String", accessor "_1" "bool"]
    ∃ g d file model,
      (declarationsOf { package := "p" } [.interface [asks] ⟨"T", false⟩ [] methods]).result =
        .ok g ∧ g.declarations = [d] ∧
      accessors methods = methods ∧ (methods.map (·.name.name)).Nodup ∧
      d.properties.map (·.name) = ["fooBar", "fooBar", "1"] ∧ Manifest.isIdentifier "1" = false ∧
      (generate g {} d).result = .ok file ∧ file.classes = [model] ∧
      (model.properties.filter (·.isOverride)).map (·.name) = ["fooBar", "1"] := by
  intro accessor asks methods
  let made : Declaration := {
    package := "p", name := "T", kind := .interface
    properties := [⟨"fooBar", ⟨"Int", [], false⟩, []⟩, ⟨"fooBar", ⟨"String", [], false⟩, []⟩,
      ⟨"1", ⟨"Boolean", [], false⟩, []⟩]
    annotations := [⟨"Generate", [⟨"name", .string "Made"⟩]⟩] }
  refine ⟨⟨[made]⟩, made, _, _, ?_, rfl, rfl, by decide, rfl, by decide,
    generate_of_alone ⟨[], .nil _ _, rfl⟩ rfl rfl rfl (by decide) rfl rfl rfl rfl, rfl, rfl⟩
  dsimp only [methods, accessor, asks]
  rfl

end ModelClasses.TraitSource
