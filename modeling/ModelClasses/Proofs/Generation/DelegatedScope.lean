import ModelClasses.Proofs.Generation.PropertyNames

/-! # Names in the scope of a delegated class

The parameters of a delegated class are called after the simple names of the interfaces that its
interface extends directly. Two of these may have one simple name, or names that become one with a small
first letter, and a derived expression, which is copied as it is written, may name a property that a
parameter stands before. Both can be read off the declarations. -/

namespace ModelClasses

namespace Naming

open Text

/-- The first character is a capital letter of ASCII. -/
def isCapitalized (s : String) : Bool := s.toList.head?.any Char.isUpper

theorem lowerCase_of_isUpper {c : Char} (capital : c.isUpper = true) :
    lowerCase c = [c.toLower] ∧ c.toLower.toUpper = c := by
  have bounds : 65 ≤ c.toNat ∧ c.toNat ≤ 90 := of_decide_eq_true capital
  have each : ∀ n : Fin 26, lowerCase (Char.ofNat (65 + n)) = [(Char.ofNat (65 + n)).toLower] ∧
      (Char.ofNat (65 + n)).toLower.toUpper = Char.ofNat (65 + n) := by decide +kernel
  have letter := each ⟨c.toNat - 65, by omega⟩
  have code : 65 + (c.toNat - 65) = c.toNat := by omega
  rwa [code, Char.ofNat_toNat] at letter

/-- A capital letter in front can be told from the small one. -/
theorem decapitalize_inj {s t : String} (hs : isCapitalized s = true) (ht : isCapitalized t = true) :
    decapitalize s = decapitalize t ↔ s = t := by
  refine ⟨fun same => ?_, congrArg decapitalize⟩
  rw [isCapitalized] at hs ht
  rw [decapitalize, decapitalize] at same
  rw [← String.toList_inj]
  cases first : s.toList with
  | nil => simp [first] at hs
  | cons a as =>
    cases second : t.toList with
    | nil => simp [second] at ht
    | cons b bs =>
      simp only [first, second, List.head?_cons, Option.any_some] at hs ht same
      obtain ⟨lowerA, upperA⟩ := lowerCase_of_isUpper hs
      obtain ⟨lowerB, upperB⟩ := lowerCase_of_isUpper ht
      rw [lowerA, lowerB, String.ofList_inj, List.singleton_append, List.singleton_append] at same
      obtain ⟨letter, rest⟩ := List.cons.inj same
      rw [← upperA, letter, upperB, rest]

end Naming

namespace DeclarationGraph

/-- The names of a delegated class's parameters, one for every interface that is extended directly. -/
def parameterNames (g : DeclarationGraph) (d : Declaration) : List String :=
  (g.parentNames d).map fun q => Naming.decapitalize (Naming.simpleName q)

/-- Where all interfaces are written with a capital, their simple names decide. -/
theorem nodup_parameterNames_iff {g : DeclarationGraph} {d : Declaration}
    (capitalized : ∀ q ∈ g.parentNames d, Naming.isCapitalized (Naming.simpleName q) = true) :
    (g.parameterNames d).Nodup ↔ ((g.parentNames d).map Naming.simpleName).Nodup := by
  have same : g.parameterNames d = ((g.parentNames d).map Naming.simpleName).map Naming.decapitalize := by
    rw [parameterNames, List.map_map]
    rfl
  rw [same]
  refine ⟨List.Nodup.of_map _, fun different => different.map_on ?_⟩
  intro a ha b hb alike
  obtain ⟨q, hq, rfl⟩ := List.mem_map.1 ha
  obtain ⟨r, hr, rfl⟩ := List.mem_map.1 hb
  exact (Naming.decapitalize_inj (capitalized q hq) (capitalized r hr)).1 alike

end DeclarationGraph

namespace Delegation

variable {g : DeclarationGraph} {s : Settings} {d : Declaration} {descriptor : Descriptor}

theorem inheritedInterfaces_names
    (built : (Descriptor.build g s d.package d).result = .ok descriptor) :
    descriptor.inheritedInterfaces.map (·.qualifiedName) = g.parentNames d := by
  have each := takes_inherited built
  rw [List.forall₂_map_right_iff] at each
  apply List.map_injective_iff.2 fun _ _ => Option.some.inj
  rw [DeclarationGraph.parentNames, List.map_filterMap_some_eq_filter_map_isSome, List.filter_map,
    List.map_map]
  simp only [Function.comp_def, Option.isSome_map]
  refine (map_eq_of_forall₂ ?_ each).symm
  rintro t type ⟨-, ⟨i, parent, found⟩, -⟩
  rw [parent, Option.map_some, DeclarationGraph.qualifiedName_of_get? found]

/-- The names in the scope of a delegated class, beside the first class of the file. No two parameters
have one name, and if something is derived, none has the name of a property of the interface. -/
structure Unambiguous (first c : ClassModel) : Prop where
  parameters : (c.constructor.map (·.name)).Nodup
  properties : c.properties ≠ [] → ∀ q ∈ c.constructor,
    ∀ p ∈ first.properties, p.isOverride = true → p.name ≠ q.name

variable {first c : ClassModel} {order : List Declaration}

theorem properties_ne_nil_iff (built : (Descriptor.build g s d.package d).result = .ok descriptor)
    (depthFirst : g.DepthFirst d order) (delegates : Delegates g s d descriptor first c) :
    c.properties ≠ [] ↔ ∃ a ∈ Descriptor.kept order, g.isDerived s a = true := by
  have names := congrArg List.length (names_delegated built depthFirst delegates)
  rw [List.length_map, List.length_map] at names
  rw [← List.length_pos_iff, names, List.length_pos_iff, Ne, List.filter_eq_nil_iff]
  push Not
  rfl

/-- An overriding property has the name of a declared one. -/
theorem overrides_named_iff
    (implements : List.Forall₂ (Generation.Implements g) (Descriptor.kept order)
      (first.properties.filter (·.isOverride))) (name : String) :
    (∃ p ∈ first.properties, p.isOverride = true ∧ p.name = name) ↔
      ∃ k ∈ order, Descriptor.Declares k name := by
  have names : (Descriptor.kept order).map (·.2.name) =
      (first.properties.filter (·.isOverride)).map (·.name) := by
    refine map_eq_of_forall₂ ?_ implements
    rintro a p ⟨named, -⟩
    exact named.symm
  rw [← Descriptor.mem_names_kept, names, List.mem_map]
  simp only [List.mem_filter, and_assoc]

theorem unambiguous_iff (built : (Descriptor.build g s d.package d).result = .ok descriptor)
    (depthFirst : g.DepthFirst d order) (delegates : Delegates g s d descriptor first c)
    (implements : List.Forall₂ (Generation.Implements g) (Descriptor.kept order)
      (first.properties.filter (·.isOverride)))
    (names : c.constructor.map (·.name) = g.parameterNames d) :
    Unambiguous first c ↔ (g.parameterNames d).Nodup ∧
      ((∃ a ∈ Descriptor.kept order, g.isDerived s a = true) →
        ∀ name ∈ g.parameterNames d, ∀ k ∈ order, ¬ Descriptor.Declares k name) := by
  have apart : (∀ q ∈ c.constructor, ∀ p ∈ first.properties, p.isOverride = true → p.name ≠ q.name) ↔
      ∀ name ∈ g.parameterNames d, ∀ k ∈ order, ¬ Descriptor.Declares k name := by
    rw [← names, List.forall_mem_map]
    refine forall₂_congr fun q _ => ?_
    have named := not_congr (overrides_named_iff implements q.name)
    push Not at named
    exact named
  rw [← properties_ne_nil_iff built depthFirst delegates, ← apart, ← names]
  constructor
  · rintro ⟨different, free⟩
    exact ⟨different, free⟩
  · rintro ⟨different, free⟩
    exact ⟨different, free⟩

end Delegation

namespace Generation

open Naming Delegation

theorem generate_delegatedScope (g : DeclarationGraph) (s : Settings) (d : Declaration) :
    ∃ order, g.DepthFirst d order ∧ (∀ other, g.DepthFirst d other → other = order) ∧
      ∀ file first c, (generate g s d).result = .ok file → file.classes = [first, c] →
        (Unambiguous first c ↔ (g.parameterNames d).Nodup ∧
          ((∃ a ∈ Descriptor.kept order, g.isDerived s a = true) →
            ∀ name ∈ g.parameterNames d, ∀ k ∈ order, ¬ Descriptor.Declares k name)) ∧
        c.constructor.map (·.name) = g.parameterNames d ∧
        ((∀ q ∈ g.parentNames d, isCapitalized (simpleName q) = true) →
          ((c.constructor.map (·.name)).Nodup ↔ ((g.parentNames d).map simpleName).Nodup)) := by
  obtain ⟨order, depthFirst, unique⟩ := g.existsUnique_depthFirst d
  refine ⟨order, depthFirst, unique, ?_⟩
  intro file first c h classes
  obtain ⟨_, _, classes', implements⟩ := generate_overrides depthFirst h
  obtain ⟨rfl, -⟩ := List.cons.inj (classes.symm.trans classes')
  obtain ⟨descriptor, made, delegated, built, synthesized, delegates, rfl⟩ := generate_ok_iff.1 h
  obtain ⟨rfl, one⟩ := List.cons.inj classes
  have inside : c ∈ delegated.toList := by
    rw [one]
    exact List.mem_singleton_self c
  obtain rfl := eq_model_of_delegate? delegates c (Option.mem_toList.1 inside)
  have names : (model s descriptor made.derived).constructor.map (·.name) = g.parameterNames d := by
    rw [DeclarationGraph.parameterNames, ← inheritedInterfaces_names built, List.map_map, model,
      List.map_map]
    rfl
  refine ⟨unambiguous_iff built depthFirst (delegates_model built synthesized) implements names,
    names, fun capitalized => ?_⟩
  rw [names]
  exact DeclarationGraph.nodup_parameterNames_iff capitalized

/-- Two interfaces of a package, of which one declares what the derived expression names. -/
theorem generate_delegatedScope_apart :
    let bundle : Declaration := {
      package := "p", name := "Bundle", kind := .interface
      supertypes := [⟨"Config", [], false⟩, ⟨"Styles", [], false⟩]
      properties := [⟨"area", ⟨"Int", [], false⟩, [⟨"Derived", [⟨"from", .string "width * 2"⟩]⟩]⟩]
      annotations := [⟨"Generate", [⟨"name", .string "Made"⟩, ⟨"delegatedClass", .bool true⟩]⟩] }
    let config : Declaration := {
      package := "p", name := "Config", kind := .interface
      properties := [⟨"width", ⟨"Int", [], false⟩, []⟩] }
    let styles : Declaration := { package := "p", name := "Styles", kind := .interface }
    let g : DeclarationGraph := ⟨[bundle, config, styles]⟩
    ∃ file first c, (generate g {} bundle).result = .ok file ∧ file.classes = [first, c] ∧
      c.constructor.map (·.name) = ["config", "styles"] ∧ c.properties.map (·.name) = ["area"] ∧
      Unambiguous first c ∧ (c.constructor.map (·.name)).Nodup := by
  intro bundle config styles g
  have afterConfig : g.Walk ["p.Bundle", "p.Config"] "p" [⟨"Styles", [], false⟩] (styles :: [] ++ []) :=
    .visit rfl (by decide) (.nil _ _) (.nil _ _)
  have aboveBundle : g.Walk ["p.Bundle"] "p" bundle.supertypes (config :: [] ++ [styles]) :=
    .visit rfl (by decide) (.nil _ _) afterConfig
  have depthFirst : g.DepthFirst bundle [bundle, config, styles] := ⟨[config, styles], aboveBundle, rfl⟩
  have collected := (Descriptor.collectAll_ok_iff (s := {}) depthFirst).2
    (.cons rfl (.cons rfl (.cons rfl (.nil _ _))))
  have built : (Descriptor.build g {} bundle.package bundle).result = .ok _ :=
    Descriptor.build_ok_iff.2 ⟨rfl, _, _, _, _, rfl, rfl, by decide, rfl, collected, rfl⟩
  have generated : ∃ file first c, (generate g {} bundle).result = .ok file ∧
      file.classes = [first, c] ∧ c.constructor.map (·.name) = ["config", "styles"] ∧
      c.properties.map (·.name) = ["area"] :=
    ⟨_, _, _, generate_ok_iff.2 ⟨_, _, _, built, rfl, rfl, rfl⟩, rfl, by decide +kernel, rfl⟩
  obtain ⟨file, first, c, ok, classes, parameters, properties⟩ := generated
  obtain ⟨order, -, unique, scope⟩ := generate_delegatedScope g {} bundle
  obtain rfl := unique _ depthFirst
  obtain ⟨unambiguous, names, capitalized⟩ := scope file first c ok classes
  rw [parameters] at names
  have free : ∀ name ∈ ["config", "styles"], ∀ k ∈ [bundle, config, styles],
      ¬ Descriptor.Declares k name := by simp [Descriptor.Declares, bundle, config, styles]
  refine ⟨file, first, c, ok, classes, parameters, properties, ?_, (capitalized ?_).2 ?_⟩
  · rw [unambiguous, ← names]
    exact ⟨by decide, fun _ => free⟩
  · decide +kernel
  · decide +kernel

/-- Interfaces of two packages have one simple name, which a property above and the expression have with a
small letter. -/
theorem generate_delegatedScope_clash :
    let bundle : Declaration := {
      package := "p", name := "Bundle", kind := .interface
      supertypes := [⟨"p.Config", [], false⟩, ⟨"q.Config", [], false⟩]
      properties := [⟨"area", ⟨"Int", [], false⟩, [⟨"Derived", [⟨"from", .string "config * 2"⟩]⟩]⟩]
      annotations := [⟨"Generate", [⟨"name", .string "Made"⟩, ⟨"delegatedClass", .bool true⟩]⟩] }
    let config : Declaration := {
      package := "p", name := "Config", kind := .interface
      properties := [⟨"config", ⟨"Int", [], false⟩, []⟩] }
    let other : Declaration := {
      package := "q", name := "Config", kind := .interface
      properties := [⟨"size", ⟨"Int", [], false⟩, []⟩] }
    let g : DeclarationGraph := ⟨[bundle, config, other]⟩
    ∃ file first c, (generate g {} bundle).result = .ok file ∧ file.classes = [first, c] ∧
      c.constructor.map (·.name) = ["config", "config"] ∧
      c.properties.map (fun q => (q.name, q.initializer)) =
        [("area", .expression (.verbatim "config * 2"))] ∧
      (first.properties.filter (·.isOverride)).map (·.name) = ["area", "config", "size"] ∧
      ¬ (c.constructor.map (·.name)).Nodup ∧ c.properties ≠ [] ∧
      ∃ q ∈ c.constructor, ∃ p ∈ first.properties, p.isOverride = true ∧ p.name = q.name := by
  intro bundle config other g
  have afterConfig : g.Walk ["p.Bundle", "p.Config"] "p" [⟨"q.Config", [], false⟩] (other :: [] ++ []) :=
    .visit rfl (by decide) (.nil _ _) (.nil _ _)
  have aboveBundle : g.Walk ["p.Bundle"] "p" bundle.supertypes (config :: [] ++ [other]) :=
    .visit rfl (by decide) (.nil _ _) afterConfig
  have depthFirst : g.DepthFirst bundle [bundle, config, other] := ⟨[config, other], aboveBundle, rfl⟩
  have collected := (Descriptor.collectAll_ok_iff (s := {}) depthFirst).2
    (.cons rfl (.cons rfl (.cons rfl (.nil _ _))))
  have built : (Descriptor.build g {} bundle.package bundle).result = .ok _ :=
    Descriptor.build_ok_iff.2 ⟨rfl, _, _, _, _, rfl, rfl, by decide, rfl, collected, rfl⟩
  have generated : ∃ file first c, (generate g {} bundle).result = .ok file ∧
      file.classes = [first, c] ∧ c.constructor.map (·.name) = ["config", "config"] ∧
      c.properties.map (fun q => (q.name, q.initializer)) =
        [("area", .expression (.verbatim "config * 2"))] ∧
      (first.properties.filter (·.isOverride)).map (·.name) = ["area", "config", "size"] :=
    ⟨_, _, _, generate_ok_iff.2 ⟨_, _, _, built, rfl, rfl, rfl⟩, rfl, by decide +kernel, rfl, rfl⟩
  obtain ⟨file, first, c, ok, classes, parameters, properties, overrides⟩ := generated
  refine ⟨file, first, c, ok, classes, parameters, properties, overrides, ?_, ?_, ?_⟩
  · rw [parameters]
    decide
  · rintro none
    rw [none] at properties
    cases properties
  · have parameter : "config" ∈ c.constructor.map (·.name) := by simp [parameters]
    have property : "config" ∈ (first.properties.filter (·.isOverride)).map (·.name) := by
      simp [overrides]
    obtain ⟨q, hq, named⟩ := List.mem_map.1 parameter
    obtain ⟨p, hp, named'⟩ := List.mem_map.1 property
    obtain ⟨inside, isOverride⟩ := List.mem_filter.1 hp
    exact ⟨q, hq, p, inside, isOverride, named'.trans named.symm⟩

end Generation

end ModelClasses
