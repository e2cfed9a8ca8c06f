import ModelClasses.Proofs.Generation.WrittenTags
import ModelClasses.Proofs.Resolution.Types

/-! # Constructors that are told apart

A class has a constructor with a parameter for every property that is not derived, and one that takes an
instance of the interface. Nothing compares the two, and so they take the same types where the interface
leaves room for nothing else: of the properties of its hierarchy, one alone is not derived, and the type
of that one is the interface. -/

namespace ModelClasses

namespace DeclarationGraph

variable {g : DeclarationGraph} {package context : String}

/-- A type is written as a name alone, and the name stands for a qualified one. A name that stands for
nothing is taken as it is. -/
structure IsNamed (g : DeclarationGraph) (package : String) (t : TypeUsage) (qualified : String) :
    Prop where
  noArguments : t.arguments = []
  notNullable : t.nullable = false
  name : (g.resolveName? package t.name).getD t.name = qualified

/-- The properties of an order that no tag derives, the first one of every name. -/
def underived (g : DeclarationGraph) (s : Settings) (order : List Declaration) :
    List (Declaration × PropertyDeclaration) :=
  (Descriptor.kept order).filter fun a => !g.isDerived s a

theorem resolveArguments_eq_nil_iff {ts : List TypeUsage} :
    g.resolveArguments package context ts = .ok [] ↔ ts = [] := by
  rw [resolveArguments_ok_iff]
  constructor
  · rintro ⟨⟩
    rfl
  · rintro rfl
    exact .nil

theorem resolve_eq_named_iff {t : TypeUsage} {qualified : String} :
    (g.resolve package context t).result = .ok (.named qualified) ↔
      g.IsNamed package t qualified := by
  rw [result_resolve, map_eq_ok_iff]
  constructor
  · rintro ⟨ts, resolved, same⟩
    obtain ⟨name, rfl, notNullable⟩ := TypeName.mk.inj same
    exact ⟨resolveArguments_eq_nil_iff.1 resolved, notNullable, name⟩
  · rintro ⟨noArguments, notNullable, rfl⟩
    exact ⟨[], resolveArguments_eq_nil_iff.2 noArguments, by rw [notNullable]; rfl⟩

end DeclarationGraph

namespace Synthesis

variable {g : DeclarationGraph} {s : Settings} {d : Declaration} {order : List Declaration}
  {descriptor : Descriptor} {made : Synthesis}
  (built : (Descriptor.build g s d.package d).result = .ok descriptor)
  (depthFirst : g.DepthFirst d order) (synthesized : (synthesize g s descriptor).result = .ok made)

include built depthFirst synthesized

/-- The constructor takes the properties that no tag derives, each with the type that it has where it is
declared. -/
theorem parameters_underived :
    List.Forall₂
      (fun a q => q.name = a.2.name ∧
        (g.resolve a.1.package ("property " ++ a.2.name ++ " of " ++ a.1.qualifiedName)
          a.2.type).result = .ok q.type)
      (g.underived s order) made.model.constructor := by
  have described : List.Forall₂ (fun a p => (Descriptor.describeProperty g s a.1 a.2).result = .ok p)
      (g.underived s order) (descriptor.properties.filter fun p => !p.isDerived s) := by
    refine List.rel_filter ?_ (Descriptor.build_properties built depthFirst)
    intro a p described
    simp only [Descriptor.isDerived_describeProperty described]
  refine (forall₂_trans described (synthesize_shape synthesized).parameters).imp ?_
  rintro a q ⟨p, described, name, type, -⟩
  obtain ⟨declared, resolved, -⟩ := Descriptor.describeProperty_ok described
  exact ⟨name.trans declared, by rw [type, resolved]⟩

theorem constructor_types_eq_iff {qualified : String} :
    made.model.constructor.map (·.type) = [.named qualified] ↔
      ∃ a, g.underived s order = [a] ∧ g.IsNamed a.1.package a.2.type qualified := by
  have parameters := parameters_underived built depthFirst synthesized
  rw [List.map_eq_singleton_iff]
  constructor
  · rintro ⟨q, one, type⟩
    rw [one, List.forall₂_cons_right_iff] at parameters
    obtain ⟨a, _, ⟨-, resolved⟩, ⟨⟩, only⟩ := parameters
    rw [type] at resolved
    exact ⟨a, only, DeclarationGraph.resolve_eq_named_iff.1 resolved⟩
  · rintro ⟨a, only, named⟩
    rw [only, List.forall₂_cons_left_iff] at parameters
    obtain ⟨q, _, ⟨-, resolved⟩, ⟨⟩, one⟩ := parameters
    rw [DeclarationGraph.resolve_eq_named_iff.2 named] at resolved
    exact ⟨q, one, (Except.ok.inj resolved).symm⟩

end Synthesis

namespace Generation

theorem generate_constructors (g : DeclarationGraph) (s : Settings) (d : Declaration) :
    ∃ order, g.DepthFirst d order ∧ (∀ other, g.DepthFirst d other → other = order) ∧
      ∀ file, (generate g s d).result = .ok file →
        ∃ first delegated conversion, file.classes = first :: delegated ∧
          first.conversions = [conversion] ∧
          conversion.parameters.map (·.type) = [.named d.qualifiedName] ∧
          (first.constructor.map (·.type) = conversion.parameters.map (·.type) ↔
            ∃ a, g.underived s order = [a] ∧
              g.IsNamed a.1.package a.2.type d.qualifiedName) := by
  obtain ⟨order, depthFirst, unique⟩ := g.existsUnique_depthFirst d
  refine ⟨order, depthFirst, unique, ?_⟩
  intro file h
  obtain ⟨descriptor, made, delegated, built, synthesized, -, rfl⟩ := generate_ok_iff.1 h
  have source : descriptor.sourceInterface = .named d.qualifiedName := by
    obtain ⟨-, _, _, _, _, -, -, -, -, -, rfl⟩ := Descriptor.build_ok_iff.1 built
    rfl
  obtain ⟨instanceName, conversions⟩ := (Synthesis.synthesize_shape synthesized).conversion
  refine ⟨made.model, delegated.toList, _, rfl, conversions, by simp [source], ?_⟩
  simp only [List.map_cons, List.map_nil, source]
  exact Synthesis.constructor_types_eq_iff built depthFirst synthesized

/-- The one property that is not derived can be missing, and so its type is not the interface. -/
theorem generate_constructors_nullable :
    let node : Declaration := {
      package := "p", name := "Node", kind := .interface
      properties := [
        ⟨"self", ⟨"Node", [], false⟩, [⟨"Derived", [⟨"from", .string "this"⟩]⟩]⟩,
        ⟨"next", ⟨"Node", [], true⟩, []⟩]
      annotations := [⟨"Generate", [⟨"name", .string "Made"⟩]⟩] }
    let g : DeclarationGraph := ⟨[node]⟩
    ∃ file first conversion, (generate g {} node).result = .ok file ∧ file.classes = [first] ∧
      first.conversions = [conversion] ∧
      first.constructor.map (·.type) ≠ conversion.parameters.map (·.type) := by
  intro node g
  have depthFirst : g.DepthFirst node [node] := ⟨[], .nil _ _, rfl⟩
  have collected := (Descriptor.collectAll_ok_iff (s := {}) depthFirst).2 (.cons rfl (.nil _ _))
  have built : (Descriptor.build g {} node.package node).result = .ok _ :=
    Descriptor.build_ok_iff.2 ⟨rfl, _, _, _, _, rfl, rfl, by decide, rfl, collected, rfl⟩
  have generated : ∃ file first, (generate g {} node).result = .ok file ∧ file.classes = [first] :=
    ⟨_, _, generate_ok_iff.2 ⟨_, _, _, built, rfl, rfl, rfl⟩, rfl⟩
  obtain ⟨file, first, ok, classes⟩ := generated
  obtain ⟨order, -, unique, apart⟩ := generate_constructors g {} node
  obtain rfl := unique _ depthFirst
  obtain ⟨first', _, conversion, classes', conversions, -, same⟩ := apart file ok
  obtain ⟨rfl, -⟩ := List.cons.inj (classes.symm.trans classes')
  refine ⟨file, first, conversion, ok, classes, conversions, ?_⟩
  rw [Ne, same]
  rintro ⟨a, only, named⟩
  have nullable : (g.underived {} [node]).map (·.2.type.nullable) = [true] := by decide +kernel
  rw [only, List.map_singleton, named.notNullable] at nullable
  cases nullable

/-- Of two properties that have the interface's type, one is derived. -/
theorem generate_constructors_clash :
    let node : Declaration := {
      package := "p", name := "Node", kind := .interface
      properties := [
        ⟨"self", ⟨"Node", [], false⟩, [⟨"Derived", [⟨"from", .string "this"⟩]⟩]⟩,
        ⟨"next", ⟨"Node", [], false⟩, []⟩]
      annotations := [⟨"Generate", [⟨"name", .string "Made"⟩]⟩] }
    let g : DeclarationGraph := ⟨[node]⟩
    ∃ file first conversion, (generate g {} node).result = .ok file ∧ file.classes = [first] ∧
      first.conversions = [conversion] ∧
      first.constructor.map (·.type) = [.named "p.Node"] ∧
      first.constructor.map (·.type) = conversion.parameters.map (·.type) := by
  intro node g
  have depthFirst : g.DepthFirst node [node] := ⟨[], .nil _ _, rfl⟩
  have collected := (Descriptor.collectAll_ok_iff (s := {}) depthFirst).2 (.cons rfl (.nil _ _))
  have built : (Descriptor.build g {} node.package node).result = .ok _ :=
    Descriptor.build_ok_iff.2 ⟨rfl, _, _, _, _, rfl, rfl, by decide, rfl, collected, rfl⟩
  exact ⟨_, _, _, generate_ok_iff.2 ⟨_, _, _, built, rfl, rfl, rfl⟩, rfl, rfl, rfl, rfl⟩

end Generation

end ModelClasses
