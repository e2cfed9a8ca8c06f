import ModelClasses.Generation
import ModelClasses.Proofs.Descriptor.Collection
import ModelClasses.Proofs.Synthesis.Shape

/-! # What is generated

A file is generated in three steps, and it holds what each of them makes. The class implements the
whole contract of its interface: every property that is declared on the way through the hierarchy. -/

namespace ModelClasses

namespace Generation

theorem generate_ok_iff {g : DeclarationGraph} {s : Settings} {d : Declaration} {file : SourceFile} :
    (generate g s d).result = .ok file ↔
      ∃ descriptor made delegated,
        (Descriptor.build g s d.package d).result = .ok descriptor ∧
        (Synthesis.synthesize g s descriptor).result = .ok made ∧
        (Delegation.delegate? s descriptor made.derived).result = .ok delegated ∧
        file = {
          package := descriptor.packageName
          name := descriptor.className
          classes := made.model :: delegated.toList
          originatingFiles := descriptor.originatingFiles
          packageNames := packageNames g descriptor.packageName } := by
  constructor
  · intro h
    obtain ⟨descriptor, built, h⟩ := Outcome.bind_ok_iff.1 h
    obtain ⟨made, synthesized, h⟩ := Outcome.bind_ok_iff.1 h
    obtain ⟨delegated, delegates, h⟩ := Outcome.bind_ok_iff.1 h
    cases h
    exact ⟨descriptor, made, delegated, built, synthesized, delegates, rfl⟩
  · rintro ⟨descriptor, made, delegated, built, synthesized, delegates, rfl⟩
    refine Outcome.bind_ok_iff.2 ⟨descriptor, built, ?_⟩
    refine Outcome.bind_ok_iff.2 ⟨made, synthesized, ?_⟩
    exact Outcome.bind_ok_iff.2 ⟨delegated, delegates, rfl⟩

/-- An interface above which there is none is all that its class is made from. -/
theorem generate_of_alone {g : DeclarationGraph} {s : Settings} {d : Declaration}
    {annotations : List AnnotationRecord} {directive : Directive}
    {inheritedInterfaces : List TypeName} {c : Descriptor.Collection} {made : Synthesis}
    {delegated : Option ClassModel} (alone : g.DepthFirst d [d]) (interface : d.kind = .interface)
    (resolved : g.resolveAnnotations s d.package d.annotations = .ok annotations)
    (given : Directive.ofRecords s annotations = .ok directive)
    (named : ¬ (directive.name.isEmpty = true ∨ directive.className = d.simpleName))
    (inherits : (Descriptor.inherited g d).result = .ok inheritedInterfaces)
    (own : (Descriptor.collectOwn g s [d.qualifiedName] d {}).result = .ok c) :
    let descriptor : Descriptor := {
      packageName := d.package
      className := directive.className
      sourceInterface := .named d.qualifiedName
      inheritedInterfaces
      properties := c.properties
      delegatedClass := directive.delegatedClass
      originatingFiles := c.files }
    (Synthesis.synthesize g s descriptor).result = .ok made →
    (Delegation.delegate? s descriptor made.derived).result = .ok delegated →
    (generate g s d).result = .ok {
      package := d.package
      name := directive.className
      classes := made.model :: delegated.toList
      originatingFiles := c.files
      packageNames := packageNames g d.package } := by
  intro descriptor synthesized delegates
  have collected := (Descriptor.collectAll_ok_iff alone).2 (.cons own (.nil _ _))
  have built : (Descriptor.build g s d.package d).result = .ok descriptor := Descriptor.build_ok_iff.2
    ⟨interface, annotations, directive, inheritedInterfaces, c, resolved, given, named, inherits,
      collected, rfl⟩
  exact generate_ok_iff.2 ⟨descriptor, made, delegated, built, synthesized, delegates, rfl⟩

/-- A property has the name that is declared, and the type that is written there, resolved in the
package of the interface that declares it. -/
def Implements (g : DeclarationGraph) (a : Declaration × PropertyDeclaration) (q : Property) : Prop :=
  q.name = a.2.name ∧
    (g.resolve a.1.package ("property " ++ a.2.name ++ " of " ++ a.1.qualifiedName) a.2.type).result =
      .ok q.type

/-- The properties that override those of the hierarchy, in the order in which they are kept. -/
theorem generate_overrides {g : DeclarationGraph} {s : Settings} {d : Declaration}
    {order : List Declaration} (first : g.DepthFirst d order) {file : SourceFile}
    (h : (generate g s d).result = .ok file) :
    ∃ model others, file.classes = model :: others ∧
      List.Forall₂ (Implements g) (Descriptor.kept order)
        (model.properties.filter (·.isOverride)) := by
  obtain ⟨descriptor, made, delegated, built, synthesized, -, rfl⟩ := generate_ok_iff.1 h
  obtain ⟨-, _, _, _, c, -, -, -, -, collected, rfl⟩ := Descriptor.build_ok_iff.1 built
  have declared := Descriptor.collectAll_properties collected first
  refine ⟨made.model, delegated.toList, rfl, ?_⟩
  refine (forall₂_trans declared (Synthesis.overrides_ok synthesized)).imp ?_
  rintro a q ⟨p, described, name, type⟩
  obtain ⟨name', resolved, -⟩ := Descriptor.describeProperty_ok described
  exact ⟨name.trans name', by rw [type, resolved]⟩

theorem generate_contract (g : DeclarationGraph) (s : Settings) (d : Declaration) :
    ∃ order, g.DepthFirst d order ∧ (∀ other, g.DepthFirst d other → other = order) ∧
      ∀ file, (generate g s d).result = .ok file →
        ∃ first delegated, file.classes = first :: delegated ∧
          List.Forall₂ (Implements g) (Descriptor.kept order)
            (first.properties.filter (·.isOverride)) ∧
          file.originatingFiles =
            ((Descriptor.contributing d order).filterMap (·.sourceFile)).eraseDups := by
  obtain ⟨order, depthFirst, unique⟩ := g.existsUnique_depthFirst d
  refine ⟨order, depthFirst, unique, fun file h => ?_⟩
  obtain ⟨first, delegated, classes, implements⟩ := generate_overrides depthFirst h
  refine ⟨first, delegated, classes, implements, ?_⟩
  obtain ⟨descriptor, made, second, built, -, -, rfl⟩ := generate_ok_iff.1 h
  obtain ⟨-, _, _, _, c, -, -, -, -, collected, rfl⟩ := Descriptor.build_ok_iff.1 built
  exact Descriptor.collectAll_files collected depthFirst

/-- Interfaces that extend each other and themselves, one above two others, and a second declaration
of a name. -/
theorem generate_contract_circle :
    let a : Declaration := {
      package := "p", name := "A", kind := .interface, sourceFile := some "a.rs"
      supertypes := [⟨"B", [], false⟩, ⟨"p.C", [], false⟩]
      properties := [⟨"x", ⟨"Int", [], false⟩, []⟩]
      annotations := [⟨"Generate", [⟨"name", .string "Made"⟩]⟩] }
    let b : Declaration := {
      package := "p", name := "B", kind := .interface, sourceFile := some "b.rs"
      supertypes := [⟨"q.D", [], false⟩, ⟨"A", [], false⟩]
      properties := [⟨"x", ⟨"Long", [], false⟩, []⟩] }
    let c : Declaration := {
      package := "p", name := "C", kind := .interface, sourceFile := some "a.rs"
      supertypes := [⟨"C", [], false⟩, ⟨"q.D", [], false⟩]
      properties := [⟨"y", ⟨"String", [], true⟩, []⟩] }
    let e : Declaration := {
      package := "q", name := "D", kind := .interface, sourceFile := some "d.rs"
      properties := [⟨"x", ⟨"Long", [], false⟩, []⟩, ⟨"z", ⟨"E", [], false⟩, []⟩] }
    let g : DeclarationGraph :=
      ⟨[a, b, c, e, { package := "q", name := "E", kind := .class_ }, { b with supertypes := [] }]⟩
    (Descriptor.kept [a, b, e, c]).map (fun x => (x.1.name, x.2.name)) =
        [("A", "x"), ("D", "z"), ("C", "y")] ∧
      ∃ file, (generate g {} a).result = .ok file ∧ file.originatingFiles = ["a.rs", "d.rs"] ∧
        ∃ first delegated, file.classes = first :: delegated ∧
          List.Forall₂ (Implements g) (Descriptor.kept [a, b, e, c])
            (first.properties.filter (·.isOverride)) := by
  intro a b c e g
  have backToA : g.Walk ["p.A", "p.B", "q.D"] "p" [⟨"A", [], false⟩] [] :=
    .again (p := a) rfl (by decide) (.nil _ _)
  have aboveB : g.Walk ["p.A", "p.B"] "p" b.supertypes (e :: [] ++ []) :=
    .visit rfl (by decide) (.nil _ _) backToA
  have backToE : g.Walk ["p.A", "p.B", "q.D", "p.C"] "p" [⟨"q.D", [], false⟩] [] :=
    .again (p := e) rfl (by decide) (.nil _ _)
  have aboveC : g.Walk ["p.A", "p.B", "q.D", "p.C"] "p" c.supertypes [] :=
    .again (p := c) rfl (by decide) backToE
  have afterB : g.Walk ["p.A", "p.B", "q.D"] "p" [⟨"p.C", [], false⟩] (c :: [] ++ []) :=
    .visit rfl (by decide) aboveC (.nil _ _)
  have aboveA : g.Walk ["p.A"] "p" a.supertypes (b :: [e] ++ [c]) :=
    .visit rfl (by decide) aboveB afterB
  have depthFirst : g.DepthFirst a [a, b, e, c] := ⟨[b, e, c], aboveA, rfl⟩
  have collects : Descriptor.Collects g {} [] {} [a, b, e, c] {
      seen := ["y", "z", "x"]
      properties := [⟨"x", .named "kotlin.Int", [], "p.A"⟩, ⟨"z", .named "q.E", [], "q.D"⟩,
        ⟨"y", ⟨"kotlin.String", [], true⟩, [], "p.C"⟩]
      files := ["a.rs", "d.rs"] } :=
    .cons rfl (.cons rfl (.cons rfl (.cons rfl (.nil _ _))))
  have collected := (Descriptor.collectAll_ok_iff depthFirst).2 collects
  have built : (Descriptor.build g {} a.package a).result = .ok _ :=
    Descriptor.build_ok_iff.2 ⟨rfl, _, _, _, _, rfl, rfl, by decide, rfl, collected, rfl⟩
  have generated : ∃ file, (generate g {} a).result = .ok file ∧
      file.originatingFiles = ["a.rs", "d.rs"] :=
    ⟨_, generate_ok_iff.2 ⟨_, _, _, built, rfl, rfl, rfl⟩, rfl⟩
  obtain ⟨file, ok, sources⟩ := generated
  obtain ⟨order, -, unique, contract⟩ := generate_contract g {} a
  obtain rfl := unique _ depthFirst
  obtain ⟨first, delegated, classes, implements, -⟩ := contract file ok
  exact ⟨rfl, file, ok, sources, first, delegated, classes, implements⟩

end Generation

end ModelClasses
