import ModelClasses.Proofs.Generation.Scope

/-! # Types that are told apart

A file writes two different types with different texts, as far as its package is known: one of the
package's own types takes a simple name for itself if the graph declares it there at the top level, or
if it is a class of the file. The default imports are taken to have no simple name in common, and a type
of the package that is not declared is not looked for. -/

namespace ModelClasses

namespace Generation

/-- Two types have one simple name, which nothing that is known of a file's package has, and both are of
packages whose types the file may write by simple names. -/
structure Confusable (g : DeclarationGraph) (file : SourceFile) (q q' : String) : Prop where
  simple : Naming.simpleName q = Naming.simpleName q'
  noDeclaration : ∀ d ∈ g.declarations, d.package = file.package →
    topLevelName d ≠ Naming.simpleName q
  noClass : ∀ m ∈ file.classes, m.name ≠ Naming.simpleName q
  opened : Naming.packageOf q ∈ file.package :: defaultImports
  opened' : Naming.packageOf q' ∈ file.package :: defaultImports

theorem confusable_iff {g : DeclarationGraph} {s : Settings} {d : Declaration} {file : SourceFile}
    (made : (generate g s d).result = .ok file) {q q' : String} :
    Confusable g file q q' ↔
      Naming.simpleName q = Naming.simpleName q' ∧
        Naming.simpleName q ∉ (SourceText.scopeOf file).declared ∧
        (SourceText.scopeOf file).Opens q ∧ (SourceText.scopeOf file).Opens q' := by
  rw [mem_declared made, NameScope.Opens, NameScope.Opens, ← List.mem_cons, ← List.mem_cons, not_or]
  simp only [not_exists, not_and]
  constructor
  · rintro ⟨simple, noDeclaration, noClass, opened, opened'⟩
    exact ⟨simple, ⟨noDeclaration, noClass⟩, opened, opened'⟩
  · rintro ⟨simple, ⟨noDeclaration, noClass⟩, opened, opened'⟩
    exact ⟨simple, noDeclaration, noClass, opened, opened'⟩

theorem generate_typeNames_apart (g : DeclarationGraph) (s : Settings) (d : Declaration)
    (file : SourceFile) (made : (generate g s d).result = .ok file) :
    ∀ q ∈ file.typeNames, ∀ q' ∈ file.typeNames, q ≠ q' →
      Naming.packageOf q ≠ "" → Naming.packageOf q' ≠ "" → ¬ Confusable g file q q' →
        (SourceText.scopeOf file).shortName q ≠ (SourceText.scopeOf file).shortName q' := by
  intro q _ q' _ different owned owned' clear same
  have alike := (NameScope.shortName_eq_iff owned owned' different).1 same
  exact clear ((confusable_iff made).2 alike)

/-- A type that the package declares and an imported one of its name. -/
theorem generate_typeNames_apart_declared :
    let a : Declaration := {
      package := "p", name := "A", kind := .interface
      properties := [⟨"x", ⟨"String", [], false⟩, []⟩,
        ⟨"y", ⟨"List", [⟨"kotlin.String", [], true⟩], false⟩, []⟩]
      annotations := [⟨"Generate", [⟨"name", .string "Made"⟩]⟩] }
    let c : Declaration := { package := "p", name := "String", kind := .class_ }
    let g : DeclarationGraph := ⟨[a, c]⟩
    ∃ file, (generate g {} a).result = .ok file ∧
      "p.String" ∈ file.typeNames ∧ "kotlin.String" ∈ file.typeNames ∧
      ¬ Confusable g file "p.String" "kotlin.String" ∧
      (SourceText.scopeOf file).shortName "p.String" ≠
        (SourceText.scopeOf file).shortName "kotlin.String" := by
  intro a c g
  have depthFirst : g.DepthFirst a [a] := ⟨[], .nil _ _, rfl⟩
  have collected := (Descriptor.collectAll_ok_iff (s := {}) depthFirst).2 (.cons rfl (.nil _ _))
  have built : (Descriptor.build g {} a.package a).result = .ok _ :=
    Descriptor.build_ok_iff.2 ⟨rfl, _, _, _, _, rfl, rfl, by decide, rfl, collected, rfl⟩
  have made : ∃ file, (generate g {} a).result = .ok file ∧ file.package = "p" ∧
      "p.String" ∈ file.typeNames ∧ "kotlin.String" ∈ file.typeNames :=
    ⟨_, generate_ok_iff.2 ⟨_, _, _, built, rfl, rfl, rfl⟩, rfl, by decide, by decide⟩
  obtain ⟨file, made, package, own, imported⟩ := made
  have clear : ¬ Confusable g file "p.String" "kotlin.String" := fun confusable =>
    confusable.noDeclaration c (by simp [g]) package.symm (by decide)
  exact ⟨file, made, own, imported, clear, generate_typeNames_apart g {} a file made _ own _ imported
    (by decide) (by decide) (by decide) clear⟩

/-- A type that is kept as it is written, although nothing declares it, has the text of another one: once
both are of default imports, once one is of the file's own package. -/
theorem generate_typeNames_alike :
    let a : Declaration := {
      package := "p", name := "A", kind := .interface
      properties := [⟨"a", ⟨"kotlin.List", [], false⟩, []⟩,
        ⟨"b", ⟨"List", [⟨"Int", [], false⟩], false⟩, []⟩,
        ⟨"c", ⟨"p.String", [], false⟩, []⟩, ⟨"d", ⟨"String", [], false⟩, []⟩]
      annotations := [⟨"Generate", [⟨"name", .string "Made"⟩]⟩] }
    ∃ file, (generate ⟨[a]⟩ {} a).result = .ok file ∧
      (∀ q ∈ ["kotlin.List", "kotlin.collections.List", "p.String", "kotlin.String"],
        q ∈ file.typeNames ∧ Naming.packageOf q ≠ "") ∧
      (SourceText.scopeOf file).shortName "kotlin.List" =
        (SourceText.scopeOf file).shortName "kotlin.collections.List" ∧
      (SourceText.scopeOf file).shortName "p.String" =
        (SourceText.scopeOf file).shortName "kotlin.String" ∧
      file.render "  " = "package p\n\ndata class Made(\n  override val a: List,\n" ++
        "  override val b: List<Int>,\n  override val c: String,\n  override val d: String,\n) : A \x7b\n" ++
        "  constructor(a: A) : this(\n    a = a.a,\n    b = a.b,\n    c = a.c,\n    d = a.d,\n  )\n\x7d\n" := by
  intro a
  have collected := (Descriptor.collectAll_ok_iff (g := ⟨[a]⟩) (s := {}) (d := a)
    ⟨[], .nil _ _, rfl⟩).2 (.cons rfl (.nil _ _))
  have built : (Descriptor.build ⟨[a]⟩ {} a.package a).result = .ok _ :=
    Descriptor.build_ok_iff.2 ⟨rfl, _, _, _, _, rfl, rfl, by decide, rfl, collected, rfl⟩
  exact ⟨_, generate_ok_iff.2 ⟨_, _, _, built, rfl, rfl, rfl⟩, by decide, by decide, by decide,
    by decide +kernel⟩

end Generation

end ModelClasses
