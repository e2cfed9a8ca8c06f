import ModelClasses.Proofs.Generation.Discovery
import ModelClasses.Proofs.Generation.Order
import ModelClasses.Proofs.SourceText

/-! # Imported types in generated files

A generated file writes a type of the default imports by its simple name if its package declares no
type of that name and none of the file's own classes has it. The classes of the pass's other files are
not looked at. Where one of them, in the same package, has the name, the text means that class. -/

namespace ModelClasses

namespace Generation

/-- The names of the classes that some files have in a package. -/
def classNames (files : List SourceFile) (package : String) : List String :=
  (files.filter (·.package == package)).flatMap fun file => file.classes.map (·.name)

/-- The names that shadow imported types in a file are those of the graph and the file's own ones. -/
theorem mem_declared {g : DeclarationGraph} {s : Settings} {d : Declaration} {file : SourceFile}
    (made : (generate g s d).result = .ok file) {n : String} :
    n ∈ (SourceText.scopeOf file).declared ↔
      (∃ d ∈ g.declarations, d.package = file.package ∧ topLevelName d = n) ∨
        ∃ m ∈ file.classes, m.name = n := by
  obtain ⟨_, _, _, -, -, -, rfl⟩ := generate_ok_iff.1 made
  rw [SourceText.scopeOf, List.mem_append, mem_packageNames, List.mem_map, List.mem_map]
  simp only [List.mem_filter, beq_iff_eq, and_assoc]

theorem process_shortNames (g : DeclarationGraph) (s : Settings) :
    ∀ file ∈ (process g s).generated,
      (∀ q ∈ file.names, Naming.packageOf q ∈ defaultImports → Naming.packageOf q ≠ file.package →
        ((SourceText.scopeOf file).shortName q = Naming.simpleName q ↔
          (∀ d ∈ g.declarations, d.package = file.package → topLevelName d ≠ Naming.simpleName q) ∧
            ∀ m ∈ file.classes, m.name ≠ Naming.simpleName q)) ∧
      ((∀ q ∈ file.names, Naming.packageOf q ∈ defaultImports → Naming.packageOf q ≠ file.package →
          Naming.simpleName q ∉ classNames (process g s).generated file.package) →
        ∀ indent, file.render indent =
          { file with packageNames :=
              file.packageNames ++ classNames (process g s).generated file.package }.render indent) := by
  intro file hf
  obtain ⟨d, -, made⟩ := exists_of_mem_right (accounts_ofOutcomes (annotated g s)).generated hf
  constructor
  · intro q _ imported foreign
    rw [NameScope.shortName_eq_simpleName_iff imported foreign, mem_declared made, not_or]
    simp only [not_exists, not_and, ne_eq]
  · intro free indent
    refine SourceFile.render_congr (fun q hq => ?_) indent
    refine NameScope.shortName_congr rfl fun imported foreign => ?_
    have apart := free q hq imported foreign
    simp only [SourceText.scopeOf, List.mem_append, apart, or_false]

/-- A class of the package has the name of one of two imported types, which is written in full. -/
theorem process_shortNames_declared :
    let a : Declaration := {
      package := "p", name := "A", kind := .interface
      properties := [⟨"x", ⟨"kotlin.String", [], false⟩, []⟩, ⟨"y", ⟨"Int", [], false⟩, []⟩]
      annotations := [⟨"Generate", [⟨"name", .string "Made"⟩]⟩] }
    let c : Declaration := { package := "p", name := "String", kind := .class_ }
    let g : DeclarationGraph := ⟨[a, c]⟩
    ∃ file ∈ (process g {}).generated, "kotlin.String" ∈ file.names ∧ "kotlin.Int" ∈ file.names ∧
      (SourceText.scopeOf file).shortName "kotlin.String" ≠ "String" ∧
      (SourceText.scopeOf file).shortName "kotlin.Int" = "Int" := by
  intro a c g
  have depthFirst : g.DepthFirst a [a] := ⟨[], .nil _ _, rfl⟩
  have collected := (Descriptor.collectAll_ok_iff (s := {}) depthFirst).2 (.cons rfl (.nil _ _))
  have built : (Descriptor.build g {} a.package a).result = .ok _ :=
    Descriptor.build_ok_iff.2 ⟨rfl, _, _, _, _, rfl, rfl, by decide, rfl, collected, rfl⟩
  have made : ∃ file, (generate g {} a).result = .ok file ∧ file.package = "p" ∧
      file.names = ["p.A", "kotlin.String", "kotlin.Int", "kotlin.String", "kotlin.Int", "p.A"] ∧
      file.classes.map (·.name) = ["Made"] :=
    ⟨_, generate_ok_iff.2 ⟨_, _, _, built, rfl, rfl, rfl⟩, rfl, rfl, rfl⟩
  obtain ⟨file, made, package, names, classes⟩ := made
  have files : (process g {}).generated = [file] := generated_of_ok rfl (.cons made .nil)
  have inside : file ∈ (process g {}).generated := by simp [files]
  obtain ⟨short, -⟩ := process_shortNames g {} file inside
  have text : "kotlin.String" ∈ file.names := by simp [names]
  have number : "kotlin.Int" ∈ file.names := by simp [names]
  refine ⟨file, inside, text, number, fun simple => ?_, ?_⟩
  · have free := (short "kotlin.String" text (by decide) (by rw [package]; decide)).1 simple
    exact free.1 c (List.mem_cons_of_mem a List.mem_cons_self) package.symm (by decide)
  · refine (short "kotlin.Int" number (by decide) (by rw [package]; decide)).2 ⟨?_, ?_⟩
    · rw [package]
      decide
    · intro m hm
      have named := List.mem_map_of_mem (f := ClassModel.name) hm
      rw [classes, List.mem_singleton] at named
      rw [named]
      decide

/-- Another file of the pass has a class of the name that a file writes for an imported type. -/
theorem process_capturedName :
    let a : Declaration := {
      package := "p", name := "A", kind := .interface
      properties := [⟨"x", ⟨"String", [], false⟩, []⟩]
      annotations := [⟨"Generate", [⟨"name", .string "Made"⟩]⟩] }
    let b : Declaration := {
      package := "p", name := "B", kind := .interface
      properties := [⟨"y", ⟨"Int", [], false⟩, []⟩]
      annotations := [⟨"Generate", [⟨"name", .string "String"⟩]⟩] }
    ∃ file other, (process ⟨[a, b]⟩ {}).generated = [file, other] ∧ file.package = other.package ∧
      "kotlin.String" ∈ file.names ∧
      (SourceText.scopeOf file).shortName "kotlin.String" = "String" ∧
      file.render "  " = "package p\n\ndata class Made(\n  override val x: String,\n) : A \x7b\n" ++
        "  constructor(a: A) : this(\n    x = a.x,\n  )\n\x7d\n" ∧
      "String" ∈ other.classes.map (·.name) := by
  intro a b
  have collectedA := (Descriptor.collectAll_ok_iff (g := ⟨[a, b]⟩) (s := {}) (d := a)
    ⟨[], .nil _ _, rfl⟩).2 (.cons rfl (.nil _ _))
  have collectedB := (Descriptor.collectAll_ok_iff (g := ⟨[a, b]⟩) (s := {}) (d := b)
    ⟨[], .nil _ _, rfl⟩).2 (.cons rfl (.nil _ _))
  have builtA : (Descriptor.build ⟨[a, b]⟩ {} a.package a).result = .ok _ :=
    Descriptor.build_ok_iff.2 ⟨rfl, _, _, _, _, rfl, rfl, by decide, rfl, collectedA, rfl⟩
  have builtB : (Descriptor.build ⟨[a, b]⟩ {} b.package b).result = .ok _ :=
    Descriptor.build_ok_iff.2 ⟨rfl, _, _, _, _, rfl, rfl, by decide, rfl, collectedB, rfl⟩
  have made : ∃ file other, (generate ⟨[a, b]⟩ {} a).result = .ok file ∧
      (generate ⟨[a, b]⟩ {} b).result = .ok other ∧ file.package = other.package ∧
      "kotlin.String" ∈ file.names ∧
      (SourceText.scopeOf file).shortName "kotlin.String" = "String" ∧
      file.render "  " = "package p\n\ndata class Made(\n  override val x: String,\n) : A \x7b\n" ++
        "  constructor(a: A) : this(\n    x = a.x,\n  )\n\x7d\n" ∧
      "String" ∈ other.classes.map (·.name) :=
    ⟨_, _, generate_ok_iff.2 ⟨_, _, _, builtA, rfl, rfl, rfl⟩,
      generate_ok_iff.2 ⟨_, _, _, builtB, rfl, rfl, rfl⟩, rfl, by decide, by decide, by decide,
      by decide⟩
  obtain ⟨file, other, madeA, madeB, facts⟩ := made
  exact ⟨file, other, generated_of_ok rfl (.cons madeA (.cons madeB .nil)), facts⟩

end Generation

end ModelClasses
