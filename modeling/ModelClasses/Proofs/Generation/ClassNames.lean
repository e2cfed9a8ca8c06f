import ModelClasses.Proofs.Emission
import ModelClasses.Proofs.Generation.Delegated

/-! # Names of classes

The name of a file's first class is written at the declaration, and generation fails if the interface has
it too. A delegated class has the same name behind a prefix. This one is formed after the check, and so
the interface's name may be the prefix and the name that follows it. -/

namespace ModelClasses

/-- A delegated class is asked for, and there is an interface that it can pass on. -/
def DeclarationGraph.MakesDelegated (g : DeclarationGraph) (s : Settings) (d : Declaration) : Prop :=
  g.WantsDelegated s d ∧ ∃ t ∈ d.supertypes, (g.parent? d.package t).isSome = true

namespace Delegation

variable {g : DeclarationGraph} {s : Settings} {d : Declaration} {descriptor : Descriptor}

theorem wantsDelegated_iff (built : (Descriptor.build g s d.package d).result = .ok descriptor) :
    descriptor.delegatedClass = true ↔ g.WantsDelegated s d := by
  obtain ⟨-, _, directive, _, _, resolved, given, -, -, -, rfl⟩ := Descriptor.build_ok_iff.1 built
  exact DeclarationGraph.delegatedClass_iff resolved given

theorem delegate?_cases {derived : List DerivedProperty} {delegated : Option ClassModel}
    (built : (Descriptor.build g s d.package d).result = .ok descriptor)
    (delegates : (delegate? s descriptor derived).result = .ok delegated) :
    g.MakesDelegated s d ∧ delegated = some (model s descriptor derived) ∨
      ¬ g.MakesDelegated s d ∧ delegated = none := by
  have wanted : descriptor.delegatedClass = true ∧ ¬ descriptor.inheritedInterfaces.isEmpty ↔
      g.MakesDelegated s d :=
    and_congr (wantsDelegated_iff built) (inheritedInterfaces_ne_nil_iff built)
  rw [delegate?] at delegates
  by_cases h : g.MakesDelegated s d
  · rw [if_pos (wanted.2 h)] at delegates
    cases delegates
    exact .inl ⟨h, rfl⟩
  · rw [if_neg (mt wanted.1 h)] at delegates
    cases delegates
    exact .inr ⟨h, rfl⟩

end Delegation

namespace Generation

variable {g : DeclarationGraph} {s : Settings} {d : Declaration} {file : SourceFile}

/-- Without an annotation that asks for a class, the class has no name. -/
theorem isAnnotated_of_ok (h : (generate g s d).result = .ok file) : isAnnotated g s d = true := by
  obtain ⟨_, _, _, built, -, -, -⟩ := generate_ok_iff.1 h
  obtain ⟨-, records, directive, _, _, resolved, given, named, -⟩ := Descriptor.build_ok_iff.1 built
  rw [isAnnotated_iff_directiveUsage?, Option.isSome_iff_ne_none]
  intro none
  have found := record?_resolveAnnotations resolved
  rw [none] at found
  generalize record : Directive.record? s records = a at found
  cases found
  rw [Directive.record?] at record
  rw [Directive.ofRecords, record] at given
  cases given
  exact named (.inl rfl)

theorem writtenName_ne_simpleName (h : (generate g s d).result = .ok file) :
    writtenName g s d ≠ d.simpleName := by
  rw [← (generate_place (isAnnotated_of_ok h) h).2]
  obtain ⟨_, _, _, built, -, -, rfl⟩ := generate_ok_iff.1 h
  obtain ⟨-, _, _, _, _, -, -, accepted, -, -, rfl⟩ := Descriptor.build_ok_iff.1 built
  intro same
  exact accepted (.inr same)

theorem classNames_cases (h : (generate g s d).result = .ok file) :
    g.MakesDelegated s d ∧
        file.classes.map (·.name) = [writtenName g s d, s.delegatedPrefix ++ writtenName g s d] ∨
      ¬ g.MakesDelegated s d ∧ file.classes.map (·.name) = [writtenName g s d] := by
  have written := (generate_place (isAnnotated_of_ok h) h).2
  obtain ⟨descriptor, made, delegated, built, synthesized, delegates, rfl⟩ := generate_ok_iff.1 h
  have first : made.model.name = writtenName g s d := by
    obtain ⟨_, -, rfl⟩ := Synthesis.synthesize_ok synthesized
    exact written
  have second : (Delegation.model s descriptor made.derived).name =
      s.delegatedPrefix ++ writtenName g s d := congrArg (s.delegatedPrefix ++ ·) written
  obtain ⟨asked, rfl⟩ | ⟨asked, rfl⟩ := Delegation.delegate?_cases built delegates
  · refine .inl ⟨asked, ?_⟩
    rw [← second, ← first]
    rfl
  · refine .inr ⟨asked, ?_⟩
    rw [← first]
    rfl

theorem generate_classNames (named : s.delegatedPrefix ≠ "")
    (h : (generate g s d).result = .ok file) :
    (g.MakesDelegated s d ∧
        file.classes.map (·.name) = [writtenName g s d, s.delegatedPrefix ++ writtenName g s d] ∨
      ¬ g.MakesDelegated s d ∧ file.classes.map (·.name) = [writtenName g s d]) ∧
    (file.classes.map (·.name)).Nodup ∧ writtenName g s d ≠ d.simpleName ∧
    (d.simpleName ∈ file.classes.map (·.name) ↔
      g.MakesDelegated s d ∧ d.simpleName = s.delegatedPrefix ++ writtenName g s d) := by
  have different := writtenName_ne_simpleName h
  have longer : s.delegatedPrefix ++ writtenName g s d ≠ writtenName g s d :=
    mt String.append_eq_right_iff.1 named
  have names := classNames_cases h
  refine ⟨names, ?_, different, ?_⟩
  · obtain ⟨-, names⟩ | ⟨-, names⟩ := names
    · rw [names]
      simpa using longer.symm
    · rw [names]
      exact List.nodup_singleton _
  · obtain ⟨asked, names⟩ | ⟨asked, names⟩ := names
    · rw [names]
      simp [asked, different.symm]
    · rw [names]
      simp [asked, different.symm]

/-- Another prefix than the one that the interface's name starts with. -/
theorem generate_classNames_prefixed :
    let s : Settings := { delegatedPrefix := "Via" }
    let d : Declaration := {
      package := "p", name := "DelegatedMade", kind := .interface
      supertypes := [⟨"Base", [], false⟩]
      annotations := [⟨"Generate", [⟨"name", .string "Made"⟩, ⟨"delegatedClass", .bool true⟩]⟩] }
    let base : Declaration := {
      package := "p", name := "Base", kind := .interface
      properties := [⟨"x", ⟨"Int", [], false⟩, []⟩] }
    let g : DeclarationGraph := ⟨[d, base]⟩
    ∃ file, (generate g s d).result = .ok file ∧ file.classes.map (·.name) = ["Made", "ViaMade"] ∧
      (file.classes.map (·.name)).Nodup ∧ d.simpleName ∉ file.classes.map (·.name) := by
  intro s d base g
  have above : g.Walk ["p.DelegatedMade"] "p" d.supertypes (base :: [] ++ []) :=
    .visit rfl (by decide) (.nil _ _) (.nil _ _)
  have depthFirst : g.DepthFirst d [d, base] := ⟨[base], above, rfl⟩
  have collected := (Descriptor.collectAll_ok_iff (s := s) depthFirst).2
    (.cons rfl (.cons rfl (.nil _ _)))
  have built : (Descriptor.build g s d.package d).result = .ok _ :=
    Descriptor.build_ok_iff.2 ⟨rfl, _, _, _, _, rfl, rfl, by decide, rfl, collected, rfl⟩
  have generated : ∃ file, (generate g s d).result = .ok file ∧
      file.classes.map (·.name) = ["Made", "ViaMade"] :=
    ⟨_, generate_ok_iff.2 ⟨_, _, _, built, rfl, rfl, rfl⟩, rfl⟩
  obtain ⟨file, ok, names⟩ := generated
  obtain ⟨-, different, -, taken⟩ := generate_classNames (by decide) ok
  refine ⟨file, ok, names, different, ?_⟩
  rw [taken]
  rintro ⟨-, same⟩
  exact absurd same (by decide +kernel)

/-- The interface is called as its delegated class. -/
theorem generate_classNames_taken :
    let d : Declaration := {
      package := "p", name := "DelegatedMade", kind := .interface
      supertypes := [⟨"Base", [], false⟩]
      annotations := [⟨"Generate", [⟨"name", .string "Made"⟩, ⟨"delegatedClass", .bool true⟩]⟩] }
    let base : Declaration := {
      package := "p", name := "Base", kind := .interface
      properties := [⟨"x", ⟨"Int", [], false⟩, []⟩] }
    let g : DeclarationGraph := ⟨[d, base]⟩
    ({} : Settings).delegatedPrefix ≠ "" ∧ ∃ file, (generate g {} d).result = .ok file ∧
      file.classes.map (·.name) = ["Made", "DelegatedMade"] ∧
      d.simpleName ∈ file.classes.map (·.name) := by
  intro d base g
  have above : g.Walk ["p.DelegatedMade"] "p" d.supertypes (base :: [] ++ []) :=
    .visit rfl (by decide) (.nil _ _) (.nil _ _)
  have depthFirst : g.DepthFirst d [d, base] := ⟨[base], above, rfl⟩
  have collected := (Descriptor.collectAll_ok_iff (s := {}) depthFirst).2
    (.cons rfl (.cons rfl (.nil _ _)))
  have built : (Descriptor.build g {} d.package d).result = .ok _ :=
    Descriptor.build_ok_iff.2 ⟨rfl, _, _, _, _, rfl, rfl, by decide, rfl, collected, rfl⟩
  have generated : ∃ file, (generate g {} d).result = .ok file ∧
      file.classes.map (·.name) = ["Made", "DelegatedMade"] :=
    ⟨_, generate_ok_iff.2 ⟨_, _, _, built, rfl, rfl, rfl⟩, rfl⟩
  obtain ⟨file, ok, names⟩ := generated
  refine ⟨by decide, file, ok, names, ?_⟩
  rw [names]
  decide +kernel

end Generation

end ModelClasses
