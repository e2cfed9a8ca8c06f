import ModelClasses.Proofs.Generation
import ModelClasses.Proofs.Lookup
import Mathlib.Data.List.Sort

/-! # The order of declarations

What is generated does not depend on the order in which declarations are added to a graph. Stages that
look declarations up find the same ones, and the one that goes through all of them makes a list that
is in order whatever it is made from. So a report is what every declaration by itself gives, in the
order of the declarations. -/

namespace ModelClasses

namespace Generation

variable {g g' : DeclarationGraph}

theorem mem_insertName {name n : String} {names : List String} :
    n ∈ insertName name names ↔ n = name ∨ n ∈ names := by
  induction names with
  | nil => simp [insertName]
  | cons m names ih =>
    rw [insertName]
    split
    · exact List.mem_cons
    · split
      · rename_i same
        rw [same, List.mem_cons, or_self_left]
      · rw [List.mem_cons, ih, List.mem_cons, or_left_comm]

theorem insertName_sorted (name : String) {names : List String} (h : names.Pairwise (· < ·)) :
    (insertName name names).Pairwise (· < ·) := by
  induction names with
  | nil => exact List.pairwise_singleton _ _
  | cons m names ih =>
    obtain ⟨above, rest⟩ := List.pairwise_cons.1 h
    rw [insertName]
    split
    · rename_i before
      refine List.pairwise_cons.2 ⟨?_, h⟩
      intro n hn
      rcases List.mem_cons.1 hn with rfl | hn
      · exact before
      · exact String.lt_trans before (above n hn)
    · split
      · exact h
      · rename_i notBefore other
        have after : m < name := by
          apply Decidable.byContradiction
          intro notAfter
          exact other (String.le_antisymm (String.not_lt.1 notAfter) (String.not_lt.1 notBefore))
        refine List.pairwise_cons.2 ⟨?_, ih rest⟩
        intro n hn
        rcases mem_insertName.1 hn with rfl | hn
        · exact after
        · exact above n hn

theorem packageNames_sorted (g : DeclarationGraph) (package : String) :
    (packageNames g package).Pairwise (· < ·) := by
  rw [packageNames]
  induction (g.declarations.filter (·.package == package)).map topLevelName with
  | nil => exact .nil
  | cons name names ih => exact insertName_sorted name ih

theorem mem_packageNames {package n : String} :
    n ∈ packageNames g package ↔
      n ∈ (g.declarations.filter (·.package == package)).map topLevelName := by
  rw [packageNames]
  induction (g.declarations.filter (·.package == package)).map topLevelName with
  | nil => rfl
  | cons name names ih => rw [List.foldr_cons, mem_insertName, ih, List.mem_cons]

theorem packageNames_perm (perm : g.declarations.Perm g'.declarations) :
    packageNames g = packageNames g' := by
  funext package
  refine (packageNames_sorted g package).eq_of_mem_iff (packageNames_sorted g' package) fun n => ?_
  rw [mem_packageNames, mem_packageNames, ((perm.filter _).map _).mem_iff]

theorem generate_congr (same : g.get? = g'.get?) (names : packageNames g = packageNames g') :
    generate g = generate g' := by
  funext s d
  simp only [generate, Descriptor.build_congr same, Synthesis.synthesize_congr same, names]

theorem generate_perm (perm : g.declarations.Perm g'.declarations)
    (distinct : (g.declarations.map (·.qualifiedName)).Nodup) : generate g = generate g' :=
  generate_congr (DeclarationGraph.get?_perm perm distinct) (packageNames_perm perm)

/-- What a declaration adds to a report, if it asks for a class. -/
def reported? (g : DeclarationGraph) (s : Settings) (d : Declaration) :
    Option (Except Failure SourceFile) :=
  if isAnnotated g s d then some (outcome g s d) else none

theorem process_eq_entries (g : DeclarationGraph) (s : Settings) :
    process g s = ofOutcomes (g.declarations.filterMap (reported? g s)) := by
  rw [process, annotated]
  congr 1
  induction g.declarations with
  | nil => rfl
  | cons d ds ih =>
    rw [List.filter_cons, List.filterMap_cons, reported?]
    cases isAnnotated g s d with
    | true => exact congrArg (outcome g s d :: ·) ih
    | false => exact ih

theorem isAnnotated_congr (same : g.get? = g'.get?) : isAnnotated g = isAnnotated g' := by
  funext s d
  rw [isAnnotated, isAnnotated,
    DeclarationGraph.annotationName_congr (DeclarationGraph.sameKinds_of_get? same)]

theorem outcome_congr (same : generate g = generate g') : outcome g = outcome g' := by
  funext s d
  rw [outcome, outcome, same]

theorem reported?_perm (perm : g.declarations.Perm g'.declarations)
    (distinct : (g.declarations.map (·.qualifiedName)).Nodup) : reported? g = reported? g' := by
  funext s d
  rw [reported?, reported?, isAnnotated_congr (DeclarationGraph.get?_perm perm distinct),
    outcome_congr (generate_perm perm distinct)]

theorem ofOutcomes_perm {entries entries' : List (Except Failure SourceFile)}
    (perm : entries.Perm entries') :
    (ofOutcomes entries).generated.Perm (ofOutcomes entries').generated ∧
      (ofOutcomes entries).failures.Perm (ofOutcomes entries').failures :=
  ⟨perm.filterMap _, perm.filterMap _⟩

theorem process_perm (s : Settings) {ds ds' : List Declaration} (perm : ds.Perm ds')
    (distinct : (ds.map (·.qualifiedName)).Nodup) :
    let g := DeclarationGraph.ofList ds
    let g' := DeclarationGraph.ofList ds'
    (∀ d, generate g s d = generate g' s d) ∧
      process g s = ofOutcomes (ds.filterMap (reported? g s)) ∧
      process g' s = ofOutcomes (ds'.filterMap (reported? g s)) ∧
      (process g s).generated.Perm (process g' s).generated ∧
      (process g s).failures.Perm (process g' s).failures := by
  intro g g'
  have declared : g.declarations = ds := DeclarationGraph.declarations_ofList ds
  have declared' : g'.declarations = ds' := DeclarationGraph.declarations_ofList ds'
  have perm' : g.declarations.Perm g'.declarations := by rwa [declared, declared']
  rw [← declared] at distinct
  have one : process g s = ofOutcomes (ds.filterMap (reported? g s)) := by
    rw [process_eq_entries, declared]
  have other : process g' s = ofOutcomes (ds'.filterMap (reported? g s)) := by
    rw [process_eq_entries, declared', reported?_perm perm' distinct]
  refine ⟨fun d => by rw [generate_perm perm' distinct], one, other, ?_⟩
  rw [one, other]
  exact ofOutcomes_perm (perm.filterMap (reported? g s))

/-- An interface that extends one of its package, and a class that asks for a class, added in both
directions. -/
theorem process_perm_reversed :
    let base : Declaration := {
      package := "p", name := "Base", kind := .interface, sourceFile := some "base.rs"
      properties := [⟨"x", ⟨"Int", [], false⟩, []⟩] }
    let item : Declaration := {
      package := "p", name := "Item", kind := .interface, sourceFile := some "item.rs"
      supertypes := [⟨"Base", [], false⟩]
      annotations := [⟨"Generate", [⟨"name", .string "Made"⟩]⟩] }
    let broken : Declaration := {
      package := "p", name := "Broken", kind := .class_
      annotations := [⟨"Generate", [⟨"name", .string "Mended"⟩]⟩] }
    let g := DeclarationGraph.ofList [item, base, broken]
    let g' := DeclarationGraph.ofList [broken, base, item]
    (∃ file, (generate g {} item).result = .ok file ∧ (generate g' {} item).result = .ok file ∧
        file.originatingFiles = ["item.rs", "base.rs"]) ∧
      (process g {}).generated.Perm (process g' {}).generated ∧
      (process g {}).failures.Perm (process g' {}).failures := by
  intro base item broken g g'
  have perm : [item, base, broken].Perm [broken, base, item] :=
    (List.reverse_perm [item, base, broken]).symm
  obtain ⟨same, -, -, generated, failures⟩ := process_perm {} perm (by decide)
  have aboveItem : g.Walk ["p.Item"] "p" item.supertypes (base :: [] ++ []) :=
    .visit rfl (by decide) (.nil _ _) (.nil _ _)
  have depthFirst : g.DepthFirst item [item, base] := ⟨[base], aboveItem, rfl⟩
  have collected := (Descriptor.collectAll_ok_iff (s := {}) depthFirst).2
    (.cons rfl (.cons rfl (.nil _ _)))
  have built : (Descriptor.build g {} item.package item).result = .ok _ :=
    Descriptor.build_ok_iff.2 ⟨rfl, _, _, _, _, rfl, rfl, by decide, rfl, collected, rfl⟩
  have made : ∃ file, (generate g {} item).result = .ok file ∧
      file.originatingFiles = ["item.rs", "base.rs"] :=
    ⟨_, generate_ok_iff.2 ⟨_, _, _, built, rfl, rfl, rfl⟩, rfl⟩
  obtain ⟨file, ok, sources⟩ := made
  have ok' : (generate g' {} item).result = .ok file := by rw [← same, ok]
  exact ⟨⟨file, ok, ok', sources⟩, generated, failures⟩

end Generation

end ModelClasses
