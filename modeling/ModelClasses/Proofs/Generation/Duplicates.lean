import ModelClasses.Proofs.DeclarationDocument
import ModelClasses.Proofs.Generation.Order
import ModelClasses.Proofs.IndexedGraph

/-! # Declarations that are added again

Of the declarations of one name the first is found, however the name is made of a package and a name in
it. A further declaration with the package and the name of one that is there is found by no stage, and
gives its package no new name. So it makes no difference to what is generated of the others, and if it
does not ask for a class itself, it makes none at all. -/

namespace ModelClasses

variable {g : DeclarationGraph} {d : Declaration}

/-- A declaration has the package and the name of one that the graph has already. -/
def IsDuplicate (g : DeclarationGraph) (d : Declaration) : Prop :=
  ∃ e ∈ g.declarations, d.package = e.package ∧ d.name = e.name

theorem DeclarationGraph.get?_insert_duplicate (h : IsDuplicate g d) : (g.insert d).get? = g.get? := by
  obtain ⟨e, declared, package, name⟩ := h
  have named : d.qualifiedName = e.qualifiedName := by
    rw [Declaration.qualifiedName, Declaration.qualifiedName, package, name]
  funext q
  rw [get?_insert]
  split
  · rename_i own
    have found : (g.get? q).isSome :=
      List.find?_isSome.2 ⟨e, declared, by rw [← named]; exact own⟩
    exact Option.or_of_isSome found
  · exact Option.or_none

namespace Generation

theorem packageNames_insert_duplicate (h : IsDuplicate g d) :
    packageNames (g.insert d) = packageNames g := by
  obtain ⟨e, declared, package, name⟩ := h
  funext q
  refine (packageNames_sorted _ q).eq_of_mem_iff (packageNames_sorted g q) fun n => ?_
  rw [mem_packageNames, mem_packageNames, DeclarationGraph.declarations_insert, List.filter_append,
    List.map_append, List.mem_append, or_iff_left_iff_imp]
  intro own
  obtain ⟨x, inside, rfl⟩ := List.mem_map.1 own
  obtain ⟨same, here⟩ := List.mem_filter.1 inside
  obtain rfl := List.mem_singleton.1 same
  rw [package] at here
  refine List.mem_map.2 ⟨e, List.mem_filter.2 ⟨declared, here⟩, ?_⟩
  rw [topLevelName, topLevelName, name]

theorem generate_insert_duplicate (h : IsDuplicate g d) : generate (g.insert d) = generate g :=
  generate_congr (DeclarationGraph.get?_insert_duplicate h) (packageNames_insert_duplicate h)

/-- Only the declaration itself may be annotated too. -/
theorem annotated_insert_duplicate (h : IsDuplicate g d) (s : Settings) :
    annotated (g.insert d) s = annotated g s ++ [d].filter (isAnnotated (g.insert d) s) := by
  rw [annotated, annotated, DeclarationGraph.declarations_insert, List.filter_append,
    isAnnotated_congr (DeclarationGraph.get?_insert_duplicate h)]

/-- After any additions to the empty graph, which is also how graphs are made of lists and of documents, a
graph has the declarations in the order in which they were added, and finds the first one of every name.
An index has the position of just that one, and all its positions are in range. A declaration that is
added again and does not ask for a class leaves the whole pass as it is. -/
theorem process_insertions (s : Settings) :
    (∀ ds : List Declaration,
      let g := ds.foldl DeclarationGraph.insert DeclarationGraph.empty
      let t := ds.foldl IndexedGraph.insert IndexedGraph.empty
      DeclarationGraph.ofList ds = g ∧ IndexedGraph.ofList ds = t ∧
        g.declarations = ds ∧ t.toGraph = g ∧ t.IsExact ∧
        (∀ (q : String) (i : Nat), t.positions[q]? = some i → i < t.declarations.size) ∧
        ∀ q, t.get? q = g.get? q ∧
          (∀ d, g.get? q = some d ↔ ∃ before after, ds = before ++ d :: after ∧
            d.qualifiedName = q ∧ ∀ x ∈ before, x.qualifiedName ≠ q) ∧
          (g.get? q = none ↔ ∀ d ∈ ds, d.qualifiedName ≠ q)) ∧
      (∀ [Json.Format] text g, DeclarationGraph.read? text = some g ↔
        ∃ ds, DeclarationGraph.Lists text ds ∧ g = DeclarationGraph.ofList ds) ∧
      ∀ g d, IsDuplicate g d → isAnnotated (g.insert d) s d = false →
        process (g.insert d) s = process g s ∧
          processWarnings (g.insert d) s = processWarnings g s := by
  refine ⟨fun ds => ?_, fun _ _ => DeclarationGraph.read?_eq_some_iff, fun g d again silent => ?_⟩
  · intro g t
    have exact : t.IsExact := IndexedGraph.isExact_empty.foldl_insert ds
    have same : t.toGraph = g := IndexedGraph.toGraph_foldl_insert IndexedGraph.empty ds
    have declared : g.declarations = ds := DeclarationGraph.declarations_ofList ds
    refine ⟨rfl, rfl, declared, same, exact, fun q i => exact.lt_size, fun q => ⟨?_, fun d => ?_, ?_⟩⟩
    · rw [exact.get?_eq, same]
    · rw [DeclarationGraph.get?_eq_some_iff_first, declared]
    · rw [DeclarationGraph.get?_eq_none_iff, declared]
  · have others : annotated (g.insert d) s = annotated g s := by
      rw [annotated_insert_duplicate again, List.filter_cons_of_neg (by simp [silent]), List.filter_nil,
        List.append_nil]
    have same : generate (g.insert d) = generate g := generate_insert_duplicate again
    constructor
    · rw [process, process, others, outcome_congr same]
    · rw [processWarnings, processWarnings, others, same]

/-- Of two declarations that different packages give one qualified name, the first is found. An interface
that asks for a class is added again as a class that asks for none. -/
theorem process_insertions_hidden :
    let made : Declaration := {
      package := "p", name := "A", kind := .interface, sourceFile := some "a.rs"
      supertypes := [⟨"q.X", [], false⟩]
      annotations := [⟨"Generate", [⟨"name", .string "Made"⟩]⟩] }
    let first : Declaration := {
      package := "p", name := "q.X", kind := .interface
      properties := [⟨"x", ⟨"Int", [], false⟩, []⟩] }
    let second : Declaration := { package := "p.q", name := "X", kind := .class_ }
    let again : Declaration := {
      package := "p", name := "A", kind := .class_, supertypes := [⟨"X", [], false⟩]
      properties := [⟨"y", ⟨"Long", [], true⟩, [⟨"Derived", []⟩]⟩]
      annotations := [⟨"Derived", []⟩, ⟨"kept.Generate", []⟩] }
    let g := [made, first, second].foldl DeclarationGraph.insert DeclarationGraph.empty
    second.qualifiedName = "p.q.X" ∧ g.get? "p.q.X" = some first ∧
      (annotated g {}).map (·.name) = ["A"] ∧
      IsDuplicate g again ∧ isAnnotated (g.insert again) {} again = false ∧
      process (g.insert again) {} = process g {} := by
  intro made first second again g
  obtain ⟨histories, -, repeated⟩ := process_insertions {}
  obtain ⟨-, -, -, -, -, -, found⟩ := histories [made, first, second]
  have hidden : g.get? "p.q.X" = some first :=
    ((found "p.q.X").2.1 first).2 ⟨[made], [second], rfl, by decide, by decide⟩
  have duplicate : IsDuplicate g again := ⟨made, List.mem_cons_self, rfl, rfl⟩
  have silent : isAnnotated (g.insert again) {} again = false := by decide +kernel
  exact ⟨by decide, hidden, by decide +kernel, duplicate, silent, (repeated g again duplicate silent).1⟩

end Generation

end ModelClasses
