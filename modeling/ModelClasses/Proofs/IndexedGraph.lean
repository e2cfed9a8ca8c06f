import ModelClasses.DeclarationGraph
import Mathlib.Data.List.Basic

/-! # Graphs with an index

A graph need not look through its declarations: it may keep the position of every name. A name that has a
position keeps it when a further declaration of that name is added, so after any additions each name has
the position of its first declaration, and what is found by position is what is found by looking through
all declarations. -/

namespace ModelClasses

namespace DeclarationGraph

theorem get?_eq_some_iff_first {g : DeclarationGraph} {q : String} {d : Declaration} :
    g.get? q = some d ↔ ∃ before after, g.declarations = before ++ d :: after ∧
      d.qualifiedName = q ∧ ∀ x ∈ before, x.qualifiedName ≠ q := by
  rw [get?, List.find?_eq_some_iff_append]
  simp only [beq_iff_eq, Bool.not_eq_true', beq_eq_false_iff_ne]
  constructor
  · rintro ⟨named, before, after, split, others⟩
    exact ⟨before, after, split, named, others⟩
  · rintro ⟨before, after, split, named, others⟩
    exact ⟨named, before, after, split, others⟩

theorem get?_eq_none_iff {g : DeclarationGraph} {q : String} :
    g.get? q = none ↔ ∀ d ∈ g.declarations, d.qualifiedName ≠ q := by
  rw [get?, List.find?_eq_none]
  simp only [beq_iff_eq, ne_eq]

end DeclarationGraph

structure IndexedGraph where
  declarations : Array Declaration := #[]
  positions : Std.HashMap String Nat := {}

namespace IndexedGraph

def empty : IndexedGraph := {}

def insert (t : IndexedGraph) (d : Declaration) : IndexedGraph where
  declarations := t.declarations.push d
  positions := t.positions.insertIfNew d.qualifiedName t.declarations.size

def ofList (ds : List Declaration) : IndexedGraph := ds.foldl insert empty

def get? (t : IndexedGraph) (qualified : String) : Option Declaration :=
  t.positions[qualified]?.bind (t.declarations[·]?)

/-- The declarations without their index. -/
def toGraph (t : IndexedGraph) : DeclarationGraph := ⟨t.declarations.toList⟩

theorem toGraph_insert (t : IndexedGraph) (d : Declaration) :
    (t.insert d).toGraph = t.toGraph.insert d := by
  rw [toGraph, insert, Array.toList_push]
  rfl

theorem toGraph_foldl_insert (t : IndexedGraph) (ds : List Declaration) :
    (ds.foldl insert t).toGraph = ds.foldl DeclarationGraph.insert t.toGraph := by
  induction ds generalizing t with
  | nil => rfl
  | cons d ds ih => rw [List.foldl_cons, ih, toGraph_insert, List.foldl_cons]

/-- The index has the position of the first declaration of every name, and no other names. -/
def IsExact (t : IndexedGraph) : Prop :=
  ∀ q, t.positions[q]? = t.declarations.findIdx? (·.qualifiedName == q)

theorem isExact_empty : empty.IsExact := by
  intro q
  rw [empty, Std.HashMap.getElem?_empty, Array.findIdx?_empty]

variable {t : IndexedGraph}

/-- A name without a position gets the one where its declaration is put; all others keep theirs. -/
theorem IsExact.insert (h : t.IsExact) (d : Declaration) : (t.insert d).IsExact := by
  intro q
  have known := Std.HashMap.mem_iff_isSome_getElem? (m := t.positions) (a := d.qualifiedName)
  rw [IndexedGraph.insert, Std.HashMap.getElem?_insertIfNew, Array.findIdx?_push, ← h q]
  by_cases own : d.qualifiedName = q
  · subst own
    cases position : t.positions[d.qualifiedName]? with
    | none => simp [known, position]
    | some i => simp [known, position]
  · have other : ¬(d.qualifiedName == q) = true := by simpa using own
    rw [if_neg fun new => other new.1, if_neg other, Option.or_none]

theorem IsExact.foldl_insert (h : t.IsExact) (ds : List Declaration) : (ds.foldl .insert t).IsExact := by
  induction ds generalizing t with
  | nil => exact h
  | cons d ds ih => exact ih (h.insert d)

theorem IsExact.get?_eq (h : t.IsExact) (q : String) : t.get? q = t.toGraph.get? q := by
  rw [get?, h q, ← Array.find?_eq_bind_findIdx?_getElem?, ← Array.find?_toList]
  rfl

theorem IsExact.lt_size (h : t.IsExact) {q : String} {i : Nat} (position : t.positions[q]? = some i) :
    i < t.declarations.size := by
  rw [h q, Array.findIdx?_eq_some_iff_getElem] at position
  exact position.1

end IndexedGraph

end ModelClasses
