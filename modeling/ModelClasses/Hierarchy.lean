import ModelClasses.TypeResolution

/-! # Interface hierarchies

The interfaces that a declaration extends directly. A walk through them ends also where interfaces
extend each other in a circle: with every name that it visits, fewer declarations are unvisited. -/

namespace ModelClasses

namespace DeclarationGraph

/-- The interface of the graph that a supertype stands for. -/
def parent? (g : DeclarationGraph) (package : String) (supertype : TypeUsage) :
    Option Declaration :=
  (g.declaration? package supertype.name).filter (·.kind = .interface)

/-- The qualified names of the interfaces that a declaration extends directly. -/
def parentNames (g : DeclarationGraph) (d : Declaration) : List String :=
  d.supertypes.filterMap fun s => (g.parent? d.package s).map (·.qualifiedName)

/-- The declarations of a graph whose names have not been visited. -/
def unvisited (g : DeclarationGraph) (visited : List String) : List Declaration :=
  g.declarations.filter fun d => !visited.contains d.qualifiedName

theorem length_filter_lt {α : Type} {p q : α → Bool} {xs : List α} (h : ∀ x, q x → p x) {a : α}
    (ha : a ∈ xs) (hp : p a) (hq : q a = false) : (xs.filter q).length < (xs.filter p).length := by
  induction xs with
  | nil => simp at ha
  | cons x xs ih =>
    have le : (xs.filter q).length ≤ (xs.filter p).length := by
      simp only [← List.countP_eq_length_filter]
      exact List.countP_mono_left fun x _ => h x
    rcases List.mem_cons.1 ha with rfl | ha
    · simp [hp, hq]; omega
    · have := ih ha
      by_cases hx : q x
      · simp [hx, h x hx]; omega
      · by_cases hy : p x <;> simp [hx, hy] <;> omega

theorem unvisited_shorter {g : DeclarationGraph} {visited : List String} {name : String}
    {d : Declaration} (hd : g.get? name = some d) (hn : visited.contains name = false) :
    (g.unvisited (visited ++ [name])).length < (g.unvisited visited).length := by
  have hm : d ∈ g.declarations := mem_of_get? hd
  have he : d.qualifiedName = name := qualifiedName_of_get? hd
  refine length_filter_lt (a := d) ?_ hm ?_ ?_
  · intro x hx
    simp at hx ⊢
    exact hx.1
  · simpa [he] using hn
  · simp [he]

end DeclarationGraph

end ModelClasses
