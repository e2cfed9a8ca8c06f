import ModelClasses.Hierarchy
import Mathlib.Data.List.Nodup

/-! # The depth-first order of a hierarchy

The order in which a declaration and the interfaces above it come is given by rules, one for each
thing that a supertype can be: no interface, an interface that has been visited, or a new one, which
comes with all that is above it before the next supertype. There is exactly one such order for every
declaration, also in a graph with circles. -/

namespace ModelClasses

namespace DeclarationGraph

/-- The interfaces that are visited from supertypes that are written in a package, one supertype
after the other, when some names have been visited before. -/
inductive Walk (g : DeclarationGraph) :
    List String → String → List TypeUsage → List Declaration → Prop
  | nil (visited : List String) (package : String) : Walk g visited package [] []
  | other {visited : List String} {package : String} {t : TypeUsage} {ts : List TypeUsage}
      {order : List Declaration} (missing : g.parent? package t = none)
      (rest : Walk g visited package ts order) : Walk g visited package (t :: ts) order
  | again {visited : List String} {package : String} {t : TypeUsage} {ts : List TypeUsage}
      {p : Declaration} {order : List Declaration} (parent : g.parent? package t = some p)
      (seen : p.qualifiedName ∈ visited) (rest : Walk g visited package ts order) :
      Walk g visited package (t :: ts) order
  | visit {visited : List String} {package : String} {t : TypeUsage} {ts : List TypeUsage}
      {p : Declaration} {above order : List Declaration} (parent : g.parent? package t = some p)
      (new : p.qualifiedName ∉ visited)
      (inside : Walk g (visited ++ [p.qualifiedName]) p.package p.supertypes above)
      (rest : Walk g (visited ++ (p :: above).map (·.qualifiedName)) package ts order) :
      Walk g visited package (t :: ts) (p :: above ++ order)

/-- A declaration and the interfaces above it, depth first. -/
def DepthFirst (g : DeclarationGraph) (d : Declaration) (order : List Declaration) : Prop :=
  ∃ above, g.Walk [d.qualifiedName] d.package d.supertypes above ∧ order = d :: above

theorem get?_of_parent? {g : DeclarationGraph} {package : String} {t : TypeUsage} {p : Declaration}
    (h : g.parent? package t = some p) : g.get? p.qualifiedName = some p := by
  obtain ⟨found, -⟩ := Option.filter_eq_some_iff.1 h
  obtain ⟨name, -, found⟩ := Option.bind_eq_some_iff.1 found
  rw [qualifiedName_of_get? found, found]

theorem unvisited_append_le (g : DeclarationGraph) (visited names : List String) :
    (g.unvisited (visited ++ names)).length ≤ (g.unvisited visited).length := by
  apply List.Sublist.length_le
  apply List.monotone_filter_right
  intro d h
  simp at h ⊢
  exact h.1

/-- By induction on the names that are not visited, and then on the supertypes. -/
theorem exists_walk (g : DeclarationGraph) (visited : List String) (package : String) :
    ∀ ts : List TypeUsage, ∃ order, g.Walk visited package ts order
  | [] => ⟨[], .nil visited package⟩
  | t :: ts => by
    cases parent : g.parent? package t with
    | none =>
      obtain ⟨order, rest⟩ := g.exists_walk visited package ts
      exact ⟨order, .other parent rest⟩
    | some p =>
      by_cases seen : p.qualifiedName ∈ visited
      · obtain ⟨order, rest⟩ := g.exists_walk visited package ts
        exact ⟨order, .again parent seen rest⟩
      · have fewer := unvisited_shorter (get?_of_parent? parent) (by simpa using seen)
        obtain ⟨above, inside⟩ :=
          g.exists_walk (visited ++ [p.qualifiedName]) p.package p.supertypes
        have still :
            (g.unvisited (visited ++ p.qualifiedName :: above.map (·.qualifiedName))).length <
              (g.unvisited visited).length := by
          rw [List.append_cons]
          exact Nat.lt_of_le_of_lt (g.unvisited_append_le _ _) fewer
        obtain ⟨order, rest⟩ :=
          g.exists_walk (visited ++ (p :: above).map (·.qualifiedName)) package ts
        exact ⟨p :: above ++ order, .visit parent seen inside rest⟩
termination_by ts => ((g.unvisited visited).length, ts.length)

theorem Walk.unique {g : DeclarationGraph} {visited : List String} {package : String}
    {ts : List TypeUsage} {order : List Declaration} (h : g.Walk visited package ts order) :
    ∀ {other}, g.Walk visited package ts other → other = order := by
  induction h with
  | nil => rintro _ ⟨⟩; rfl
  | other missing _ ih =>
    intro _ h
    cases h with
    | other _ rest => exact ih rest
    | again parent => rw [missing] at parent; cases parent
    | visit parent => rw [missing] at parent; cases parent
  | again parent seen _ ih =>
    intro _ h
    cases h with
    | other missing => rw [missing] at parent; cases parent
    | again _ _ rest => exact ih rest
    | visit parent' new =>
      obtain rfl : _ = _ := Option.some.inj (parent.symm.trans parent')
      exact absurd seen new
  | visit parent new _ _ ihInside ihRest =>
    intro _ h
    cases h with
    | other missing => rw [missing] at parent; cases parent
    | again parent' seen =>
      obtain rfl : _ = _ := Option.some.inj (parent.symm.trans parent')
      exact absurd seen new
    | visit parent' _ inside rest =>
      obtain rfl : _ = _ := Option.some.inj (parent.symm.trans parent')
      obtain rfl := ihInside inside
      rw [ihRest rest]

/-- No name is visited twice. -/
theorem Walk.nodup {g : DeclarationGraph} {visited : List String} {package : String}
    {ts : List TypeUsage} {order : List Declaration} (h : g.Walk visited package ts order)
    (before : visited.Nodup) : (visited ++ order.map (·.qualifiedName)).Nodup := by
  induction h with
  | nil => simpa using before
  | other _ _ ih => exact ih before
  | again _ _ _ ih => exact ih before
  | visit _ new _ _ ihInside ihRest =>
    have extended := List.nodup_append.2 ⟨before, List.nodup_singleton _, by
      intro a ha b hb
      rw [List.mem_singleton.1 hb]
      rintro rfl
      exact new ha⟩
    have inside := ihInside extended
    rw [List.append_assoc, List.singleton_append, ← List.map_cons] at inside
    have all := ihRest inside
    rwa [List.append_assoc, ← List.map_append] at all

/-- Every declaration has one order. -/
theorem existsUnique_depthFirst (g : DeclarationGraph) (d : Declaration) :
    ∃! order, g.DepthFirst d order := by
  obtain ⟨above, walk⟩ := g.exists_walk [d.qualifiedName] d.package d.supertypes
  refine ⟨d :: above, ⟨above, walk, rfl⟩, ?_⟩
  rintro order ⟨other, walk', rfl⟩
  rw [walk.unique walk']

theorem DepthFirst.nodup {g : DeclarationGraph} {d : Declaration} {order : List Declaration}
    (h : g.DepthFirst d order) : (order.map (·.qualifiedName)).Nodup := by
  obtain ⟨above, walk, rfl⟩ := h
  exact walk.nodup (List.nodup_singleton _)

end DeclarationGraph

end ModelClasses
