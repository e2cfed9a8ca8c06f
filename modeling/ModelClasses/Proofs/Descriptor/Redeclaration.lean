import ModelClasses.Proofs.Hierarchy.Reachable
import ModelClasses.Proofs.Lookup

/-! # Properties that are declared again

A descriptor has one property of a name, the one of the first interface in depth-first order that
declares the name. An interface that declares a property of one above it again takes its place where
it stands in front of that one. This is so wherever every way up goes through it, and at the
declaration itself; where supertypes lead past it first, the property above stays. -/

namespace ModelClasses

namespace Descriptor

open DeclarationGraph

/-- A declaration has a property of a name. -/
def Declares (d : Declaration) (name : String) : Prop := ∃ p ∈ d.properties, p.name = name

/-- The first property of a name in an order, beside the declaration that it is written in. -/
def firstDeclared? (order : List Declaration) (name : String) :
    Option (Declaration × PropertyDeclaration) :=
  (written order).find? fun a => a.2.name == name

theorem keptAfter_filter (seen : List String) (name : String)
    (ps : List (Declaration × PropertyDeclaration)) :
    (keptAfter seen ps).filter (fun a => a.2.name == name) =
      if name ∈ seen then [] else (ps.find? fun a => a.2.name == name).toList := by
  induction ps generalizing seen with
  | nil => by_cases h : name ∈ seen <;> simp [keptAfter, h]
  | cons a ps ih =>
    by_cases old : a.2.name ∈ seen
    · rw [keptAfter_cons_seen old, ih]
      by_cases h : name ∈ seen
      · rw [if_pos h, if_pos h]
      · have other : a.2.name ≠ name := fun same => h (same ▸ old)
        rw [if_neg h, if_neg h, List.find?_cons_of_neg (by simpa using other)]
    · rw [keptAfter_cons_new old]
      by_cases same : a.2.name = name
      · rw [List.filter_cons_of_pos (by simpa using same), ih, if_pos (by simp [same]),
          if_neg (same ▸ old), List.find?_cons_of_pos (by simpa using same)]
        rfl
      · rw [List.filter_cons_of_neg (by simpa using same), ih,
          List.find?_cons_of_neg (by simpa using same)]
        simp [Ne.symm same]

theorem kept_filter (order : List Declaration) (name : String) :
    (kept order).filter (fun a => a.2.name == name) = (firstDeclared? order name).toList := by
  rw [kept_eq, keptAfter_filter, if_neg List.not_mem_nil]
  rfl

theorem firstDeclared?_eq_some {order : List Declaration} {name : String}
    {a : Declaration × PropertyDeclaration} (h : firstDeclared? order name = some a) :
    ∃ front back, order = front ++ a.1 :: back ∧ Declares a.1 name ∧
      ∀ k ∈ front, ¬ Declares k name := by
  rw [firstDeclared?, written, List.find?_flatMap] at h
  obtain ⟨front, d, back, split, own, others⟩ := List.findSome?_eq_some_iff.1 h
  have inside := List.mem_of_find?_eq_some own
  have named := List.find?_some own
  obtain ⟨p, hp, rfl⟩ := List.mem_map.1 inside
  refine ⟨front, back, split, ⟨p, hp, by simpa using named⟩, ?_⟩
  rintro k hk ⟨q, hq, same⟩
  have none := List.find?_eq_none.1 (others k hk) (k, q) (List.mem_map_of_mem hq)
  exact none (by simpa using same)

theorem isSome_firstDeclared? {order : List Declaration} {name : String} {d : Declaration}
    (hd : d ∈ order) (h : Declares d name) : (firstDeclared? order name).isSome := by
  obtain ⟨p, hp, same⟩ := h
  refine List.find?_isSome.2 ⟨(d, p), ?_, by simpa using same⟩
  exact List.mem_flatMap.2 ⟨d, hd, List.mem_map_of_mem hp⟩

/-- The names that are kept are those that an interface of the order declares. -/
theorem mem_names_kept {order : List Declaration} {name : String} :
    name ∈ (kept order).map (·.2.name) ↔ ∃ k ∈ order, Declares k name := by
  constructor
  · intro h
    obtain ⟨a, ha, rfl⟩ := List.mem_map.1 h
    rw [kept_eq] at ha
    obtain ⟨k, hk, own⟩ := List.mem_flatMap.1 (mem_of_mem_keptAfter ha)
    obtain ⟨p, hp, rfl⟩ := List.mem_map.1 own
    exact ⟨k, hk, p, hp, rfl⟩
  · rintro ⟨k, hk, h⟩
    obtain ⟨a, first⟩ := Option.isSome_iff_exists.1 (isSome_firstDeclared? hk h)
    have one := kept_filter order name
    rw [first, Option.toList_some] at one
    have ha : a ∈ (kept order).filter fun a => a.2.name == name := one ▸ List.mem_singleton_self a
    obtain ⟨inside, named⟩ := List.mem_filter.1 ha
    exact List.mem_map.2 ⟨a, inside, beq_iff_eq.1 named⟩

/-- The first property of a name is in the interface that no other one with the name stands before. -/
theorem qualifiedName_firstDeclared? {order : List Declaration} {name : String} {i : Declaration}
    {a : Declaration × PropertyDeclaration} (nodup : (order.map (·.qualifiedName)).Nodup)
    (declared : firstDeclared? order name = some a) (hi : i ∈ order) (declares : Declares i name) :
    a.1.qualifiedName = i.qualifiedName ↔ ∀ k, Before order k i → ¬ Declares k name := by
  obtain ⟨front, back, rfl, own, others⟩ := firstDeclared?_eq_some declared
  constructor
  · intro same k before
    obtain rfl : a.1 = i := List.inj_on_of_nodup_map nodup (by simp) hi same
    exact others k (mem_of_before nodup.of_map before)
  · intro none
    rcases List.mem_append.1 hi with inFront | behind
    · exact absurd declares (others i inFront)
    · rcases List.mem_cons.1 behind with rfl | behind
      · rfl
      · have later : Before (a.1 :: back) a.1 i := .cons_cons a.1 (List.singleton_sublist.2 behind)
        exact absurd own (none a.1 (later.trans (List.sublist_append_right _ _)))

theorem declaredIn_describeProperty {g : DeclarationGraph} {s : Settings} {d : Declaration}
    {p : PropertyDeclaration} {q : PropertyDescriptor}
    (h : (describeProperty g s d p).result = .ok q) : q.declaredIn = d.qualifiedName := by
  obtain ⟨type, -, h⟩ := Outcome.bind_ok_iff.1 (Outcome.mapError_ok_iff.1 h)
  obtain ⟨annotations, -, h⟩ := Outcome.bind_ok_iff.1 h
  cases h
  rfl

/-- A descriptor has the first declared property of a name, and no other one. -/
theorem properties_filter {g : DeclarationGraph} {s : Settings} {d : Declaration} {c : Collection}
    {order : List Declaration} (h : (collectAll g s d).result = .ok c) (first : g.DepthFirst d order)
    {name : String} {a : Declaration × PropertyDeclaration}
    (declared : firstDeclared? order name = some a) :
    ∃ q, c.properties.filter (·.name == name) = [q] ∧
      (describeProperty g s a.1 a.2).result = .ok q := by
  have each := List.rel_filter (p := fun a => a.2.name == name) (q := (·.name == name)) ?_
    (collectAll_properties h first)
  · rw [kept_filter, declared, Option.toList_some, List.forall₂_cons_left_iff] at each
    obtain ⟨q, _, described, ⟨⟩, one⟩ := each
    exact ⟨q, one, described⟩
  · intro a q described
    simp only [(describeProperty_ok described).1]

section

variable {g : DeclarationGraph} {s : Settings} {d : Declaration} {c : Collection}
  {order : List Declaration} (h : (collectAll g s d).result = .ok c) (first : g.DepthFirst d order)
  {p p' : PropertyDescriptor} (hp : p ∈ c.properties)

include h first hp

theorem firstDeclared?_of_mem :
    ∃ a, firstDeclared? order p.name = some a ∧ (describeProperty g s a.1 a.2).result = .ok p := by
  obtain ⟨a, ha, described⟩ := exists_of_mem_right (collectAll_properties h first) hp
  have named := (describeProperty_ok described).1
  have selected : a ∈ (kept order).filter fun a => a.2.name == p.name :=
    List.mem_filter.2 ⟨ha, by simp [named]⟩
  rw [kept_filter] at selected
  exact ⟨a, by simpa using selected, described⟩

theorem eq_of_name (hp' : p' ∈ c.properties) (same : p'.name = p.name) : p' = p := by
  obtain ⟨a, declared, -⟩ := firstDeclared?_of_mem h first hp
  obtain ⟨q, one, -⟩ := properties_filter h first declared
  have only {r : PropertyDescriptor} (hr : r ∈ c.properties) (named : r.name = p.name) : r = q := by
    have inside : r ∈ c.properties.filter (·.name == p.name) :=
      List.mem_filter.2 ⟨hr, by simpa using named⟩
    rw [one] at inside
    exact List.mem_singleton.1 inside
  rw [only hp' same, only hp rfl]

/-- A property that the declaration has itself is its own one, since nothing stands before it. -/
theorem declaredIn_eq_iff : p.declaredIn = d.qualifiedName ↔ Declares d p.name := by
  obtain ⟨a, declared, described⟩ := firstDeclared?_of_mem h first hp
  have nodup := first.nodup
  obtain ⟨above, -, rfl⟩ := first
  rw [declaredIn_describeProperty described]
  constructor
  · intro same
    obtain ⟨front, back, split, declares, -⟩ := firstDeclared?_eq_some declared
    obtain rfl : a.1 = d :=
      List.inj_on_of_nodup_map nodup (by rw [split]; simp) List.mem_cons_self same
    exact declares
  · intro declares
    refine (qualifiedName_firstDeclared? nodup declared List.mem_cons_self declares).2 ?_
    intro k before
    rw [← List.nil_append (d :: above)] at before nodup
    cases mem_of_before nodup.of_map before

end

theorem build_redeclared {g : DeclarationGraph} {s : Settings} {package : String} {d i j : Declaration}
    {made : Descriptor} {order : List Declaration} {name : String}
    (distinct : (g.declarations.map (·.qualifiedName)).Nodup) (acyclic : g.Acyclic)
    (inside : d ∈ g.declarations) (first : g.DepthFirst d order)
    (built : (build g s package d).result = .ok made)
    (toI : Relation.ReflTransGen g.Extends d i) (toJ : Relation.ReflTransGen g.Extends d j)
    (above : Relation.TransGen g.Extends j i) (declaresI : Declares i name)
    (declaresJ : Declares j name) :
    ∃ a q, firstDeclared? order name = some a ∧ made.properties.filter (·.name == name) = [q] ∧
      (describeProperty g s a.1 a.2).result = .ok q ∧
      (q.declaredIn = i.qualifiedName ↔ ∀ k, Before order k i → ¬ Declares k name) ∧
      (Before order i j ∨ Before order j i) ∧
      (Before order j i → q.declaredIn ≠ i.qualifiedName) ∧
      (j = d ∨ g.Passes d j i → Before order j i) := by
  have found : g.get? d.qualifiedName = some d := (get?_eq_some_iff distinct).2 ⟨inside, rfl⟩
  have hi := first.mem_of_reaches found toI
  have hj := first.mem_of_reaches found toJ
  have different : j ≠ i := by
    rintro rfl
    obtain ⟨_, -, step⟩ := Relation.TransGen.tail'_iff.1 above
    exact acyclic j (mem_of_get? (get?_of_extends step)) above
  obtain ⟨a, declared⟩ := Option.isSome_iff_exists.1 (isSome_firstDeclared? hi declaresI)
  obtain ⟨-, _, _, _, c, -, -, -, -, collected, rfl⟩ := build_ok_iff.1 built
  obtain ⟨q, one, described⟩ := properties_filter collected first declared
  have whose : q.declaredIn = i.qualifiedName ↔ ∀ k, Before order k i → ¬ Declares k name := by
    rw [declaredIn_describeProperty described]
    exact qualifiedName_firstDeclared? first.nodup declared hi declaresI
  refine ⟨a, q, declared, one, described, whose, (before_total hj hi different).symm, ?_, ?_⟩
  · intro before same
    exact whose.1 same j before declaresJ
  · rintro (rfl | passes)
    · exact first.before_of_passes hi (passes_self j i) different
    · exact first.before_of_passes hi passes different

/-- Two interfaces lead to one that declares a property again, and all ways up go through that. -/
theorem build_redeclared_diamond :
    let d : Declaration := {
      package := "p", name := "D", kind := .interface
      supertypes := [⟨"K", [], false⟩, ⟨"L", [], false⟩]
      annotations := [⟨"Generate", [⟨"name", .string "Made"⟩]⟩] }
    let k : Declaration := {
      package := "p", name := "K", kind := .interface, supertypes := [⟨"J", [], false⟩] }
    let l : Declaration := {
      package := "p", name := "L", kind := .interface, supertypes := [⟨"J", [], false⟩] }
    let j : Declaration := {
      package := "p", name := "J", kind := .interface, supertypes := [⟨"I", [], false⟩]
      properties := [⟨"x", ⟨"String", [], false⟩, []⟩] }
    let i : Declaration := {
      package := "p", name := "I", kind := .interface
      properties := [⟨"x", ⟨"String", [], true⟩, []⟩] }
    let g : DeclarationGraph := ⟨[d, i, j, k, l]⟩
    ∃ made, (build g {} "p" d).result = .ok made ∧ ∃ q, made.properties.filter (·.name == "x") = [q] ∧
      q.declaredIn ≠ "p.I" := by
  intro d k l j i g
  have aboveJ : g.Walk ["p.D", "p.K", "p.J"] "p" j.supertypes (i :: [] ++ []) :=
    .visit rfl (by decide) (.nil _ _) (.nil _ _)
  have aboveK : g.Walk ["p.D", "p.K"] "p" k.supertypes (j :: [i] ++ []) :=
    .visit rfl (by decide) aboveJ (.nil _ _)
  have aboveL : g.Walk ["p.D", "p.K", "p.J", "p.I", "p.L"] "p" l.supertypes [] :=
    .again (p := j) rfl (by decide) (.nil _ _)
  have afterK : g.Walk ["p.D", "p.K", "p.J", "p.I"] "p" [⟨"L", [], false⟩] (l :: [] ++ []) :=
    .visit rfl (by decide) aboveL (.nil _ _)
  have aboveD : g.Walk ["p.D"] "p" d.supertypes (k :: [j, i] ++ [l]) :=
    .visit rfl (by decide) aboveK afterK
  have depthFirst : g.DepthFirst d [d, k, j, i, l] := ⟨[k, j, i, l], aboveD, rfl⟩
  have collected := (collectAll_ok_iff (s := {}) depthFirst).2
    (.cons rfl (.cons rfl (.cons rfl (.cons rfl (.cons rfl (.nil _ _))))))
  have built : (build g {} "p" d).result = .ok _ :=
    build_ok_iff.2 ⟨rfl, _, _, _, _, rfl, rfl, by decide, rfl, collected, rfl⟩
  have acyclic : g.Acyclic :=
    acyclic_of_rank (fun a => ["p.I", "p.J", "p.K", "p.L", "p.D"].idxOf a.qualifiedName) (by decide)
  have toJ : Relation.ReflTransGen g.Extends d j :=
    .tail (.single ⟨_, List.mem_cons_self, rfl⟩) ⟨_, List.mem_cons_self, rfl⟩
  have extend : g.Extends j i := ⟨_, List.mem_cons_self, rfl⟩
  obtain ⟨-, q, -, one, -, -, -, shadows, -⟩ := build_redeclared (by decide) acyclic
    List.mem_cons_self depthFirst built (toJ.tail extend) toJ (.single extend)
    ⟨_, List.mem_cons_self, rfl⟩ ⟨_, List.mem_cons_self, rfl⟩
  have before : Before [d, k, j, i, l] j i :=
    .cons _ (.cons _ (.cons_cons _ (.cons_cons _ (.cons _ .slnil))))
  exact ⟨_, built, q, one, shadows before⟩

/-- An interface is named before the one that declares its property again. The property keeps the type
that it has above. -/
theorem build_redeclared_above :
    let d : Declaration := {
      package := "p", name := "D", kind := .interface
      supertypes := [⟨"I", [], false⟩, ⟨"J", [], false⟩]
      annotations := [⟨"Generate", [⟨"name", .string "Made"⟩]⟩] }
    let i : Declaration := {
      package := "p", name := "I", kind := .interface
      properties := [⟨"x", ⟨"String", [], true⟩, []⟩] }
    let j : Declaration := {
      package := "p", name := "J", kind := .interface, supertypes := [⟨"I", [], false⟩]
      properties := [⟨"x", ⟨"String", [], false⟩, []⟩] }
    let g : DeclarationGraph := ⟨[d, i, j]⟩
    (g.declarations.map (·.qualifiedName)).Nodup ∧ g.Acyclic ∧ g.Extends d i ∧ g.Extends d j ∧
      g.Extends j i ∧ Declares i "x" ∧ Declares j "x" ∧
      ∃ made q, (build g {} "p" d).result = .ok made ∧ made.properties = [q] ∧ q.name = "x" ∧
        q.declaredIn = i.qualifiedName ∧ q.type.nullable = true := by
  intro d i j g
  have aboveJ : g.Walk ["p.D", "p.I", "p.J"] "p" j.supertypes [] :=
    .again (p := i) rfl (by decide) (.nil _ _)
  have afterI : g.Walk ["p.D", "p.I"] "p" [⟨"J", [], false⟩] (j :: [] ++ []) :=
    .visit rfl (by decide) aboveJ (.nil _ _)
  have aboveD : g.Walk ["p.D"] "p" d.supertypes (i :: [] ++ [j]) :=
    .visit rfl (by decide) (.nil _ _) afterI
  have depthFirst : g.DepthFirst d [d, i, j] := ⟨[i, j], aboveD, rfl⟩
  have collected := (collectAll_ok_iff (s := {}) depthFirst).2
    (.cons rfl (.cons rfl (.cons rfl (.nil _ _))))
  have built : (build g {} "p" d).result = .ok _ :=
    build_ok_iff.2 ⟨rfl, _, _, _, _, rfl, rfl, by decide, rfl, collected, rfl⟩
  have acyclic : g.Acyclic :=
    acyclic_of_rank (fun a => ["p.I", "p.J", "p.D"].idxOf a.qualifiedName) (by decide)
  refine ⟨by decide, acyclic, ⟨_, List.mem_cons_self, rfl⟩,
    ⟨_, List.mem_cons_of_mem _ List.mem_cons_self, rfl⟩, ⟨_, List.mem_cons_self, rfl⟩,
    ⟨_, List.mem_cons_self, rfl⟩, ⟨_, List.mem_cons_self, rfl⟩, ?_⟩
  exact ⟨_, _, built, rfl, rfl, rfl, rfl⟩

end Descriptor

end ModelClasses
