import ModelClasses.Proofs.Hierarchy
import Mathlib.Data.List.Chain
import Mathlib.Logic.Relation

/-! # What is above a declaration

The depth-first order of a hierarchy has all interfaces that are above the declaration, each behind
those of one way that leads up to it. So an interface that no way goes around stands in front of what
it leads to; where several ways lead to an interface, the order of the supertypes decides. -/

namespace ModelClasses

namespace DeclarationGraph

variable {g : DeclarationGraph}

/-- An interface is one of the direct supertypes of a declaration. -/
def Extends (g : DeclarationGraph) (a b : Declaration) : Prop :=
  ∃ t ∈ a.supertypes, g.parent? a.package t = some b

/-- No declaration is above itself. -/
def Acyclic (g : DeclarationGraph) : Prop :=
  ∀ a ∈ g.declarations, ¬ Relation.TransGen g.Extends a a

/-- Every way up from `a` to `c` goes through `b`. -/
def Passes (g : DeclarationGraph) (a b c : Declaration) : Prop :=
  ∀ way : List Declaration, (a :: way).IsChain g.Extends → (a :: way).getLast? = some c →
    b ∈ a :: way

/-- In an order, a declaration stands in front of another one. -/
def Before (order : List Declaration) (a b : Declaration) : Prop := [a, b].Sublist order

theorem passes_self (a c : Declaration) : g.Passes a a c := fun _ _ _ => List.mem_cons_self

theorem get?_of_extends {a b : Declaration} (h : g.Extends a b) : g.get? b.qualifiedName = some b := by
  obtain ⟨t, -, parent⟩ := h
  exact get?_of_parent? parent

/-- Something that falls with every step up shows that no way leads back. -/
theorem acyclic_of_rank (rank : Declaration → Nat)
    (falls : ∀ a ∈ g.declarations, ∀ t ∈ a.supertypes, ∀ b ∈ g.parent? a.package t,
      rank b < rank a) : g.Acyclic := by
  have below {a b : Declaration} (ha : a ∈ g.declarations) (way : Relation.TransGen g.Extends a b) :
      b ∈ g.declarations ∧ rank b < rank a := by
    induction way with
    | single step =>
      obtain ⟨t, ht, parent⟩ := step
      exact ⟨mem_of_get? (get?_of_parent? parent), falls a ha t ht _ parent⟩
    | tail _ step ih =>
      obtain ⟨t, ht, parent⟩ := step
      exact ⟨mem_of_get? (get?_of_parent? parent), (falls _ ih.1 t ht _ parent).trans ih.2⟩
  intro a ha way
  exact Nat.lt_irrefl _ (below ha way).2

theorem before_total {order : List Declaration} {a b : Declaration} (ha : a ∈ order) (hb : b ∈ order)
    (different : a ≠ b) : Before order a b ∨ Before order b a := by
  induction order with
  | nil => cases ha
  | cons x order ih =>
    rcases List.mem_cons.1 ha with rfl | laterA
    · have laterB := (List.mem_cons.1 hb).resolve_left (Ne.symm different)
      exact .inl (.cons_cons a (List.singleton_sublist.2 laterB))
    · rcases List.mem_cons.1 hb with rfl | laterB
      · exact .inr (.cons_cons b (List.singleton_sublist.2 laterA))
      · exact (ih laterA laterB).imp (.cons x) (.cons x)

theorem mem_of_before {front back : List Declaration} {a k : Declaration}
    (nodup : (front ++ a :: back).Nodup) (h : Before (front ++ a :: back) k a) : k ∈ front := by
  have notLater : a ∉ back := (List.nodup_cons.1 (List.nodup_append.1 nodup).2.1).1
  obtain ⟨one, other, split, inFront, behind⟩ := List.sublist_append_iff.1 h
  cases one with
  | nil =>
    rw [List.nil_append] at split
    rw [← split] at behind
    cases behind with
    | cons _ later => exact absurd (later.subset (by simp)) notLater
    | cons_cons _ later => exact absurd (later.subset (by simp)) notLater
  | cons x one =>
    obtain ⟨rfl, -⟩ := List.cons.inj split
    exact inFront.subset List.mem_cons_self

theorem Walk.get?_of_mem {visited : List String} {package : String} {ts : List TypeUsage}
    {order : List Declaration} (h : g.Walk visited package ts order) {x : Declaration}
    (hx : x ∈ order) : g.get? x.qualifiedName = some x := by
  induction h with
  | nil => cases hx
  | other _ _ ih => exact ih hx
  | again _ _ _ ih => exact ih hx
  | visit parent _ _ _ ihInside ihRest =>
    rcases List.mem_append.1 hx with hx | hx
    · rcases List.mem_cons.1 hx with rfl | hx
      · exact get?_of_parent? parent
      · exact ihInside hx
    · exact ihRest hx

/-- When a walk is over, the supertypes that it was for have been visited, and those of every
interface on the way. -/
theorem Walk.closed {visited : List String} {package : String} {ts : List TypeUsage}
    {order : List Declaration} (h : g.Walk visited package ts order) :
    (∀ t ∈ ts, ∀ p, g.parent? package t = some p →
        p.qualifiedName ∈ visited ++ order.map (·.qualifiedName)) ∧
      ∀ x ∈ order, ∀ y, g.Extends x y → y.qualifiedName ∈ visited ++ order.map (·.qualifiedName) := by
  induction h with
  | nil => simp
  | other missing _ ih =>
    refine ⟨fun t ht p parent => ?_, ih.2⟩
    rcases List.mem_cons.1 ht with rfl | ht
    · rw [missing] at parent
      cases parent
    · exact ih.1 t ht p parent
  | again parent seen _ ih =>
    refine ⟨fun t ht q parent' => ?_, ih.2⟩
    rcases List.mem_cons.1 ht with rfl | ht
    · obtain rfl := Option.some.inj (parent.symm.trans parent')
      exact List.mem_append_left _ seen
    · exact ih.1 t ht q parent'
  | @visit visited _ _ _ p above order parent _ _ _ ihInside ihRest =>
    have inside {name : String}
        (h : name ∈ visited ++ [p.qualifiedName] ++ above.map (·.qualifiedName)) :
        name ∈ visited ++ (p :: above ++ order).map (·.qualifiedName) := by
      simp only [List.map_append, List.map_cons, List.mem_append, List.mem_cons] at h ⊢
      tauto
    have rest {name : String}
        (h : name ∈ visited ++ (p :: above).map (·.qualifiedName) ++ order.map (·.qualifiedName)) :
        name ∈ visited ++ (p :: above ++ order).map (·.qualifiedName) := by
      rwa [List.map_append, ← List.append_assoc]
    constructor
    · intro t ht q parent'
      rcases List.mem_cons.1 ht with rfl | ht
      · obtain rfl := Option.some.inj (parent.symm.trans parent')
        simp
      · exact rest (ihRest.1 t ht q parent')
    · intro x hx y above
      rcases List.mem_append.1 hx with hx | hx
      · rcases List.mem_cons.1 hx with rfl | hx
        · obtain ⟨t, ht, parent'⟩ := above
          exact inside (ihInside.1 t ht y parent')
        · exact inside (ihInside.2 x hx y above)
      · exact rest (ihRest.2 x hx y above)

/-- The declaration itself counts as above it when it is found in the graph under its name. -/
theorem DepthFirst.mem_of_reaches {d x : Declaration} {order : List Declaration}
    (h : g.DepthFirst d order) (found : g.get? d.qualifiedName = some d)
    (reach : Relation.ReflTransGen g.Extends d x) : x ∈ order := by
  obtain ⟨above, walk, rfl⟩ := h
  obtain ⟨direct, further⟩ := walk.closed
  induction reach with
  | refl => exact List.mem_cons_self
  | @tail y z _ step ih =>
    have visited : z.qualifiedName ∈ (d :: above).map (·.qualifiedName) := by
      rcases List.mem_cons.1 ih with rfl | hy
      · obtain ⟨t, ht, parent⟩ := step
        exact direct t ht z parent
      · exact further y hy z step
    obtain ⟨other, ho, same⟩ := List.mem_map.1 visited
    -- a visited declaration is the one that its name finds
    have named : g.get? other.qualifiedName = some other := by
      rcases List.mem_cons.1 ho with rfl | ho
      · exact found
      · exact walk.get?_of_mem ho
    rw [same, get?_of_extends step] at named
    rw [Option.some.inj named]
    exact ho

/-- A way up, all of whose other declarations stand in front of its last one. -/
structure IsWay (g : DeclarationGraph) (order way : List Declaration) (x : Declaration) : Prop where
  chain : way.IsChain g.Extends
  last : way.getLast? = some x
  before : ∀ y ∈ way, y = x ∨ Before order y x

theorem IsWay.mono {order later way : List Declaration} {x : Declaration} (h : g.IsWay order way x)
    (sublist : order.Sublist later) : g.IsWay later way x :=
  ⟨h.chain, h.last, fun y hy => (h.before y hy).imp_right fun before => before.trans sublist⟩

theorem isWay_single (order : List Declaration) (x : Declaration) : g.IsWay order [x] x :=
  ⟨.singleton x, rfl, fun _ hy => .inl (List.mem_singleton.1 hy)⟩

theorem IsWay.cons {order way : List Declaration} {a p x : Declaration}
    (h : g.IsWay order (p :: way) x) (step : g.Extends a p) (hx : x ∈ order) :
    g.IsWay (a :: order) (a :: p :: way) x := by
  refine ⟨.cons_cons step h.chain, h.last, fun y hy => ?_⟩
  rcases List.mem_cons.1 hy with rfl | hy
  · exact .inr (.cons_cons _ (List.singleton_sublist.2 hx))
  · exact (h.before y hy).imp_right fun before => before.trans (List.sublist_cons_self a order)

theorem IsWay.reaches {order way : List Declaration} {a x : Declaration}
    (h : g.IsWay order (a :: way) x) : Relation.ReflTransGen g.Extends a x := by
  refine List.relationReflTransGen_of_exists_isChain_cons way h.chain ?_
  have last := h.last
  rw [List.getLast?_eq_some_getLast (List.cons_ne_nil a way)] at last
  exact Option.some.inj last

theorem Walk.exists_way {visited : List String} {package : String} {ts : List TypeUsage}
    {order : List Declaration} (h : g.Walk visited package ts order) {x : Declaration}
    (hx : x ∈ order) :
    ∃ t ∈ ts, ∃ p, g.parent? package t = some p ∧ ∃ way, g.IsWay order (p :: way) x := by
  induction h with
  | nil => cases hx
  | other _ _ ih =>
    obtain ⟨t, ht, found⟩ := ih hx
    exact ⟨t, List.mem_cons_of_mem _ ht, found⟩
  | again _ _ _ ih =>
    obtain ⟨t, ht, found⟩ := ih hx
    exact ⟨t, List.mem_cons_of_mem _ ht, found⟩
  | @visit _ _ t _ p above order parent _ _ _ ihInside ihRest =>
    rcases List.mem_append.1 hx with hx | hx
    · refine ⟨t, List.mem_cons_self, p, parent, ?_⟩
      rcases List.mem_cons.1 hx with rfl | hx
      · exact ⟨[], isWay_single _ x⟩
      · obtain ⟨t', ht', p', parent', way, isWay⟩ := ihInside hx
        exact ⟨p' :: way,
          (isWay.cons ⟨t', ht', parent'⟩ hx).mono (List.sublist_append_left _ _)⟩
    · obtain ⟨t', ht', p', parent', way, isWay⟩ := ihRest hx
      exact ⟨t', List.mem_cons_of_mem _ ht', p', parent', way,
        isWay.mono (List.sublist_append_right _ _)⟩

theorem DepthFirst.exists_way {d x : Declaration} {order : List Declaration}
    (h : g.DepthFirst d order) (hx : x ∈ order) : ∃ way, g.IsWay order (d :: way) x := by
  obtain ⟨above, walk, rfl⟩ := h
  rcases List.mem_cons.1 hx with rfl | hx
  · exact ⟨[], isWay_single _ x⟩
  · obtain ⟨t, ht, p, parent, way, isWay⟩ := walk.exists_way hx
    exact ⟨p :: way, isWay.cons ⟨t, ht, parent⟩ hx⟩

/-- What no way goes around stands in front. -/
theorem DepthFirst.before_of_passes {d j i : Declaration} {order : List Declaration}
    (h : g.DepthFirst d order) (hi : i ∈ order) (passes : g.Passes d j i) (different : j ≠ i) :
    Before order j i := by
  obtain ⟨way, chain, last, before⟩ := h.exists_way hi
  exact (before j (passes way chain last)).resolve_left different

end DeclarationGraph

end ModelClasses
