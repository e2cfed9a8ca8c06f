import ModelClasses.Proofs.Outcome
import ModelClasses.TraitSource.Declarations

/-! # Supertypes that are added

Implementations are applied one after the other, each to the first declaration of its target. Whether
one counts depends on the names of the interfaces only, which no addition changes. So all of them are
applied at once: the first declaration of each qualified name gets the supertypes of its own
implementations, in their order. -/

namespace ModelClasses.TraitSource

namespace Implementation

/-- A declaration that has got further supertypes. -/
def Extends (d d' : Declaration) : Prop :=
  ∃ more, d' = { d with supertypes := d.supertypes ++ more }

theorem Extends.refl (d : Declaration) : Extends d d := ⟨[], by simp⟩

/-- It is found under the same name, and is of the same kind. -/
theorem Extends.same {d d' : Declaration} (h : Extends d d') :
    d'.qualifiedName = d.qualifiedName ∧ d'.kind = d.kind := by
  obtain ⟨_, rfl⟩ := h
  exact ⟨rfl, rfl⟩

/-- Declarations with what is added to the supertypes of the first one of each qualified name, unless
the name has been seen. -/
def addToFirst (more : String → List TypeUsage) : List String → List Declaration → List Declaration
  | _, [] => []
  | seen, d :: rest =>
    (if d.qualifiedName ∈ seen then d
      else { d with supertypes := d.supertypes ++ more d.qualifiedName }) ::
      addToFirst more (d.qualifiedName :: seen) rest

/-- The supertypes that implementations add to the first declaration of a qualified name. -/
def additions (is : List Implementation) (ds : List Declaration) (qualified : String) :
    List TypeUsage :=
  (is.filter fun i => i.counts ds && i.qualifiedTarget == qualified).map (·.supertype)

section

variable {more more' : String → List TypeUsage} {seen : List String} {ds : List Declaration}

theorem addToFirst_congr (same : ∀ d ∈ ds, more d.qualifiedName = more' d.qualifiedName) :
    addToFirst more seen ds = addToFirst more' seen ds := by
  induction ds generalizing seen with
  | nil => rfl
  | cons d ds ih =>
    obtain ⟨first, later⟩ := List.forall_mem_cons.1 same
    rw [addToFirst, addToFirst, first, ih later]

theorem addToFirst_eq_self
    (none : ∀ d ∈ ds, d.qualifiedName ∉ seen → more d.qualifiedName = []) :
    addToFirst more seen ds = ds := by
  induction ds generalizing seen with
  | nil => rfl
  | cons d ds ih =>
    obtain ⟨first, later⟩ := List.forall_mem_cons.1 none
    rw [addToFirst, ih fun x inside unseen => later x inside fun before =>
      unseen (List.mem_cons_of_mem _ before)]
    split
    · rfl
    · rename_i unseen
      rw [first unseen, List.append_nil]

theorem addToFirst_addToFirst (more more' : String → List TypeUsage) (seen : List String)
    (ds : List Declaration) :
    addToFirst more' seen (addToFirst more seen ds) =
      addToFirst (fun q => more q ++ more' q) seen ds := by
  induction ds generalizing seen with
  | nil => rfl
  | cons d ds ih =>
    by_cases before : d.qualifiedName ∈ seen
    · simp only [addToFirst, if_pos before, ih]
    · have kept : ∀ types, { d with supertypes := types }.qualifiedName = d.qualifiedName :=
        fun _ => rfl
      simp only [addToFirst, if_neg before, kept, ih, List.append_assoc]

theorem extends_addToFirst (more : String → List TypeUsage) (seen : List String)
    (ds : List Declaration) : List.Forall₂ Extends ds (addToFirst more seen ds) := by
  induction ds generalizing seen with
  | nil => exact .nil
  | cons d ds ih =>
    refine .cons ?_ (ih _)
    split
    · exact Extends.refl d
    · exact ⟨_, rfl⟩

theorem getElem?_addToFirst (k : Nat) :
    (addToFirst more seen ds)[k]? = ds[k]?.map fun d =>
      if d.qualifiedName ∈ seen ∨ d.qualifiedName ∈ (ds.take k).map (·.qualifiedName) then d
      else { d with supertypes := d.supertypes ++ more d.qualifiedName } := by
  induction ds generalizing seen k with
  | nil => rfl
  | cons d ds ih =>
    cases k with
    | zero => simp [addToFirst]
    | succ k =>
      rw [addToFirst, List.getElem?_cons_succ, List.getElem?_cons_succ, ih]
      congr 1
      funext x
      simp only [List.take_succ_cons, List.map_cons, List.mem_cons, or_left_comm, or_assoc]

end

theorem counts_of_extends {ds ds' : List Declaration} (h : List.Forall₂ Extends ds ds')
    (i : Implementation) : i.counts ds' = i.counts ds := by
  rw [counts, counts]
  congr 1
  induction h with
  | nil => rfl
  | cons first _ ih =>
    rw [declaresInterface, declaresInterface, List.any_cons, List.any_cons, first.same.1,
      first.same.2]
    exact congrArg _ ih

theorem additions_cons (i : Implementation) (is : List Implementation) (ds : List Declaration)
    (qualified : String) :
    additions (i :: is) ds qualified = additions [i] ds qualified ++ additions is ds qualified := by
  simp only [additions, ← List.map_append, ← List.filter_append, List.singleton_append]

theorem additions_of_extends {ds ds' : List Declaration} (h : List.Forall₂ Extends ds ds')
    (is : List Implementation) : additions is ds' = additions is ds := by
  funext qualified
  simp only [additions, counts_of_extends h]

theorem modifyFirst_eq_addToFirst {name : String} (t : TypeUsage) {seen : List String}
    (unseen : name ∉ seen) (ds : List Declaration) :
    modifyFirst name (addSupertype t) ds =
      addToFirst (fun q => if q = name then [t] else []) seen ds := by
  induction ds generalizing seen with
  | nil => rfl
  | cons d ds ih =>
    rw [modifyFirst, addToFirst]
    by_cases target : d.qualifiedName = name
    · subst target
      have rest : addToFirst (fun q => if q = d.qualifiedName then [t] else [])
          (d.qualifiedName :: seen) ds = ds := by
        refine addToFirst_eq_self fun x _ new => if_neg fun same => new ?_
        rw [same]
        exact List.mem_cons_self
      rw [if_pos (beq_self_eq_true _), if_neg unseen, if_pos rfl, rest, addSupertype]
    · have later : name ∉ d.qualifiedName :: seen := by
        simp [unseen, Ne.symm target]
      rw [if_neg (by simpa using target), ← ih later, if_neg target, List.append_nil, ite_self]

theorem result_applyTo (ds : List Declaration) (i : Implementation) :
    (applyTo ds i).result = .ok (addToFirst (additions [i] ds) [] ds) := by
  rw [applyTo]
  cases counting : i.counts ds with
  | false =>
    have none : addToFirst (additions [i] ds) [] ds = ds :=
      addToFirst_eq_self fun _ _ _ => by simp [additions, counting]
    rw [none]
    rfl
  | true =>
    have one : additions [i] ds = fun q => if q = i.qualifiedTarget then [i.supertype] else [] := by
      funext q
      by_cases target : q = i.qualifiedTarget
      · simp [additions, counting, target]
      · simp [additions, counting, target, Ne.symm target]
    rw [one, ← modifyFirst_eq_addToFirst i.supertype List.not_mem_nil ds]
    simp only [Bool.not_true, Bool.false_eq_true, if_false]
    split
    · rfl
    · rename_i missing
      -- Without a declaration of the target, nothing is changed.
      have unchanged : modifyFirst i.qualifiedTarget (addSupertype i.supertype) ds = ds := by
        rw [modifyFirst_eq_addToFirst i.supertype List.not_mem_nil]
        refine addToFirst_eq_self fun d inside _ => if_neg fun target => missing ?_
        exact List.any_eq_true.2 ⟨d, inside, beq_iff_eq.2 target⟩
      rw [unchanged]
      rfl

theorem result_foldlM_applyTo (is : List Implementation) (ds : List Declaration) :
    (is.foldlM applyTo ds).result = .ok (addToFirst (additions is ds) [] ds) := by
  induction is generalizing ds with
  | nil =>
    rw [addToFirst_eq_self fun _ _ _ => rfl]
    rfl
  | cons i is ih =>
    have extended := extends_addToFirst (additions [i] ds) [] ds
    rw [List.foldlM_cons, Outcome.bind_ok_iff]
    refine ⟨_, result_applyTo ds i, ?_⟩
    rw [ih, additions_of_extends extended, addToFirst_addToFirst]
    simp only [← additions_cons]

end Implementation

/-- What is read of a file is what its items declare, with all that its implementations add. -/
theorem declarationsOf_ok_iff {o : Origin} {items : List SourceItem} {g : DeclarationGraph} :
    (declarationsOf o items).result = .ok g ↔
      ∃ c, (SourceItem.contents o items).result = .ok c ∧
        g.declarations = Implementation.addToFirst
          (Implementation.additions c.implementations c.declarations) [] c.declarations := by
  rw [declarationsOf, Outcome.bind_ok_iff]
  refine exists_congr fun c => and_congr_right fun _ => ?_
  rw [Outcome.bind_ok_iff]
  simp only [Implementation.result_foldlM_applyTo, Except.ok.injEq, exists_eq_left']
  have whole (ds : List Declaration) : DeclarationGraph.ofList ds = ⟨ds⟩ :=
    congrArg DeclarationGraph.mk (DeclarationGraph.declarations_ofList ds)
  rw [Outcome.result_pure, Except.ok.injEq, whole, eq_comm, DeclarationGraph.mk.injEq]

end ModelClasses.TraitSource
