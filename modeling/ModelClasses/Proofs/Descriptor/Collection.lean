import ModelClasses.Descriptor
import ModelClasses.Proofs.Hierarchy
import ModelClasses.Proofs.Outcome

/-! # What is collected from a hierarchy

The collection that goes on along a walk adds up to what the order of the walk gives at once: all
properties in that order without those of a name that is there already, and the files of the
interfaces that are left with a property. The step for one interface is told apart from the run, so
that the sets that are carried along occur in the step alone. -/

namespace ModelClasses

namespace Descriptor

/-- The properties of declarations, each beside the declaration that it is written in. -/
def written (order : List Declaration) : List (Declaration × PropertyDeclaration) :=
  order.flatMap fun d => d.properties.map fun p => (d, p)

def sameName (a b : Declaration × PropertyDeclaration) : Bool := a.2.name == b.2.name

/-- The properties of an order without every later one of a name that has been there. -/
def kept (order : List Declaration) : List (Declaration × PropertyDeclaration) :=
  (written order).eraseDupsBy sameName

/-- The properties whose names have not been seen, each name once. -/
def keptAfter (seen : List String) (ps : List (Declaration × PropertyDeclaration)) :
    List (Declaration × PropertyDeclaration) :=
  (ps.filter fun a => !seen.contains a.2.name).eraseDupsBy sameName

theorem written_cons (d : Declaration) (order : List Declaration) :
    written (d :: order) = d.properties.map (fun p => (d, p)) ++ written order := by
  rw [written, List.flatMap_cons]
  rfl

theorem kept_eq (order : List Declaration) : kept order = keptAfter [] (written order) := by
  simp [kept, keptAfter]

theorem keptAfter_congr {seen seen' : List String} (h : ∀ name, name ∈ seen ↔ name ∈ seen')
    (ps : List (Declaration × PropertyDeclaration)) : keptAfter seen ps = keptAfter seen' ps := by
  simp [keptAfter, h]

theorem keptAfter_cons_seen {seen : List String} {a : Declaration × PropertyDeclaration}
    (h : a.2.name ∈ seen) (ps : List (Declaration × PropertyDeclaration)) :
    keptAfter seen (a :: ps) = keptAfter seen ps := by
  simp [keptAfter, h]

theorem keptAfter_cons_new {seen : List String} {a : Declaration × PropertyDeclaration}
    (h : a.2.name ∉ seen) (ps : List (Declaration × PropertyDeclaration)) :
    keptAfter seen (a :: ps) = a :: keptAfter (a.2.name :: seen) ps := by
  have inside : (a :: ps).filter (fun b => !seen.contains b.2.name) =
      a :: ps.filter fun b => !seen.contains b.2.name := by simp [h]
  rw [keptAfter, inside, List.eraseDupsBy_cons, List.filter_filter, keptAfter]
  congr 2
  apply List.filter_congr
  intro b _
  simp [sameName]

theorem keptAfter_append (seen : List String) (xs ys : List (Declaration × PropertyDeclaration)) :
    keptAfter seen (xs ++ ys) =
      keptAfter seen xs ++ keptAfter ((keptAfter seen xs).map (·.2.name) ++ seen) ys := by
  induction xs generalizing seen with
  | nil => rfl
  | cons a xs ih =>
    by_cases h : a.2.name ∈ seen
    · rw [List.cons_append, keptAfter_cons_seen h, keptAfter_cons_seen h, ih]
    · rw [List.cons_append, keptAfter_cons_new h, keptAfter_cons_new h, ih, List.cons_append]
      congr 2
      apply keptAfter_congr
      intro name
      simp [or_left_comm]

theorem firstOfName_eq (d : Declaration) (seen : List String) (ps : List PropertyDeclaration) :
    (firstOfName seen ps).map (fun p => (d, p)) = keptAfter seen (ps.map fun p => (d, p)) := by
  induction ps generalizing seen with
  | nil => rfl
  | cons p ps ih =>
    rw [List.map_cons]
    by_cases h : p.name ∈ seen
    · rw [firstOfName, if_pos (by simpa using h), ih, keptAfter_cons_seen h]
    · rw [firstOfName, if_neg (by simpa using h), List.map_cons, ih, keptAfter_cons_new h]

theorem mem_of_mem_keptAfter {seen : List String} {ps : List (Declaration × PropertyDeclaration)}
    {a : Declaration × PropertyDeclaration} (h : a ∈ keptAfter seen ps) : a ∈ ps := by
  induction ps generalizing seen with
  | nil => exact h
  | cons b ps ih =>
    by_cases hb : b.2.name ∈ seen
    · rw [keptAfter_cons_seen hb] at h
      exact List.mem_cons_of_mem b (ih h)
    · rw [keptAfter_cons_new hb, List.mem_cons] at h
      rcases h with rfl | h
      · exact List.mem_cons_self
      · exact List.mem_cons_of_mem b (ih h)

/-- Of what is kept, no name is there twice, and none that has been seen. -/
theorem names_keptAfter (seen : List String) (ps : List (Declaration × PropertyDeclaration)) :
    ((keptAfter seen ps).map (·.2.name)).Nodup ∧ ∀ a ∈ keptAfter seen ps, a.2.name ∉ seen := by
  induction ps generalizing seen with
  | nil => exact ⟨List.nodup_nil, nofun⟩
  | cons a ps ih =>
    by_cases h : a.2.name ∈ seen
    · rw [keptAfter_cons_seen h]
      exact ih seen
    · obtain ⟨different, new⟩ := ih (a.2.name :: seen)
      rw [keptAfter_cons_new h, List.map_cons, List.nodup_cons]
      refine ⟨⟨?_, different⟩, ?_⟩
      · intro again
        obtain ⟨b, hb, same⟩ := List.mem_map.1 again
        exact new b hb (same ▸ List.mem_cons_self)
      · rw [List.forall_mem_cons]
        exact ⟨h, fun b hb inside => new b hb (List.mem_cons_of_mem _ inside)⟩

theorem nodup_names_kept (order : List Declaration) : ((kept order).map (·.2.name)).Nodup := by
  rw [kept_eq]
  exact (names_keptAfter [] (written order)).1

theorem firstOfName_eq_self {seen : List String} {ps : List PropertyDeclaration}
    (different : (ps.map (·.name)).Nodup) (new : ∀ p ∈ ps, p.name ∉ seen) :
    firstOfName seen ps = ps := by
  induction ps generalizing seen with
  | nil => rfl
  | cons p ps ih =>
    rw [List.map_cons, List.nodup_cons] at different
    rw [firstOfName, if_neg (by simpa using new p List.mem_cons_self), ih different.2]
    intro q hq
    rw [List.mem_cons, not_or]
    exact ⟨fun same => different.1 (same ▸ List.mem_map_of_mem hq),
      new q (List.mem_cons_of_mem p hq)⟩

theorem mem_firstOfName {seen : List String} {p : PropertyDeclaration} (new : p.name ∉ seen)
    {before : List PropertyDeclaration} (first : ∀ q ∈ before, q.name ≠ p.name)
    (after : List PropertyDeclaration) : p ∈ firstOfName seen (before ++ p :: after) := by
  induction before generalizing seen with
  | nil =>
    rw [List.nil_append, firstOfName, if_neg (by simpa using new)]
    exact List.mem_cons_self
  | cons q before ih =>
    rw [List.forall_mem_cons] at first
    rw [List.cons_append, firstOfName]
    split
    · exact ih new first.2
    · have new' : p.name ∉ q.name :: seen := by simp [new, first.1.symm]
      exact List.mem_cons_of_mem q (ih new' first.2)

/-- What the interfaces of an order add, one after the other. -/
def gather (g : DeclarationGraph) (s : Settings) (visited : List String) (c : Collection) :
    List Declaration → Attempt Collection
  | [] => pure c
  | d :: order => do
    let c ← collectOwn g s (visited ++ [d.qualifiedName]) d c
    gather g s (visited ++ [d.qualifiedName]) c order

theorem gather_append (g : DeclarationGraph) (s : Settings) (visited : List String) (c : Collection)
    (order later : List Declaration) :
    gather g s visited c (order ++ later) =
      gather g s visited c order >>= fun c =>
        gather g s (visited ++ order.map (·.qualifiedName)) c later := by
  induction order generalizing visited c with
  | nil => simp [gather]
  | cons d order ih =>
    have names : visited ++ (d :: order).map (·.qualifiedName) =
        visited ++ [d.qualifiedName] ++ order.map (·.qualifiedName) := by simp
    simp only [List.cons_append, gather, ih, names, bind_assoc]

theorem collect_seen {g : DeclarationGraph} {s : Settings} {name : String} {visited : List String}
    (h : name ∈ visited) (names : List String) (c : Collection) :
    collect g s (name :: names) visited c = collect g s names visited c := by
  rw [collect, dif_pos (by simpa using h)]

theorem collect_new {g : DeclarationGraph} {s : Settings} {name : String} {visited : List String}
    {d : Declaration} (h : name ∉ visited) (found : g.get? name = some d) (names : List String)
    (c : Collection) :
    collect g s (name :: names) visited c =
      collectOwn g s (visited ++ [name]) d c >>= fun c =>
        collect g s (g.parentNames d ++ names) (visited ++ [name]) c := by
  rw [collect, dif_neg (by simpa using h)]
  split
  · rename_i missing
    rw [found] at missing
    cases missing
  · rename_i found'
    rw [found] at found'
    cases found'
    rfl

/-- What is due from a list of names is due from what a walk visits, and then from the others. -/
theorem collect_walk {g : DeclarationGraph} (s : Settings) {visited : List String}
    {package : String} {ts : List TypeUsage} {order : List Declaration}
    (walk : g.Walk visited package ts order) :
    ∀ names c,
      collect g s ((ts.filterMap fun t => (g.parent? package t).map (·.qualifiedName)) ++ names)
          visited c =
        gather g s visited c order >>= fun c =>
          collect g s names (visited ++ order.map (·.qualifiedName)) c := by
  induction walk with
  | nil visited =>
    intro names c
    simp [gather]
  | other missing _ ih =>
    intro names c
    rw [List.filterMap_cons_none (by simp [missing])]
    exact ih names c
  | again parent seen _ ih =>
    intro names c
    rw [List.filterMap_cons_some (by rw [parent]; rfl), List.cons_append, collect_seen seen]
    exact ih names c
  | @visit visited _ _ _ p above order parent new _ _ ihInside ihRest =>
    intro names c
    -- the names that a new interface adds stand in front of those that are left
    have inside : visited ++ (p :: above).map (·.qualifiedName) =
        visited ++ [p.qualifiedName] ++ above.map (·.qualifiedName) := by simp
    have all : visited ++ (p :: above ++ order).map (·.qualifiedName) =
        visited ++ (p :: above).map (·.qualifiedName) ++ order.map (·.qualifiedName) := by simp
    rw [List.filterMap_cons_some (by rw [parent]; rfl), List.cons_append,
      collect_new new (DeclarationGraph.get?_of_parent? parent), gather_append, all, gather]
    simp only [DeclarationGraph.parentNames, ihInside, ← inside, ihRest, bind_assoc]

theorem collectAll_eq_gather {g : DeclarationGraph} {s : Settings} {d : Declaration}
    {order : List Declaration} (first : g.DepthFirst d order) :
    collectAll g s d = gather g s [] {} order := by
  obtain ⟨above, walk, rfl⟩ := first
  have whole (own : Collection) : collect g s (g.parentNames d) [d.qualifiedName] own =
      gather g s [d.qualifiedName] own above := by
    rw [← List.append_nil (g.parentNames d), DeclarationGraph.parentNames, collect_walk s walk]
    simp [collect]
  simp only [collectAll, whole, gather, List.nil_append]

/-- A collection grows by what the interfaces of an order add, one after the other. -/
inductive Collects (g : DeclarationGraph) (s : Settings) :
    List String → Collection → List Declaration → Collection → Prop
  | nil (visited : List String) (c : Collection) : Collects g s visited c [] c
  | cons {visited : List String} {c c' c'' : Collection} {d : Declaration}
      {order : List Declaration}
      (own : (collectOwn g s (visited ++ [d.qualifiedName]) d c).result = .ok c')
      (rest : Collects g s (visited ++ [d.qualifiedName]) c' order c'') :
      Collects g s visited c (d :: order) c''

theorem gather_ok_iff {g : DeclarationGraph} {s : Settings} {visited : List String}
    {c c' : Collection} {order : List Declaration} :
    (gather g s visited c order).result = .ok c' ↔ Collects g s visited c order c' := by
  induction order generalizing visited c with
  | nil =>
    constructor
    · rintro ⟨⟩
      exact .nil _ _
    · rintro ⟨⟩
      rfl
  | cons d order ih =>
    rw [gather, Outcome.bind_ok_iff]
    constructor
    · rintro ⟨c₁, own, rest⟩
      exact .cons own (ih.1 rest)
    · rintro ⟨⟩
      rename_i c₁ own rest
      exact ⟨c₁, own, ih.2 rest⟩

theorem collectAll_ok_iff {g : DeclarationGraph} {s : Settings} {d : Declaration} {c : Collection}
    {order : List Declaration} (first : g.DepthFirst d order) :
    (collectAll g s d).result = .ok c ↔ Collects g s [] {} order c := by
  rw [collectAll_eq_gather first, gather_ok_iff]

theorem keptAfter_written_cons (seen : List String) (d : Declaration) (order : List Declaration) :
    keptAfter seen (written (d :: order)) =
      (firstOfName seen d.properties).map (fun p => (d, p)) ++
        keptAfter ((firstOfName seen d.properties).map (·.name) ++ seen) (written order) := by
  rw [written_cons, keptAfter_append, ← firstOfName_eq, List.map_map]
  rfl

theorem mem_kept_of_first {d : Declaration} {before after : List PropertyDeclaration}
    {p : PropertyDeclaration} (split : d.properties = before ++ p :: after)
    (first : ∀ q ∈ before, q.name ≠ p.name) (above : List Declaration) :
    (d, p) ∈ kept (d :: above) := by
  rw [kept_eq, keptAfter_written_cons, split]
  have new : p ∈ firstOfName [] (before ++ p :: after) :=
    mem_firstOfName List.not_mem_nil first after
  exact List.mem_append_left _ (List.mem_map_of_mem new)

theorem collectOwn_ok {g : DeclarationGraph} {s : Settings} {visited : List String}
    {d : Declaration} {c c' : Collection} (h : (collectOwn g s visited d c).result = .ok c') :
    ∃ described,
      List.Forall₂ (fun p q => (describeProperty g s d p).result = .ok q)
        (firstOfName c.seen d.properties) described ∧
      c'.seen = (firstOfName c.seen d.properties).map (·.name) ++ c.seen ∧
      c'.properties = c.properties ++ described ∧
      c'.files = if visited.length == 1 || !(firstOfName c.seen d.properties).isEmpty then
          insertFile d.sourceFile c.files
        else c.files := by
  obtain ⟨described, each, h⟩ := Outcome.bind_ok_iff.1 h
  cases h
  exact ⟨described, Outcome.forEach_ok_iff.1 each, rfl, rfl, rfl⟩

/-- The properties that are added are those that are new in the order. -/
theorem Collects.properties {g : DeclarationGraph} {s : Settings} {visited : List String}
    {c c' : Collection} {order : List Declaration} (h : Collects g s visited c order c') :
    ∃ described,
      List.Forall₂ (fun a q => (describeProperty g s a.1 a.2).result = .ok q)
        (keptAfter c.seen (written order)) described ∧
      c'.properties = c.properties ++ described := by
  induction h with
  | nil _ c => exact ⟨[], .nil, (List.append_nil c.properties).symm⟩
  | cons own _ ih =>
    obtain ⟨first, each, seen, added, -⟩ := collectOwn_ok own
    obtain ⟨later, eachLater, addedLater⟩ := ih
    refine ⟨first ++ later, ?_, by rw [addedLater, added, List.append_assoc]⟩
    rw [keptAfter_written_cons]
    apply List.rel_append
    · exact List.forall₂_map_left_iff.2 each
    · rwa [seen] at eachLater

theorem failure?_collectOwn (g : DeclarationGraph) (s : Settings) (visited : List String)
    (d : Declaration) (c : Collection) :
    failure? (collectOwn g s visited d c).result =
      (firstOfName c.seen d.properties).findSome? fun p =>
        failure? (describeProperty g s d p).result := by
  rw [collectOwn, Outcome.failure?_bind_pure, Outcome.failure?_forEach]

/-- A run fails with the first of the properties that it would add. -/
theorem failure?_gather {g : DeclarationGraph} {s : Settings} {visited : List String}
    {c : Collection} {order : List Declaration} :
    failure? (gather g s visited c order).result =
      (keptAfter c.seen (written order)).findSome? fun a =>
        failure? (describeProperty g s a.1 a.2).result := by
  induction order generalizing visited c with
  | nil => rfl
  | cons d order ih =>
    rw [gather, Outcome.result_bind, keptAfter_written_cons, List.findSome?_append,
      List.findSome?_map, Function.comp_def,
      ← failure?_collectOwn g s (visited ++ [d.qualifiedName])]
    cases own : (collectOwn g s (visited ++ [d.qualifiedName]) d c).result with
    | error e => rfl
    | ok c' =>
      obtain ⟨-, -, seen, -⟩ := collectOwn_ok own
      rw [← seen]
      exact ih

/-- The interfaces of an order that are left with a property whose name has not been seen. -/
def contributors (seen : List String) (order : List Declaration) : List Declaration :=
  order.filter fun m =>
    (keptAfter seen (written order)).any fun a => a.1.qualifiedName == m.qualifiedName

theorem mem_of_mem_written {order : List Declaration} {a : Declaration × PropertyDeclaration}
    (h : a ∈ written order) : a.1 ∈ order := by
  obtain ⟨d, hd, h⟩ := List.mem_flatMap.1 h
  obtain ⟨p, -, rfl⟩ := List.mem_map.1 h
  exact hd

/-- Names are different, so an interface is told from its name. -/
theorem any_own {d : Declaration} {order : List Declaration} (seen : List String)
    (ps : List PropertyDeclaration) (different : d.qualifiedName ∉ order.map (·.qualifiedName)) :
    ((ps.map fun p => (d, p)) ++ keptAfter seen (written order)).any
      (fun a => a.1.qualifiedName == d.qualifiedName) = !ps.isEmpty := by
  have others : (keptAfter seen (written order)).any
      (fun a => a.1.qualifiedName == d.qualifiedName) = false := by
    rw [List.any_eq_false]
    intro a ha same
    apply different
    rw [← beq_iff_eq.1 same]
    exact List.mem_map_of_mem (mem_of_mem_written (mem_of_mem_keptAfter ha))
  rw [List.any_append, others, Bool.or_false]
  cases ps with
  | nil => rfl
  | cons p ps => simp

theorem any_other {d m : Declaration} (different : m.qualifiedName ≠ d.qualifiedName)
    (ps : List PropertyDeclaration) (later : List (Declaration × PropertyDeclaration)) :
    ((ps.map fun p => (d, p)) ++ later).any (fun a => a.1.qualifiedName == m.qualifiedName) =
      later.any fun a => a.1.qualifiedName == m.qualifiedName := by
  have noOwn :
      (ps.map fun p => (d, p)).any (fun a => a.1.qualifiedName == m.qualifiedName) = false := by
    rw [List.any_eq_false]
    intro a ha same
    obtain ⟨p, -, rfl⟩ := List.mem_map.1 ha
    exact different (beq_iff_eq.1 same).symm
  rw [List.any_append, noOwn, Bool.false_or]

theorem contributors_cons {d : Declaration} {order : List Declaration} (seen : List String)
    (nodup : ((d :: order).map (·.qualifiedName)).Nodup) :
    contributors seen (d :: order) =
      (if (firstOfName seen d.properties).isEmpty then [] else [d]) ++
        contributors ((firstOfName seen d.properties).map (·.name) ++ seen) order := by
  rw [List.map_cons, List.nodup_cons] at nodup
  have later : ∀ m ∈ order, m.qualifiedName ≠ d.qualifiedName := by
    rintro m hm same
    exact nodup.1 (same ▸ List.mem_map_of_mem hm)
  rw [contributors, keptAfter_written_cons, List.filter_cons, any_own _ _ nodup.1, contributors]
  have tail : order.filter (fun m =>
      ((firstOfName seen d.properties).map (fun p => (d, p)) ++
        keptAfter ((firstOfName seen d.properties).map (·.name) ++ seen) (written order)).any
          fun a => a.1.qualifiedName == m.qualifiedName) =
      contributors ((firstOfName seen d.properties).map (·.name) ++ seen) order := by
    apply List.filter_congr
    intro m hm
    exact any_other (later m hm) _ _
  rw [tail]
  cases firstOfName seen d.properties <;> rfl

/-- Files that are added one after the other. -/
def insertFiles (new files : List String) : List String :=
  new.foldl (fun files file => insertFile (some file) files) files

theorem insertFiles_eq (new files : List String) :
    insertFiles new files = files ++ (new.filter fun file => !files.contains file).eraseDups := by
  induction new generalizing files with
  | nil => simp [insertFiles]
  | cons file new ih =>
    have step :
        insertFiles (file :: new) files = insertFiles new (insertFile (some file) files) := rfl
    rw [step, ih, insertFile]
    by_cases h : file ∈ files
    · simp [h]
    · simp only [h, List.contains_eq_mem, decide_false, Bool.not_false, List.filter_cons_of_pos,
        List.eraseDups_cons, List.filter_filter, List.append_assoc, List.singleton_append,
        Bool.false_eq_true, if_false, List.mem_append, List.mem_singleton]
      congr 3
      apply List.filter_congr
      intro other _
      by_cases same : other = file <;> simp [same]

theorem Collects.files {g : DeclarationGraph} {s : Settings} {visited : List String}
    {c c' : Collection} {order : List Declaration} (h : Collects g s visited c order c')
    (root : visited ≠ []) (nodup : (order.map (·.qualifiedName)).Nodup) :
    c'.files = insertFiles ((contributors c.seen order).filterMap (·.sourceFile)) c.files := by
  induction h with
  | nil => rfl
  | @cons visited c c' c'' d order own _ ih =>
    obtain ⟨-, -, seen, -, files⟩ := collectOwn_ok own
    have notFirst : ((visited ++ [d.qualifiedName]).length == 1) = false := by
      cases visited with
      | nil => exact absurd rfl root
      | cons => simp
    rw [notFirst, Bool.false_or] at files
    have tail : (order.map (·.qualifiedName)).Nodup := List.Nodup.of_cons (by simpa using nodup)
    rw [ih (by simp) tail, files, seen, contributors_cons c.seen nodup]
    cases new : firstOfName c.seen d.properties with
    | nil => rfl
    | cons p ps =>
      cases source : d.sourceFile with
      | none => simp [insertFile, source]
      | some file => simp [insertFiles, source]

/-- The first interface of an order, and those that are left with a property. -/
def contributing (d : Declaration) (order : List Declaration) : List Declaration :=
  order.filter fun m =>
    m.qualifiedName == d.qualifiedName ||
      (kept order).any fun a => a.1.qualifiedName == m.qualifiedName

theorem contributing_cons {d : Declaration} {above : List Declaration}
    (nodup : ((d :: above).map (·.qualifiedName)).Nodup) :
    contributing d (d :: above) =
      d :: contributors ((firstOfName [] d.properties).map (·.name)) above := by
  rw [List.map_cons, List.nodup_cons] at nodup
  rw [contributing, List.filter_cons_of_pos (by simp)]
  congr 1
  apply List.filter_congr
  intro m hm
  have later : m.qualifiedName ≠ d.qualifiedName := by
    intro same
    exact nodup.1 (same ▸ List.mem_map_of_mem hm)
  rw [kept_eq, keptAfter_written_cons, any_other later, beq_eq_false_iff_ne.2 later, Bool.false_or,
    List.append_nil]

theorem collectAll_properties {g : DeclarationGraph} {s : Settings} {d : Declaration}
    {c : Collection} {order : List Declaration} (h : (collectAll g s d).result = .ok c)
    (first : g.DepthFirst d order) :
    List.Forall₂ (fun a q => (describeProperty g s a.1 a.2).result = .ok q) (kept order)
      c.properties := by
  obtain ⟨described, each, added⟩ := ((collectAll_ok_iff first).1 h).properties
  rw [added, kept_eq]
  exact each

theorem failure?_collectAll {g : DeclarationGraph} {s : Settings} {d : Declaration}
    {order : List Declaration} (first : g.DepthFirst d order) :
    failure? (collectAll g s d).result =
      (kept order).findSome? fun a => failure? (describeProperty g s a.1 a.2).result := by
  rw [collectAll_eq_gather first, failure?_gather, kept_eq]

theorem collectAll_files {g : DeclarationGraph} {s : Settings} {d : Declaration} {c : Collection}
    {order : List Declaration} (h : (collectAll g s d).result = .ok c)
    (first : g.DepthFirst d order) :
    c.files = ((contributing d order).filterMap (·.sourceFile)).eraseDups := by
  have nodup := first.nodup
  have collects := (collectAll_ok_iff first).1 h
  obtain ⟨above, -, rfl⟩ := first
  cases collects with
  | cons own rest =>
    obtain ⟨-, -, seen, -, files⟩ := collectOwn_ok own
    have root : (([] ++ [d.qualifiedName]).length == 1) = true := rfl
    rw [root, Bool.true_or, if_pos rfl] at files
    rw [rest.files (by simp) (List.Nodup.of_cons (by simpa using nodup)), files, seen,
      contributing_cons nodup, List.append_nil]
    cases source : d.sourceFile with
    | none => simp [insertFile, insertFiles_eq, source]
    | some file =>
      have first : insertFile (some file) [] = [file] := rfl
      rw [first, insertFiles_eq, List.filterMap_cons_some source, List.eraseDups_cons,
        List.singleton_append]
      congr 2
      apply List.filter_congr
      intro other _
      by_cases same : other = file <;> simp [same]

theorem describeProperty_ok {g : DeclarationGraph} {s : Settings} {d : Declaration}
    {p : PropertyDeclaration} {q : PropertyDescriptor}
    (h : (describeProperty g s d p).result = .ok q) :
    q.name = p.name ∧
      (g.resolve d.package ("property " ++ p.name ++ " of " ++ d.qualifiedName) p.type).result =
        .ok q.type ∧
      g.resolveAnnotations s d.package p.annotations = .ok q.annotations := by
  obtain ⟨type, resolved, h⟩ := Outcome.bind_ok_iff.1 (Outcome.mapError_ok_iff.1 h)
  obtain ⟨annotations, given, h⟩ := Outcome.bind_ok_iff.1 h
  cases h
  exact ⟨rfl, resolved, given⟩

/-- All that a descriptor is made from. -/
theorem build_ok_iff {g : DeclarationGraph} {s : Settings} {package : String} {d : Declaration}
    {made : Descriptor} :
    (build g s package d).result = .ok made ↔
      d.kind = .interface ∧ ∃ annotations directive inheritedInterfaces c,
        g.resolveAnnotations s d.package d.annotations = .ok annotations ∧
        Directive.ofRecords s annotations = .ok directive ∧
        ¬ (directive.name.isEmpty = true ∨ directive.className = d.simpleName) ∧
        (inherited g d).result = .ok inheritedInterfaces ∧
        (collectAll g s d).result = .ok c ∧
        made = {
          packageName := package
          className := directive.className
          sourceInterface := .named d.qualifiedName
          inheritedInterfaces
          properties := c.properties
          delegatedClass := directive.delegatedClass
          originatingFiles := c.files } := by
  rw [build]
  constructor
  · intro h
    split at h
    · cases h
    · rename_i interface
      obtain ⟨annotations, resolved, h⟩ := Outcome.bind_ok_iff.1 h
      obtain ⟨directive, given, h⟩ := Outcome.bind_ok_iff.1 h
      dsimp only at h
      split at h
      · cases h
      · rename_i named
        obtain ⟨inheritedInterfaces, inherits, h⟩ := Outcome.bind_ok_iff.1 h
        obtain ⟨c, collected, h⟩ := Outcome.bind_ok_iff.1 h
        cases h
        exact ⟨not_not.1 interface, annotations, directive, inheritedInterfaces, c, resolved, given,
          named, inherits, collected, rfl⟩
  · rintro ⟨interface, annotations, directive, inheritedInterfaces, c, resolved, given, named,
      inherits, collected, rfl⟩
    rw [if_neg (not_not.2 interface)]
    refine Outcome.bind_ok_iff.2 ⟨annotations, resolved, ?_⟩
    refine Outcome.bind_ok_iff.2 ⟨directive, given, ?_⟩
    rw [if_neg named]
    exact Outcome.bind_ok_iff.2
      ⟨inheritedInterfaces, inherits, Outcome.bind_ok_iff.2 ⟨c, collected, rfl⟩⟩

/-- A descriptor has the kept properties of the hierarchy, as they are described. -/
theorem build_properties {g : DeclarationGraph} {s : Settings} {package : String} {d : Declaration}
    {made : Descriptor} {order : List Declaration} (built : (build g s package d).result = .ok made)
    (first : g.DepthFirst d order) :
    List.Forall₂ (fun a p => (describeProperty g s a.1 a.2).result = .ok p) (kept order)
      made.properties := by
  obtain ⟨-, _, _, _, c, -, -, -, -, collected, rfl⟩ := build_ok_iff.1 built
  exact collectAll_properties collected first

end Descriptor

end ModelClasses
