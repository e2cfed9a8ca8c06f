import ModelClasses.Proofs.Descriptor.Collection
import ModelClasses.Proofs.Synthesis.Arguments

/-! # What a graph is read for

All stages of generation ask a graph only for declarations of a given name. To resolve a name, it
matters whether there is one, and to resolve a reference, of what kind it is; all else is read of the
interfaces of a hierarchy, and of the objects that properties are created by. Where two graphs give
the same answers, nothing that is resolved, collected or synthesized is different. There is one lemma
for every function that is given the graph, and it uses those of the functions that are called. -/

namespace ModelClasses

namespace DeclarationGraph

theorem get?_eq_some_iff {g : DeclarationGraph}
    (distinct : (g.declarations.map (·.qualifiedName)).Nodup) {name : String} {d : Declaration} :
    g.get? name = some d ↔ d ∈ g.declarations ∧ d.qualifiedName = name := by
  constructor
  · intro found
    exact ⟨mem_of_get? found, qualifiedName_of_get? found⟩
  · rintro ⟨declared, rfl⟩
    have found : (g.get? d.qualifiedName).isSome = true :=
      List.find?_isSome.2 ⟨d, declared, beq_self_eq_true _⟩
    obtain ⟨other, found⟩ := Option.isSome_iff_exists.1 found
    rw [found, List.inj_on_of_nodup_map distinct (mem_of_get? found) declared
      (qualifiedName_of_get? found)]

/-- With different names, it does not matter where in a graph a declaration is. -/
theorem get?_perm {g g' : DeclarationGraph} (perm : g.declarations.Perm g'.declarations)
    (distinct : (g.declarations.map (·.qualifiedName)).Nodup) : g.get? = g'.get? := by
  have distinct' := (perm.map (·.qualifiedName)).nodup_iff.1 distinct
  funext name
  apply Option.ext
  intro d
  rw [get?_eq_some_iff distinct, get?_eq_some_iff distinct', perm.mem_iff]

/-- Under every name, two graphs have declarations of one kind, or none. -/
def SameKinds (g g' : DeclarationGraph) : Prop :=
  ∀ name, (g.get? name).map (·.kind) = (g'.get? name).map (·.kind)

variable {g g' : DeclarationGraph}

theorem sameKinds_of_get? (same : g.get? = g'.get?) : SameKinds g g' := fun name => by rw [same]

theorem resolveName?_congr (same : SameKinds g g') : g.resolveName? = g'.resolveName? := by
  funext package name
  -- rewritten as a whole, because the conditions' decidability instances depend on it
  have known : g.contains = g'.contains := by
    funext name
    rw [contains, contains, ← Option.isSome_map, same, Option.isSome_map]
  rw [resolveName?, resolveName?, known]

theorem referenceTo_congr (same : SameKinds g g') : g.referenceTo = g'.referenceTo := by
  funext name
  have kinds := congrArg (Option.map ReferenceKind.ofDeclaration) (same name)
  rw [Option.map_map, Option.map_map] at kinds
  rw [referenceTo, referenceTo]
  exact congrArg (fun kind => Reference.mk name (kind.getD .class_)) kinds

mutual
theorem resolveStrict_congr (same : SameKinds g g') (package context : String) :
    ∀ t, g.resolveStrict package context t = g'.resolveStrict package context t
  | ⟨name, arguments, nullable⟩ => by
    rw [resolveStrict, resolveStrict, resolveName?_congr same,
      resolveArguments_congr same package context arguments]

theorem resolveArguments_congr (same : SameKinds g g') (package context : String) :
    ∀ ts, g.resolveArguments package context ts = g'.resolveArguments package context ts
  | [] => by rw [resolveArguments, resolveArguments]
  | t :: rest => by
    rw [resolveArguments, resolveArguments, resolveStrict_congr same package context t,
      resolveArguments_congr same package context rest]
end

theorem resolve_congr (same : SameKinds g g') : g.resolve = g'.resolve := by
  funext package context t
  simp only [resolve, resolveName?_congr same, resolveArguments_congr same]

mutual
theorem resolveValue_congr (same : SameKinds g g') (package context : String) :
    ∀ v, g.resolveValue package context v = g'.resolveValue package context v
  | .bool _ | .integer _ | .float _ | .double _ | .string _ | .char _ | .expression _ => by
    rw [resolveValue, resolveValue]
  | .reference name => by
    simp only [resolveValue, referenceTo_congr same, resolveName?_congr same]
  | .array items => by
    rw [resolveValue, resolveValue, resolveValues_congr same package context items]

theorem resolveValues_congr (same : SameKinds g g') (package context : String) :
    ∀ vs, g.resolveValues package context vs = g'.resolveValues package context vs
  | [] => by rw [resolveValues, resolveValues]
  | v :: rest => by
    rw [resolveValues, resolveValues, resolveValue_congr same package context v,
      resolveValues_congr same package context rest]
end

theorem annotationName_congr (same : SameKinds g g') : g.annotationName = g'.annotationName := by
  funext s package name
  simp only [annotationName, resolveName?_congr same]

theorem resolveAnnotations_congr (same : SameKinds g g') :
    g.resolveAnnotations = g'.resolveAnnotations := by
  have argument : g.resolveArgument = g'.resolveArgument := by
    funext package name a
    simp only [resolveArgument, resolveValue_congr same]
  have usage : g.resolveUsage = g'.resolveUsage := by
    funext s package u
    simp only [resolveUsage, annotationName_congr same, argument]
  funext s package usages
  simp only [resolveAnnotations, usage]

/-- A change of declarations that leaves what they are found by. -/
structure Keeps (change : Declaration → Declaration) : Prop where
  package : ∀ d, (change d).package = d.package
  name : ∀ d, (change d).name = d.name
  kind : ∀ d, (change d).kind = d.kind

theorem Keeps.qualifiedName {change : Declaration → Declaration} (h : Keeps change)
    (d : Declaration) : (change d).qualifiedName = d.qualifiedName := by
  rw [Declaration.qualifiedName, Declaration.qualifiedName, h.package, h.name]

theorem keeps_id : Keeps id := ⟨fun _ => rfl, fun _ => rfl, fun _ => rfl⟩

section

variable {change : Declaration → Declaration} (keeps : Keeps change)
  (found : ∀ name, g'.get? name = (g.get? name).map change)

include keeps found

theorem sameKinds_of_change : SameKinds g g' := by
  intro name
  have kind : (·.kind) ∘ change = (·.kind) := funext keeps.kind
  rw [found, Option.map_map, kind]

theorem parent?_map (package : String) (t : TypeUsage) :
    g'.parent? package t = (g.parent? package t).map change := by
  have declared : g'.declaration? package t.name = (g.declaration? package t.name).map change := by
    rw [declaration?, declaration?, resolveName?_congr (sameKinds_of_change keeps found),
      Option.map_bind]
    exact congrArg _ (funext found)
  rw [parent?, parent?, declared]
  cases g.declaration? package t.name with
  | none => rfl
  | some p =>
    by_cases h : p.kind = .interface <;> simp [h, Option.filter, keeps.kind]

/-- Where supertypes stay as they are, the same names are visited. -/
theorem Walk.map {visited : List String} {package : String} {ts : List TypeUsage}
    {order : List Declaration} (h : g.Walk visited package ts order)
    (same : ∀ x ∈ order, (change x).supertypes = x.supertypes) :
    g'.Walk visited package ts (order.map change) := by
  have parents (package : String) (t : TypeUsage) := parent?_map keeps found package t
  have names (ds : List Declaration) :
      (ds.map change).map (·.qualifiedName) = ds.map (·.qualifiedName) := by
    rw [List.map_map]
    exact List.map_congr_left fun d _ => keeps.qualifiedName d
  induction h with
  | nil => exact .nil _ _
  | other missing _ ih => exact .other (by rw [parents, missing]; rfl) (ih same)
  | again parent seen _ ih =>
    exact .again (by rw [parents, parent]; rfl) (by rwa [keeps.qualifiedName]) (ih same)
  | @visit _ _ _ _ p above order parent new _ _ ihInside ihRest =>
    rw [List.map_append, List.map_cons]
    refine .visit (by rw [parents, parent]; rfl) (by rwa [keeps.qualifiedName]) ?_ ?_
    · rw [keeps.qualifiedName, keeps.package, same p (by simp)]
      exact ihInside fun x hx => same x (by simp [hx])
    · rw [← List.map_cons, names]
      exact ihRest fun x hx => same x (by simp [hx])

end

theorem get?_eq_map_id (same : g.get? = g'.get?) (name : String) :
    g'.get? name = (g.get? name).map id := by
  rw [same, Option.map_id]
  rfl

theorem DepthFirst.congr (same : g.get? = g'.get?) {d : Declaration} {order : List Declaration}
    (h : g.DepthFirst d order) : g'.DepthFirst d order := by
  obtain ⟨above, walk, rfl⟩ := h
  have walk' := walk.map keeps_id (get?_eq_map_id same) fun _ _ => rfl
  rw [List.map_id] at walk'
  exact ⟨above, walk', rfl⟩

end DeclarationGraph

variable {g g' : DeclarationGraph}

namespace Descriptor

open DeclarationGraph

theorem describeProperty_congr (same : SameKinds g g') :
    describeProperty g = describeProperty g' := by
  funext s d p
  simp only [describeProperty, resolve_congr same, resolveAnnotations_congr same]

theorem inherited_change {change : Declaration → Declaration} (keeps : Keeps change)
    (found : ∀ name, g'.get? name = (g.get? name).map change) : inherited g = inherited g' := by
  funext d
  simp only [inherited, resolve_congr (sameKinds_of_change keeps found), parent?_map keeps found,
    Option.isSome_map]

theorem gather_congr (same : SameKinds g g') (s : Settings) (visited : List String) (c : Collection)
    (order : List Declaration) : gather g s visited c order = gather g' s visited c order := by
  have own : collectOwn g = collectOwn g' := by
    funext s visited d c
    simp only [collectOwn, describeProperty_congr same]
  induction order generalizing visited c with
  | nil => rfl
  | cons d order ih => simp only [gather, own, ih]

theorem collectAll_congr (same : g.get? = g'.get?) (s : Settings) (d : Declaration) :
    collectAll g s d = collectAll g' s d := by
  -- the order of the walk is the same, so only what is collected on the way is left
  obtain ⟨order, first, -⟩ := g.existsUnique_depthFirst d
  rw [collectAll_eq_gather first, collectAll_eq_gather (first.congr same),
    gather_congr (sameKinds_of_get? same)]

theorem build_congr (same : g.get? = g'.get?) : build g = build g' := by
  have kinds := sameKinds_of_get? same
  funext s package d
  simp only [build, inherited_change keeps_id (get?_eq_map_id same), collectAll_congr same,
    resolveAnnotations_congr kinds]

end Descriptor

namespace Synthesis

open DeclarationGraph

theorem supertypeName_congr (same : SameKinds g g') : supertypeName g = supertypeName g' := by
  funext s package name
  simp only [supertypeName, resolveName?_congr same]

/-- Of a graph, synthesis reads only what the tags that create properties ask for. -/
theorem synthesize_eq (s : Settings) (d : Descriptor)
    (same : ∀ p ∈ d.properties, ∀ a ∈ p.annotations, s.tag? a.qualifiedName = some .create →
      createProperty g s p a = createProperty g' s p a) : synthesize g s d = synthesize g' s d := by
  have sorted (p : PropertyDescriptor) (annotations : List AnnotationRecord)
      (same : ∀ a ∈ annotations, s.tag? a.qualifiedName = some .create →
        createProperty g s p a = createProperty g' s p a) :
      sort g s p annotations = sort g' s p annotations := by
    induction annotations with
    | nil => rfl
    | cons a rest ih =>
      have later := ih fun b hb => same b (List.mem_cons_of_mem a hb)
      rw [sort, sort, later]
      split
      · rfl
      · rename_i create
        rw [same a List.mem_cons_self create]
      · rfl
      · rfl
      · rfl
  rw [synthesize, synthesize]
  congr 1
  refine Outcome.forEach_congr fun p hp => ?_
  rw [classify, classify, sorted p p.annotations (same p hp)]

/-- Of the object that a modifier is, its package and its supertypes are read. -/
theorem modifierSignature_change {change : Declaration → Declaration} (keeps : Keeps change)
    (found : ∀ name, g'.get? name = (g.get? name).map change) {modifier : String}
    (same : ∀ x, g.get? modifier = some x → (change x).supertypes = x.supertypes) (s : Settings)
    (p : PropertyDescriptor) :
    modifierSignature g s p modifier = modifierSignature g' s p modifier := by
  have kinds := sameKinds_of_change keeps found
  rw [modifierSignature, modifierSignature, found, supertypeName_congr kinds]
  cases object : g.get? modifier with
  | none => rfl
  | some x =>
    simp only [Option.map_some, keeps.package, same x object, resolveStrict_congr kinds]

theorem createProperty_eq {s : Settings} {p : PropertyDescriptor} {a : AnnotationRecord}
    (same : ∀ modifier,
      a.argument? Tag.create.valueArgument = some (.reference ⟨modifier, .singleton⟩) →
        modifierSignature g s p modifier = modifierSignature g' s p modifier) :
    createProperty g s p a = createProperty g' s p a := by
  rw [createProperty, createProperty]
  refine bind_congr_ok fun name _ => bind_congr_ok fun value given => ?_
  refine bind_congr_ok fun modifier object => ?_
  rw [required_ok_iff.1 given, singleton_ok_iff.1 object] at same
  rw [same modifier rfl]

theorem createProperty_congr (same : g.get? = g'.get?) : createProperty g = createProperty g' := by
  funext s p a
  refine createProperty_eq fun modifier _ => ?_
  exact modifierSignature_change keeps_id (get?_eq_map_id same) (fun _ _ => rfl) s p

theorem synthesize_congr (same : g.get? = g'.get?) : synthesize g = synthesize g' := by
  funext s d
  exact synthesize_eq s d fun p _ a _ _ => by rw [createProperty_congr same]

end Synthesis

end ModelClasses
