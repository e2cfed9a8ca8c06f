import ModelClasses.Annotations
import ModelClasses.Proofs.Outcome

/-! # Names that are not resolved

Types and annotations hold names, in the order in which they are written. Resolution goes through
them in this order, so it fails exactly if one of them means nothing, and the first one that means
nothing is the one that the failure names. -/

namespace ModelClasses

mutual
/-- The names in a type, each before those in its arguments. -/
def TypeUsage.names : TypeUsage → List String
  | ⟨name, arguments, _⟩ => name :: TypeUsage.namesOf arguments

def TypeUsage.namesOf : List TypeUsage → List String
  | [] => []
  | t :: rest => t.names ++ TypeUsage.namesOf rest
end

mutual
/-- The names of declarations in a value. -/
def ArgumentValue.references : ArgumentValue → List String
  | .reference name => [name]
  | .array items => ArgumentValue.referencesOf items
  | .bool _ | .integer _ | .float _ | .double _ | .string _ | .char _ | .expression _ => []

def ArgumentValue.referencesOf : List ArgumentValue → List String
  | [] => []
  | v :: rest => v.references ++ ArgumentValue.referencesOf rest
end

namespace DeclarationGraph

/-- The failures of the names that mean nothing in a package. -/
def unresolved (g : DeclarationGraph) (package context : String) (property : Option String)
    (names : List String) : List GenerationError :=
  (names.filter fun name => (g.resolveName? package name).isNone).map fun name =>
    .unresolvedType name context property

/-- The failures of a type whose own name may be unknown. -/
def typeFailures (g : DeclarationGraph) (package context : String) (property : Option String)
    (t : TypeUsage) : List GenerationError :=
  g.unresolved package context property (TypeUsage.namesOf t.arguments)

/-- The failures of annotations: those of the references in their arguments. -/
def annotationFailures (g : DeclarationGraph) (s : Settings) (package : String)
    (property : Option String) (usages : List AnnotationUsage) : List GenerationError :=
  usages.flatMap fun u => u.arguments.flatMap fun a =>
    g.unresolved package
      ("argument " ++ a.name ++ " of @" ++ g.annotationName s package u.name) property
      a.value.references

variable {g : DeclarationGraph} {package context : String} {property : Option String}

theorem unresolved_append (names others : List String) :
    g.unresolved package context property (names ++ others) =
      g.unresolved package context property names ++ g.unresolved package context property others := by
  rw [unresolved, List.filter_append, List.map_append]
  rfl

theorem unresolved_cons_none {name : String} (h : g.resolveName? package name = none)
    (names : List String) :
    g.unresolved package context property (name :: names) =
      .unresolvedType name context property :: g.unresolved package context property names := by
  rw [unresolved, List.filter_cons_of_pos (by rw [h]; rfl)]
  rfl

theorem unresolved_cons_some {name qualified : String}
    (h : g.resolveName? package name = some qualified) (names : List String) :
    g.unresolved package context property (name :: names) =
      g.unresolved package context property names := by
  rw [unresolved, List.filter_cons_of_neg (by rw [h]; simp)]
  rfl

theorem property?_unresolved {names : List String} :
    ∀ e ∈ g.unresolved package context property names, e.property? = property := by
  intro e he
  obtain ⟨name, -, rfl⟩ := List.mem_map.1 he
  rfl

theorem map_onProperty_unresolved (name : String) (names : List String) :
    (g.unresolved package context none names).map (·.onProperty name) =
      g.unresolved package context (some name) names := by
  rw [unresolved, List.map_map]
  rfl

mutual
theorem failure?_resolveStrict (g : DeclarationGraph) (package context : String) :
    ∀ t, failure? (g.resolveStrict package context t) =
      (g.unresolved package context none t.names).head?
  | ⟨name, arguments, nullable⟩ => by
    rw [resolveStrict, TypeUsage.names]
    cases found : g.resolveName? package name with
    | none =>
      rw [unresolved_cons_none found]
      rfl
    | some qualified =>
      rw [unresolved_cons_some found, ← failure?_resolveArguments g package context arguments]
      exact failure?_map _ _

theorem failure?_resolveArguments (g : DeclarationGraph) (package context : String) :
    ∀ ts, failure? (g.resolveArguments package context ts) =
      (g.unresolved package context none (TypeUsage.namesOf ts)).head?
  | [] => by
    rw [resolveArguments]
    rfl
  | t :: rest => by
    rw [resolveArguments, TypeUsage.namesOf, unresolved_append, List.head?_append,
      ← failure?_resolveStrict g package context t,
      ← failure?_resolveArguments g package context rest]
    cases g.resolveStrict package context t <;> simp
end

theorem failure?_resolve (t : TypeUsage) :
    failure? (g.resolve package context t).result = (g.typeFailures package context none t).head? := by
  rw [resolve, typeFailures, ← failure?_resolveArguments]
  cases g.resolveName? package t.name <;> exact failure?_map _ _

mutual
theorem failure?_resolveValue (g : DeclarationGraph) (package context : String) :
    ∀ v, failure? (g.resolveValue package context v) =
      (g.unresolved package context none v.references).head?
  | .bool _ | .integer _ | .float _ | .double _ | .string _ | .char _ | .expression _ => by
    rw [resolveValue]
    rfl
  | .reference name => by
    rw [resolveValue, ArgumentValue.references]
    cases found : g.resolveName? package name with
    | none =>
      rw [unresolved_cons_none found]
      rfl
    | some qualified =>
      rw [unresolved_cons_some found]
      rfl
  | .array items => by
    rw [resolveValue, ArgumentValue.references, failure?_map]
    exact failure?_resolveValues g package context items

theorem failure?_resolveValues (g : DeclarationGraph) (package context : String) :
    ∀ vs, failure? (g.resolveValues package context vs) =
      (g.unresolved package context none (ArgumentValue.referencesOf vs)).head?
  | [] => by
    rw [resolveValues]
    rfl
  | v :: rest => by
    rw [resolveValues, ArgumentValue.referencesOf, unresolved_append, List.head?_append,
      ← failure?_resolveValue g package context v, ← failure?_resolveValues g package context rest]
    cases g.resolveValue package context v <;> simp
end

theorem failure?_resolveAnnotations (s : Settings) (usages : List AnnotationUsage) :
    failure? (g.resolveAnnotations s package usages) =
      (g.annotationFailures s package none usages).head? := by
  rw [resolveAnnotations, failure?_mapM, annotationFailures, List.head?_flatMap]
  congr 1
  funext u
  rw [resolveUsage, failure?_map, failure?_mapM, List.head?_flatMap]
  congr 1
  funext a
  rw [resolveArgument, failure?_map, failure?_resolveValue]

theorem property?_annotationFailures {s : Settings} {usages : List AnnotationUsage} :
    ∀ e ∈ g.annotationFailures s package property usages, e.property? = property := by
  intro e he
  obtain ⟨u, -, he⟩ := List.mem_flatMap.1 he
  obtain ⟨a, -, he⟩ := List.mem_flatMap.1 he
  exact property?_unresolved e he

theorem map_onProperty_annotationFailures (s : Settings) (name : String)
    (usages : List AnnotationUsage) :
    (g.annotationFailures s package none usages).map (·.onProperty name) =
      g.annotationFailures s package (some name) usages := by
  simp only [annotationFailures, List.map_flatMap, map_onProperty_unresolved]

end DeclarationGraph

end ModelClasses
