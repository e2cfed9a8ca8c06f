import ModelClasses.Proofs.Resolution.Types

/-! # Annotations and what they stand for

An annotation stands for the record with the same arguments in the same order, in whose values every
reference is to what its name means in the package. Annotations are resolved together or not at all:
the first reference of them that means nothing is the failure, and the failure says in which argument
of which annotation it is written. -/

namespace ModelClasses

namespace DeclarationGraph

/-- What a reference to a qualified name is to, by what the graph declares under the name. -/
inductive RefersAs (g : DeclarationGraph) (qualified : String) : ReferenceKind → Prop
  | singleton {d : Declaration} (found : g.get? qualified = some d) (kind : d.kind = .object) :
      RefersAs g qualified .singleton
  | enumConstant {d : Declaration} (found : g.get? qualified = some d) (kind : d.kind = .enumEntry) :
      RefersAs g qualified .enumConstant
  | other {d : Declaration} (found : g.get? qualified = some d) (noObject : d.kind ≠ .object)
      (noEntry : d.kind ≠ .enumEntry) : RefersAs g qualified .class_
  | builtin (missing : g.get? qualified = none) : RefersAs g qualified .class_

mutual
/-- What a value stands for in a package. -/
inductive ValueStandsFor (g : DeclarationGraph) (package : String) :
    ArgumentValue → AnnotationValue → Prop
  | bool (b : Bool) : ValueStandsFor g package (.bool b) (.bool b)
  | integer (i : Int64) : ValueStandsFor g package (.integer i) (.integer i)
  | float (x : Decimal.Binary .single) : ValueStandsFor g package (.float x) (.float x)
  | double (x : Decimal.Binary .double) : ValueStandsFor g package (.double x) (.double x)
  | string (s : String) : ValueStandsFor g package (.string s) (.string s)
  | char (c : Char) : ValueStandsFor g package (.char c) (.char c)
  | reference {name qualified : String} {kind : ReferenceKind}
      (known : g.resolveName? package name = some qualified) (refers : g.RefersAs qualified kind) :
      ValueStandsFor g package (.reference name) (.reference ⟨qualified, kind⟩)
  | array {items : List ArgumentValue} {vs : List AnnotationValue}
      (each : ValuesStandFor g package items vs) : ValueStandsFor g package (.array items) (.array vs)
  | expression (text : String) : ValueStandsFor g package (.expression text) (.unsupported text)

/-- What values stand for, one by one. -/
inductive ValuesStandFor (g : DeclarationGraph) (package : String) :
    List ArgumentValue → List AnnotationValue → Prop
  | nil : ValuesStandFor g package [] []
  | cons {u : ArgumentValue} {v : AnnotationValue} {us : List ArgumentValue}
      {vs : List AnnotationValue} (first : ValueStandsFor g package u v)
      (rest : ValuesStandFor g package us vs) : ValuesStandFor g package (u :: us) (v :: vs)
end

structure ArgumentStandsFor (g : DeclarationGraph) (package : String) (a : Argument)
    (b : AnnotationArgument) : Prop where
  name : b.name = a.name
  value : g.ValueStandsFor package a.value b.value

structure AnnotationStandsFor (g : DeclarationGraph) (s : Settings) (package : String)
    (u : AnnotationUsage) (r : AnnotationRecord) : Prop where
  name : r.qualifiedName = g.annotationName s package u.name
  arguments : List.Forall₂ (g.ArgumentStandsFor package) u.arguments r.arguments

variable {g : DeclarationGraph} {package context : String}

theorem refersAs_iff {qualified : String} {kind : ReferenceKind} :
    g.RefersAs qualified kind ↔ g.referenceTo qualified = ⟨qualified, kind⟩ := by
  rw [referenceTo, Reference.mk.injEq]
  refine Iff.trans ?_ (and_iff_right rfl).symm
  constructor
  · intro refers
    cases refers with
    | singleton found object =>
      rw [found, Option.map_some, object]
      rfl
    | enumConstant found entry =>
      rw [found, Option.map_some, entry]
      rfl
    | @other d found noObject noEntry =>
      rw [found, Option.map_some, Option.getD_some]
      cases kind : d.kind with
      | object => exact absurd kind noObject
      | enumEntry => exact absurd kind noEntry
      | interface | class_ | enum | annotationClass => rfl
    | builtin missing =>
      rw [missing]
      rfl
  · rintro rfl
    cases found : g.get? qualified with
    | none => exact .builtin found
    | some d =>
      rw [Option.map_some, Option.getD_some]
      cases kind : d.kind with
      | object => exact .singleton found kind
      | enumEntry => exact .enumConstant found kind
      | interface | class_ | enum | annotationClass =>
        exact .other found (by simp [kind]) (by simp [kind])

mutual
theorem resolveValue_ok_iff : ∀ {u : ArgumentValue} {v : AnnotationValue},
    g.resolveValue package context u = .ok v ↔ g.ValueStandsFor package u v
  | .bool _, v | .integer _, v | .float _, v | .double _, v | .string _, v | .char _, v
  | .expression _, v => by
    rw [resolveValue]
    constructor
    · rintro ⟨⟩
      constructor
    · rintro ⟨⟩
      rfl
  | .reference name, v => by
    rw [resolveValue]
    constructor
    · intro resolved
      split at resolved
      · cases resolved
      · rename_i qualified known
        cases resolved
        exact .reference known (refersAs_iff.2 rfl)
    · intro stands
      cases stands with
      | reference known refers => simp only [known, refersAs_iff.1 refers]
  | .array items, v => by
    rw [resolveValue, map_eq_ok_iff]
    constructor
    · rintro ⟨vs, resolved, rfl⟩
      exact .array (resolveValues_ok_iff.1 resolved)
    · intro stands
      cases stands with
      | array each => exact ⟨_, resolveValues_ok_iff.2 each, rfl⟩

theorem resolveValues_ok_iff : ∀ {us : List ArgumentValue} {vs : List AnnotationValue},
    g.resolveValues package context us = .ok vs ↔ g.ValuesStandFor package us vs
  | [], vs => by
    rw [resolveValues]
    constructor
    · rintro ⟨⟩
      exact .nil
    · rintro ⟨⟩
      rfl
  | u :: us, vs => by
    rw [resolveValues]
    constructor
    · intro resolved
      split at resolved
      · cases resolved
      · rename_i v first
        obtain ⟨others, later, rfl⟩ := map_eq_ok_iff.1 resolved
        exact .cons (resolveValue_ok_iff.1 first) (resolveValues_ok_iff.1 later)
    · intro stand
      cases stand with
      | cons first rest =>
        rw [resolveValue_ok_iff.2 first]
        exact map_eq_ok_iff.2 ⟨_, resolveValues_ok_iff.2 rest, rfl⟩
end

theorem resolveArgument_ok_iff {name : String} {a : Argument} {b : AnnotationArgument} :
    g.resolveArgument package name a = .ok b ↔ g.ArgumentStandsFor package a b := by
  rw [resolveArgument, map_eq_ok_iff]
  constructor
  · rintro ⟨v, resolved, rfl⟩
    exact ⟨rfl, resolveValue_ok_iff.1 resolved⟩
  · rintro ⟨name, value⟩
    exact ⟨b.value, resolveValue_ok_iff.2 value, by rw [← name]⟩

theorem resolveUsage_ok_iff {s : Settings} {u : AnnotationUsage} {r : AnnotationRecord} :
    g.resolveUsage s package u = .ok r ↔ g.AnnotationStandsFor s package u r := by
  rw [resolveUsage, map_eq_ok_iff]
  simp only [mapM_eq_ok_iff, resolveArgument_ok_iff]
  constructor
  · rintro ⟨arguments, each, rfl⟩
    exact ⟨rfl, each⟩
  · rintro ⟨name, each⟩
    exact ⟨r.arguments, each, by rw [← name]⟩

theorem resolveAnnotations_ok_iff {s : Settings} {usages : List AnnotationUsage}
    {records : List AnnotationRecord} :
    g.resolveAnnotations s package usages = .ok records ↔
      List.Forall₂ (g.AnnotationStandsFor s package) usages records := by
  rw [resolveAnnotations, mapM_eq_ok_iff]
  simp only [resolveUsage_ok_iff]

/-- A reference in an argument of an annotation. -/
structure WrittenReference where
  annotation : String
  argument : String
  name : String

/-- The references in annotations, as they are written. -/
def writtenReferences (usages : List AnnotationUsage) : List WrittenReference :=
  usages.flatMap fun u => u.arguments.flatMap fun a => a.value.references.map fun name =>
    ⟨u.name, a.name, name⟩

/-- The failure of a reference that means nothing. -/
def WrittenReference.failure (g : DeclarationGraph) (s : Settings) (package : String)
    (r : WrittenReference) : GenerationError :=
  .unresolvedType r.name
    ("argument " ++ r.argument ++ " of @" ++ g.annotationName s package r.annotation) none

theorem annotationFailures_eq (s : Settings) (usages : List AnnotationUsage) :
    g.annotationFailures s package none usages =
      ((writtenReferences usages).filter fun r => (g.resolveName? package r.name).isNone).map
        (·.failure g s package) := by
  simp only [annotationFailures, unresolved, writtenReferences, List.filter_flatMap,
    List.map_flatMap, List.filter_map, List.map_map]
  rfl

/-- Annotations are resolved exactly if all their references mean something. What they are resolved
to is what they stand for, and otherwise the first reference that means nothing is the failure. -/
theorem resolveAnnotations_exact (g : DeclarationGraph) (s : Settings) (package : String)
    (usages : List AnnotationUsage) :
    ((∃ records, g.resolveAnnotations s package usages = .ok records) ↔
      ∀ r ∈ writtenReferences usages, (g.resolveName? package r.name).isSome = true) ∧
    (∀ records, g.resolveAnnotations s package usages = .ok records ↔
      List.Forall₂ (g.AnnotationStandsFor s package) usages records) ∧
    ∀ e, g.resolveAnnotations s package usages = .error e ↔
      ∃ r, (writtenReferences usages).find? (fun r => (g.resolveName? package r.name).isNone) =
        some r ∧ e = r.failure g s package := by
  have fails : failure? (g.resolveAnnotations s package usages) =
      ((writtenReferences usages).find? fun r => (g.resolveName? package r.name).isNone).map
        (·.failure g s package) := by
    rw [failure?_resolveAnnotations, annotationFailures_eq, List.head?_map, List.head?_filter]
  refine ⟨?_, fun records => resolveAnnotations_ok_iff, fun e => ?_⟩
  · rw [← failure?_eq_none_iff, fails, Option.map_eq_none_iff, List.find?_eq_none]
    simp [Option.isSome_iff_ne_none]
  · rw [← failure?_eq_some_iff, fails, Option.map_eq_some_iff]
    simp only [eq_comm]

end DeclarationGraph

end ModelClasses
