import ModelClasses.Proofs.Annotations
import ModelClasses.Proofs.Resolution
import ModelClasses.Proofs.SourceText

/-! # Types and what they stand for

A type stands for the type of the same shape in which every name is the qualified name that it means
in the package. Resolution gives that type and no other, or the failure of the first name that means
nothing. Only the name of the whole type may be kept as it is written, which is worth a warning. -/

namespace ModelClasses

namespace DeclarationGraph

mutual
/-- What a type stands for in a package. -/
inductive StandsFor (g : DeclarationGraph) (package : String) : TypeUsage → TypeName → Prop
  | named {name qualified : String} {arguments : List TypeUsage} {ts : List TypeName}
      {nullable : Bool} (known : g.resolveName? package name = some qualified)
      (each : StandFor g package arguments ts) :
      StandsFor g package ⟨name, arguments, nullable⟩ ⟨qualified, ts, nullable⟩

/-- What types stand for, one by one. -/
inductive StandFor (g : DeclarationGraph) (package : String) : List TypeUsage → List TypeName → Prop
  | nil : StandFor g package [] []
  | cons {u : TypeUsage} {t : TypeName} {us : List TypeUsage} {ts : List TypeName}
      (first : StandsFor g package u t) (rest : StandFor g package us ts) :
      StandFor g package (u :: us) (t :: ts)
end

/-- A name of the graph, or that of a built-in type. -/
def Knows (g : DeclarationGraph) (qualified : String) : Prop :=
  (∃ d ∈ g.declarations, d.qualifiedName = qualified) ∨ qualified ∈ builtinTypes

variable {g : DeclarationGraph} {package context : String}

theorem knows_of_resolveName? {name qualified : String}
    (h : g.resolveName? package name = some qualified) : g.Knows qualified :=
  (resolveName?_cases h).imp_left fun ⟨d, found⟩ => ⟨d, mem_of_get? found, qualifiedName_of_get? found⟩

mutual
theorem StandsFor.knows : ∀ {u : TypeUsage} {t : TypeName}, g.StandsFor package u t →
    ∀ q ∈ t.names, g.Knows q
  | _, _, .named known each => by
    rw [TypeName.names, List.forall_mem_cons]
    exact ⟨knows_of_resolveName? known, each.knows⟩

theorem StandFor.knows : ∀ {us : List TypeUsage} {ts : List TypeName}, g.StandFor package us ts →
    ∀ q ∈ TypeName.namesOf ts, g.Knows q
  | _, _, .nil => by simp [TypeName.namesOf]
  | _, _, .cons first rest => by
    rw [TypeName.namesOf, List.forall_mem_append]
    exact ⟨first.knows, rest.knows⟩
end

mutual
theorem resolveStrict_ok_iff : ∀ {u : TypeUsage} {t : TypeName},
    g.resolveStrict package context u = .ok t ↔ g.StandsFor package u t
  | ⟨name, arguments, nullable⟩, t => by
    rw [resolveStrict]
    cases known : g.resolveName? package name with
    | none =>
      refine ⟨nofun, fun stands => ?_⟩
      cases stands with
      | named known' => rw [known] at known'; cases known'
    | some qualified =>
      rw [map_eq_ok_iff]
      constructor
      · rintro ⟨ts, resolved, rfl⟩
        exact .named known (resolveArguments_ok_iff.1 resolved)
      · intro stands
        cases stands with
        | named known' each =>
          rw [known] at known'
          cases known'
          exact ⟨_, resolveArguments_ok_iff.2 each, rfl⟩

theorem resolveArguments_ok_iff : ∀ {us : List TypeUsage} {ts : List TypeName},
    g.resolveArguments package context us = .ok ts ↔ g.StandFor package us ts
  | [], ts => by
    rw [resolveArguments]
    constructor
    · rintro ⟨⟩
      exact .nil
    · rintro ⟨⟩
      rfl
  | u :: us, ts => by
    rw [resolveArguments]
    constructor
    · intro resolved
      split at resolved
      · cases resolved
      · rename_i t first
        obtain ⟨others, later, rfl⟩ := map_eq_ok_iff.1 resolved
        exact .cons (resolveStrict_ok_iff.1 first) (resolveArguments_ok_iff.1 later)
    · intro stand
      cases stand with
      | cons first rest =>
        rw [resolveStrict_ok_iff.2 first]
        exact map_eq_ok_iff.2 ⟨_, resolveArguments_ok_iff.2 rest, rfl⟩
end

/-- What a type stands for whose own name may be unknown. -/
structure StandsOrStays (g : DeclarationGraph) (package : String) (u : TypeUsage) (t : TypeName) :
    Prop where
  name : g.resolveName? package u.name = some t.qualifiedName ∨
    g.resolveName? package u.name = none ∧ t.qualifiedName = u.name
  arguments : g.StandFor package u.arguments t.arguments
  nullable : t.nullable = u.nullable

theorem result_resolve (t : TypeUsage) :
    (g.resolve package context t).result =
      (g.resolveArguments package context t.arguments).map fun ts =>
        ⟨(g.resolveName? package t.name).getD t.name, ts, t.nullable⟩ := by
  rw [resolve]
  cases g.resolveName? package t.name <;> rfl

theorem resolve_ok_iff {u : TypeUsage} {t : TypeName} :
    (g.resolve package context u).result = .ok t ↔ g.StandsOrStays package u t := by
  obtain ⟨qualified, ts, nullable⟩ := t
  rw [result_resolve, map_eq_ok_iff]
  constructor
  · rintro ⟨_, resolved, ⟨⟩⟩
    refine ⟨?_, resolveArguments_ok_iff.1 resolved, rfl⟩
    cases g.resolveName? package u.name with
    | none => exact .inr ⟨rfl, rfl⟩
    | some found => exact .inl rfl
  · rintro ⟨name, arguments, rfl⟩
    refine ⟨ts, resolveArguments_ok_iff.2 arguments, ?_⟩
    rcases name with known | ⟨missing, rfl⟩
    · rw [known, Option.getD_some]
    · rw [missing, Option.getD_none]

theorem warnings_resolve (u : TypeUsage) :
    (g.resolve package context u).warnings =
      if (g.resolveName? package u.name).isSome then [] else [.unknownType u.name context] := by
  rw [resolve]
  cases g.resolveName? package u.name <;> rfl

/-- The first of some names that means nothing in a package. -/
def firstUnknown? (g : DeclarationGraph) (package : String) (names : List String) : Option String :=
  names.find? fun name => (g.resolveName? package name).isNone

theorem head?_unresolved (names : List String) :
    (g.unresolved package context none names).head? =
      (g.firstUnknown? package names).map (.unresolvedType · context none) := by
  rw [unresolved, List.head?_map, List.head?_filter]
  rfl

theorem firstUnknown?_eq_none_iff {names : List String} :
    g.firstUnknown? package names = none ↔
      ∀ name ∈ names, (g.resolveName? package name).isSome = true := by
  simp [firstUnknown?, Option.isSome_iff_ne_none]

section

variable {α : Type} {r : Except GenerationError α} {names : List String}
  (fails : failure? r = (g.unresolved package context none names).head?)

include fails

/-- A step that fails by the names that mean nothing succeeds if all of them mean something. -/
theorem succeeds_iff_of_failure? :
    (∃ x, r = .ok x) ↔ ∀ name ∈ names, (g.resolveName? package name).isSome = true := by
  rw [← failure?_eq_none_iff, fails, head?_unresolved, Option.map_eq_none_iff,
    firstUnknown?_eq_none_iff]

theorem eq_error_iff_of_failure? {e : GenerationError} :
    r = .error e ↔
      ∃ name, g.firstUnknown? package names = some name ∧ e = .unresolvedType name context none := by
  rw [← failure?_eq_some_iff, fails, head?_unresolved, Option.map_eq_some_iff]
  simp only [eq_comm]

end

/-- Both ways to resolve a type succeed exactly if all names mean something that must, give the type
that the written one stands for, and otherwise name the first name that means nothing. Where the name
of the whole type is allowed to be unknown, it is the one that is kept and warned of. -/
theorem resolve_exact (g : DeclarationGraph) (package context : String) (u : TypeUsage) :
    let known (name : String) : Prop := (g.resolveName? package name).isSome = true
    ((∃ t, g.resolveStrict package context u = .ok t) ↔ ∀ name ∈ u.names, known name) ∧
    (∀ t, g.resolveStrict package context u = .ok t ↔ g.StandsFor package u t) ∧
    (∀ t, g.StandsFor package u t → ∀ q ∈ t.names, g.Knows q) ∧
    (∀ e, g.resolveStrict package context u = .error e ↔
      ∃ name, g.firstUnknown? package u.names = some name ∧
        e = .unresolvedType name context none) ∧
    ((∃ t, (g.resolve package context u).result = .ok t) ↔
      ∀ name ∈ TypeUsage.namesOf u.arguments, known name) ∧
    (∀ t, (g.resolve package context u).result = .ok t ↔ g.StandsOrStays package u t) ∧
    (∀ t, g.StandsOrStays package u t →
      (known u.name → g.Knows t.qualifiedName) ∧ ∀ q ∈ TypeName.namesOf t.arguments, g.Knows q) ∧
    (∀ e, (g.resolve package context u).result = .error e ↔
      ∃ name, g.firstUnknown? package (TypeUsage.namesOf u.arguments) = some name ∧
        e = .unresolvedType name context none) ∧
    (known u.name → (g.resolve package context u).warnings = []) ∧
    (¬ known u.name →
      (g.resolve package context u).warnings = [.unknownType u.name context]) := by
  intro known
  have strict := failure?_resolveStrict g package context u
  have lenient : failure? (g.resolve package context u).result =
      (g.unresolved package context none (TypeUsage.namesOf u.arguments)).head? := failure?_resolve u
  refine ⟨succeeds_iff_of_failure? strict, fun t => resolveStrict_ok_iff, fun t stands => stands.knows,
    fun e => eq_error_iff_of_failure? strict, succeeds_iff_of_failure? lenient,
    fun t => resolve_ok_iff, fun t stands => ⟨fun found => ?_, stands.arguments.knows⟩,
    fun e => eq_error_iff_of_failure? lenient, fun found => ?_, fun missing => ?_⟩
  · refine knows_of_resolveName? (stands.name.resolve_right fun missing => ?_)
    simp [known, missing.1] at found
  · rw [warnings_resolve, if_pos found]
  · rw [warnings_resolve, if_neg missing]

end DeclarationGraph

end ModelClasses
