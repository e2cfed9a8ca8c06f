import ModelClasses.Proofs.Naming
import ModelClasses.TypeResolution
import Mathlib.Data.List.Infix

/-! # Names of other packages

A name is looked up as it is written, then in the package that it is written in, and then among the
built-in types. A declaration of another package is found under its name there only if it is one of a
built-in type. -/

namespace ModelClasses

/-- What stands behind a dot in the name of a built-in type is no built-in type, and leads to the whole
name by the packages that are known without an import. -/
theorem find?_builtinTypes :
    ∀ b ∈ builtinTypes, ∀ t ∈ b.toList.tails, t.head? = some '.' →
      isBuiltin (String.ofList t.tail) = false ∧
        (defaultImports.map (Naming.qualify · (String.ofList t.tail))).find? isBuiltin = some b := by
  decide +kernel

theorem isBuiltin_qualify {package name : String} (h : package ≠ "")
    (builtin : isBuiltin (Naming.qualify package name) = true) :
    isBuiltin name = false ∧
      (defaultImports.map (Naming.qualify · name)).find? isBuiltin =
        some (Naming.qualify package name) := by
  have inside : Naming.qualify package name ∈ builtinTypes := by simpa [isBuiltin] using builtin
  have ends : ('.' :: name.toList) <:+ (Naming.qualify package name).toList :=
    ⟨package.toList, by simp [Naming.qualify_eq h]⟩
  have found := find?_builtinTypes _ inside _ ((List.mem_tails _ _).2 ends) rfl
  rwa [List.tail_cons, String.ofList_toList] at found

namespace DeclarationGraph

/-- A name that is looked up in one package leads to a declaration of another one only if that is of
a built-in type. -/
theorem resolveName?_eq_qualify_iff {g : DeclarationGraph} {package other name : String}
    (h : package ≠ "") (h' : other ≠ "")
    (declared : g.contains (Naming.qualify other name) = true) :
    g.resolveName? package name = some (Naming.qualify other name) ↔
      g.contains name = false ∧ (other = package ∨
        g.contains (Naming.qualify package name) = false ∧
          isBuiltin (Naming.qualify other name) = true) := by
  have longer : name ≠ Naming.qualify other name := by
    intro same
    have length := congrArg String.length same
    rw [Naming.length_qualify h'] at length
    omega
  have samePackage : Naming.qualify package name = Naming.qualify other name ↔ other = package := by
    rw [Naming.qualify_eq h, Naming.qualify_eq h', ← String.toList_inj, ← String.toList_inj]
    simp [eq_comm]
  -- The three places where a name is looked up, in their order.
  rw [resolveName?]
  cases written : g.contains name with
  | true => simp [longer]
  | false =>
    cases inside : g.contains (Naming.qualify package name) with
    | true => simp [h, samePackage]
    | false =>
      have apart : other ≠ package := by
        rintro rfl
        rw [inside] at declared
        cases declared
      rw [if_neg (by simp), if_neg (by simp), and_iff_right rfl, and_iff_right rfl,
        or_iff_right apart]
      constructor
      · intro found
        split at found
        · exact absurd (Option.some.inj found) longer
        · exact List.find?_some found
      · intro builtin
        obtain ⟨unknown, found⟩ := isBuiltin_qualify h' builtin
        rwa [if_neg (by simp [unknown])]

end DeclarationGraph

end ModelClasses
