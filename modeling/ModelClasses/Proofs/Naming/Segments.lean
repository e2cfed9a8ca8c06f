import ModelClasses.Proofs.Naming
import Mathlib.Data.List.Induction

/-! # Names of one segment

A name without a dot is the last segment of what it is qualified to, and the package is what is in
front of it. So a name that is qualified by one segment after the other gives the segments back. -/

namespace ModelClasses.Naming

/-- A name that is a segment of a qualified name. -/
def IsSegment (name : String) : Prop := name ≠ "" ∧ '.' ∉ name.toList

instance (name : String) : Decidable (IsSegment name) := inferInstanceAs (Decidable (_ ∧ _))

theorem packageOf_qualify (package : String) {name : String} (h : '.' ∉ name.toList) :
    packageOf (qualify package name) = package := by
  rw [qualify]
  split
  · rename_i empty
    rw [packageOf, splitLastDot_eq_none h]
    exact (by simpa using empty : package = "").symm
  · have dotted : (package ++ "." ++ name).toList = package.toList ++ '.' :: name.toList := by simp
    rw [packageOf, dotted, splitLastDot_append _ h]
    exact String.ofList_toList

theorem qualify_eq_qualify_iff {package package' name name' : String} (h : '.' ∉ name.toList)
    (h' : '.' ∉ name'.toList) :
    qualify package name = qualify package' name' ↔ package = package' ∧ name = name' := by
  constructor
  · intro same
    have packages := congrArg packageOf same
    have names := congrArg simpleName same
    rw [packageOf_qualify package h, packageOf_qualify package' h'] at packages
    rw [simpleName_qualify package h, simpleName_qualify package' h'] at names
    exact ⟨packages, names⟩
  · rintro ⟨rfl, rfl⟩
    rfl

theorem qualify_qualify {outer : String} (h : outer ≠ "") (package name : String) :
    qualify (qualify package outer) name = qualify package (outer ++ "." ++ name) := by
  by_cases empty : package = ""
  · subst empty
    exact qualify_eq h name
  · rw [qualify_eq (qualify_ne_empty empty outer), qualify_eq empty, qualify_eq empty]
    simp only [String.append_assoc]

theorem length_lt_qualify (package : String) {name : String} (h : name ≠ "") :
    package.length < (qualify package name).length := by
  by_cases empty : package = ""
  · subst empty
    exact Nat.pos_of_ne_zero fun none => h (String.length_eq_zero_iff.1 none)
  · rw [length_qualify empty]
    omega

/-- Every segment makes a name longer. -/
theorem length_le_foldl_qualify (package : String) {names : List String}
    (segments : ∀ name ∈ names, IsSegment name) :
    package.length ≤ (names.foldl qualify package).length := by
  induction names generalizing package with
  | nil => exact Nat.le_refl _
  | cons name names ih =>
    obtain ⟨segment, segments⟩ := List.forall_mem_cons.1 segments
    exact Nat.le_trans (Nat.le_of_lt (length_lt_qualify package segment.1)) (ih _ segments)

theorem foldl_qualify_append_ne (package : String) {names : List String} {name : String}
    (segments : ∀ name ∈ names, IsSegment name) (h : IsSegment name) :
    (names ++ [name]).foldl qualify package ≠ package := by
  intro same
  have shorter := Nat.lt_of_le_of_lt (length_le_foldl_qualify package segments)
    (length_lt_qualify (names.foldl qualify package) h.1)
  rw [List.foldl_append, List.foldl_cons, List.foldl_nil] at same
  rw [same] at shorter
  exact Nat.lt_irrefl _ shorter

theorem foldl_qualify_inj {package : String} {names names' : List String}
    (segments : ∀ name ∈ names, IsSegment name) (segments' : ∀ name ∈ names', IsSegment name) :
    names.foldl qualify package = names'.foldl qualify package ↔ names = names' := by
  refine ⟨fun same => ?_, fun same => by rw [same]⟩
  induction names using List.reverseRecOn generalizing names' with
  | nil =>
    cases names' using List.reverseRecOn with
    | nil => rfl
    | append_singleton names' name' =>
      obtain ⟨before', last'⟩ := List.forall_mem_append.1 segments'
      exact absurd same.symm
        (foldl_qualify_append_ne package before' (last' name' (List.mem_singleton_self _)))
  | append_singleton names name ih =>
    obtain ⟨before, last⟩ := List.forall_mem_append.1 segments
    have segment := last name (List.mem_singleton_self _)
    cases names' using List.reverseRecOn with
    | nil => exact absurd same (foldl_qualify_append_ne package before segment)
    | append_singleton names' name' =>
      obtain ⟨before', last'⟩ := List.forall_mem_append.1 segments'
      have segment' := last' name' (List.mem_singleton_self _)
      simp only [List.foldl_append, List.foldl_cons, List.foldl_nil] at same
      obtain ⟨packages, rfl⟩ := (qualify_eq_qualify_iff segment.2 segment'.2).1 same
      rw [ih before before' packages]

end ModelClasses.Naming
