import ModelClasses.Annotations
import ModelClasses.Proofs.Hierarchy
import ModelClasses.Proofs.Literal.Readable
import ModelClasses.Proofs.Outcome

/-! # References of annotations

Where the names of a graph are names, and no enum constant is called like another literal, every
reference that is resolved in the graph can be read back from its name: it is to a declaration of
the graph, whose kind it has, or to a built-in class, whose name the graph may lack. -/

namespace ModelClasses

/-- Declarations whose qualified names are names, and enum constants that are called like no other
literal. -/
structure DeclarationGraph.WellNamed (g : DeclarationGraph) : Prop where
  names : ∀ d ∈ g.declarations, Literal.isName d.qualifiedName.toList = true
  unreserved : ∀ d ∈ g.declarations, d.kind = .enumEntry →
    Literal.isReserved d.qualifiedName.toList = false

/-- The references in a value can be read back. -/
def AnnotationValue.RefersTo (g : DeclarationGraph) (v : AnnotationValue) : Prop :=
  ∀ r, v.Holds (.reference r) → r.Readable (some g)

theorem isName_builtin : ∀ name ∈ builtinTypes, Literal.isName name.toList = true := by
  decide +kernel

namespace DeclarationGraph

theorem resolveName?_cases {g : DeclarationGraph} {package name qualified : String}
    (h : g.resolveName? package name = some qualified) :
    (∃ d, g.get? qualified = some d) ∨ qualified ∈ builtinTypes := by
  have builtin {name : String} (h : isBuiltin name) : name ∈ builtinTypes := by
    simpa [isBuiltin] using h
  rw [resolveName?] at h
  split at h
  · rename_i declared
    cases h
    exact .inl (Option.isSome_iff_exists.1 declared)
  · split at h
    · rename_i declared
      cases h
      exact .inl (Option.isSome_iff_exists.1 (Bool.and_eq_true_iff.1 declared).2)
    · split at h
      · rename_i known
        cases h
        exact .inr (builtin known)
      · exact .inr (builtin (List.find?_some h))

theorem readable_referenceTo {g : DeclarationGraph} (wellNamed : g.WellNamed)
    {package name qualified : String} (h : g.resolveName? package name = some qualified) :
    (g.referenceTo qualified).Readable (some g) := by
  cases found : g.get? qualified with
  | none =>
    have class_ : (g.referenceTo qualified).kind = .class_ := by rw [referenceTo, found]; rfl
    have builtin : qualified ∈ builtinTypes := by
      rcases resolveName?_cases h with ⟨d, declared⟩ | builtin
      · rw [found] at declared
        cases declared
      · exact builtin
    refine ⟨isName_builtin _ builtin, ?_, ?_⟩
    · rw [class_]
      rintro ⟨⟩
    · have missing : (some g).bind (·.get? (g.referenceTo qualified).qualifiedName) = none := found
      rw [Reference.Agrees, missing, class_]
      rintro ⟨⟩
  | some d =>
    have kind : (g.referenceTo qualified).kind = ReferenceKind.ofDeclaration d.kind := by
      rw [referenceTo, found]; rfl
    have declared := mem_of_get? found
    have name := qualifiedName_of_get? found
    refine ⟨?_, ?_, ?_⟩
    · rw [referenceTo, ← name]
      exact wellNamed.names d declared
    · rw [kind, referenceTo, ← name]
      intro constant
      apply wellNamed.unreserved d declared
      cases kind : d.kind <;> rw [kind] at constant <;> first | rfl | cases constant
    · have present : (some g).bind (·.get? (g.referenceTo qualified).qualifiedName) = some d := found
      rw [Reference.Agrees, present, kind]

mutual
theorem refersTo_resolveValue {g : DeclarationGraph} (wellNamed : g.WellNamed)
    {package context : String} : ∀ {u : ArgumentValue} {v : AnnotationValue},
      g.resolveValue package context u = .ok v → v.RefersTo g
  | .bool _, v, h | .integer _, v, h | .float _, v, h | .double _, v, h | .string _, v, h
  | .char _, v, h | .expression _, v, h => by
    rw [resolveValue] at h
    cases h
    intro r held
    cases held
  | .reference name, v, h => by
    rw [resolveValue] at h
    split at h
    · cases h
    · rename_i qualified resolved
      cases h
      intro r held
      cases held
      exact readable_referenceTo wellNamed resolved
  | .array us, v, h => by
    rw [resolveValue] at h
    obtain ⟨items, resolved, rfl⟩ := map_eq_ok_iff.1 h
    intro r held
    rcases AnnotationValue.holds_array_iff.1 held with same | ⟨x, hx, inner⟩
    · cases same
    · exact refersTo_resolveValues wellNamed resolved x hx r inner

theorem refersTo_resolveValues {g : DeclarationGraph} (wellNamed : g.WellNamed)
    {package context : String} : ∀ {us : List ArgumentValue} {vs : List AnnotationValue},
      g.resolveValues package context us = .ok vs → ∀ v ∈ vs, v.RefersTo g
  | [], vs, h => by
    rw [resolveValues] at h
    cases h
    intro v hv
    cases hv
  | u :: us, vs, h => by
    rw [resolveValues] at h
    split at h
    · cases h
    · rename_i first resolved
      obtain ⟨others, later, rfl⟩ := map_eq_ok_iff.1 h
      intro v hv
      rcases List.mem_cons.1 hv with rfl | hv
      · exact refersTo_resolveValue wellNamed resolved
      · exact refersTo_resolveValues wellNamed later v hv
end

theorem refersTo_resolveAnnotations {g : DeclarationGraph} (wellNamed : g.WellNamed) {s : Settings}
    {package : String} {usages : List AnnotationUsage} {annotations : List AnnotationRecord}
    (h : g.resolveAnnotations s package usages = .ok annotations) :
    ∀ a ∈ annotations, ∀ x ∈ a.arguments, x.value.RefersTo g := by
  intro a ha x hx
  obtain ⟨usage, -, resolved⟩ := exists_of_mem_right (mapM_eq_ok_iff.1 h) ha
  obtain ⟨arguments, each, rfl⟩ := map_eq_ok_iff.1 resolved
  obtain ⟨argument, -, given⟩ := exists_of_mem_right (mapM_eq_ok_iff.1 each) hx
  obtain ⟨v, value, rfl⟩ := map_eq_ok_iff.1 given
  exact refersTo_resolveValue wellNamed value

end DeclarationGraph

namespace AnnotationValue

theorem areRenderable_iff {items : List AnnotationValue} :
    areRenderable items = true ↔ ∀ v ∈ items, v.isRenderable = true := by
  induction items with
  | nil => simp [areRenderable]
  | cons v items ih => simp [areRenderable, ih]

/-- All that a value which can be written holds can be written. -/
theorem Holds.isRenderable {v w : AnnotationValue} (held : v.Holds w) (h : v.isRenderable = true) :
    w.isRenderable = true := by
  induction held with
  | self => exact h
  | item hv _ ih =>
    rw [AnnotationValue.isRenderable] at h
    exact ih (areRenderable_iff.1 h _ hv)

theorem readable_of_isRenderable {g : DeclarationGraph} {v : AnnotationValue}
    (h : v.isRenderable = true) (refers : v.RefersTo g) : v.Readable (some g) where
  supported text held := by
    have absurd := held.isRenderable h
    rw [isRenderable] at absurd
    cases absurd
  references := refers

end AnnotationValue

end ModelClasses
