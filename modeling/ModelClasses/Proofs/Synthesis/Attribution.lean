import ModelClasses.Proofs.Resolution
import ModelClasses.Proofs.Synthesis.Acceptance

/-! # What a failure of a property concerns

Every step that looks at the annotations of a property fails with a failure of that property. A type
that is written on a modifier does not know of the property, which is added to its failure. -/

namespace ModelClasses

namespace Synthesis

/-- If a step fails, the failure is one of a property. -/
def Concerns {α : Type} (property : String) (r : Except GenerationError α) : Prop :=
  ∀ e, r = .error e → e.property? = some property

variable {α β : Type} {property : String}

theorem concerns_ok (x : α) : Concerns property (.ok x) := nofun

theorem concerns_error {e : GenerationError} (h : e.property? = some property) :
    Concerns property (.error e : Except GenerationError α) := by
  rintro _ ⟨⟩
  exact h

theorem Concerns.bind {r : Except GenerationError α} {f : α → Except GenerationError β}
    (h : Concerns property r) (h' : ∀ x, Concerns property (f x)) : Concerns property (r >>= f) := by
  intro e failed
  rcases bind_eq_error_iff.1 failed with first | ⟨x, -, later⟩
  · exact h e first
  · exact h' x e later

variable (g : DeclarationGraph) (s : Settings) (p : PropertyDescriptor) (a : AnnotationRecord)

theorem concerns_required (argument : String) : Concerns p.name (required p a argument) := by
  rw [required]
  split
  · exact concerns_ok _
  · exact concerns_error rfl

theorem concerns_unsupported (argument : String) (v : AnnotationValue) :
    Concerns p.name (unsupported p a argument v : Except GenerationError α) :=
  concerns_error rfl

theorem concerns_singleton (argument role : String) (v : AnnotationValue) :
    Concerns p.name (singleton p a argument role v) := by
  unfold singleton
  split
  · exact concerns_ok _
  · exact concerns_error rfl
  · exact concerns_unsupported p a argument _

theorem concerns_copyRecord : Concerns p.name (copyRecord p a) := by
  intro e failed
  rw [← failure?_eq_some_iff, copyRecord, failure?_map, failure?_mapM] at failed
  obtain ⟨x, -, failed⟩ := List.exists_of_findSome?_eq_some failed
  rw [copyArgument] at failed
  split at failed
  · cases failed
  · exact concerns_unsupported p a x.name x.value e (failure?_eq_some_iff.1 failed)

/-- The names in a modifier's supertypes are resolved for the property that it is used for. -/
theorem concerns_resolveStrict (package context : String) (t : TypeUsage) :
    Concerns property ((g.resolveStrict package context t).mapError (·.onProperty property)) := by
  intro e failed
  rw [← failure?_eq_some_iff, failure?_mapError, DeclarationGraph.failure?_resolveStrict,
    ← List.head?_map, DeclarationGraph.map_onProperty_unresolved] at failed
  exact DeclarationGraph.property?_unresolved e (List.mem_of_mem_head? failed)

theorem concerns_modifierSignature (modifier : String) :
    Concerns p.name (modifierSignature g s p modifier) := by
  unfold modifierSignature
  split
  · exact concerns_error rfl
  · split
    · refine (concerns_resolveStrict g _ _ _).bind fun input => ?_
      refine (concerns_resolveStrict g _ _ _).bind fun output => ?_
      exact concerns_ok _
    · exact concerns_error rfl

theorem concerns_createdName : Concerns p.name (createdName p a) := by
  refine (concerns_required p a _).bind fun v => ?_
  split
  · split
    · exact concerns_unsupported p a _ _
    · exact concerns_ok _
  · exact concerns_unsupported p a _ _

theorem concerns_createProperty : Concerns p.name (createProperty g s p a) := by
  refine (concerns_createdName p a).bind fun name => ?_
  refine (concerns_required p a _).bind fun v => ?_
  refine (concerns_singleton p a _ _ v).bind fun modifier => ?_
  refine (concerns_modifierSignature g s p modifier).bind fun signature => ?_
  dsimp only
  split
  · exact concerns_error rfl
  · exact concerns_ok _

theorem concerns_defaultValue (tag : Tag) : Concerns p.name (defaultValue p tag a) := by
  refine (concerns_required p a _).bind fun v => ?_
  split
  · split
    · exact concerns_ok _
    · exact concerns_unsupported p a _ v
  · exact (concerns_singleton p a _ _ v).bind fun receiver => concerns_ok _
  · exact concerns_unsupported p a _ v

theorem concerns_deriveText : Concerns p.name (deriveText p a) := by
  refine (concerns_required p a _).bind fun v => ?_
  split
  · exact concerns_ok _
  · exact concerns_unsupported p a _ _

theorem property?_failures : ∀ e ∈ failures g s p, e.property? = some p.name := by
  intro e he
  rcases List.mem_append.1 he with he | he
  · obtain ⟨a, -, failed⟩ := List.mem_filterMap.1 he
    rw [annotationFailure?] at failed
    split at failed
    · exact concerns_copyRecord p a e (failure?_eq_some_iff.1 failed)
    · exact concerns_createProperty g s p a e (failure?_eq_some_iff.1 failed)
    · cases failed
  · rw [Option.mem_toList, sourceFailure?] at he
    split at he
    · cases he
      rfl
    · rcases Option.or_eq_some_iff.1 he with failed | ⟨-, failed⟩
      · obtain ⟨a, -, failed⟩ := List.exists_of_findSome?_eq_some failed
        exact concerns_deriveText p a e (failure?_eq_some_iff.1 failed)
      · obtain ⟨x, -, failed⟩ := List.exists_of_findSome?_eq_some failed
        exact concerns_defaultValue p x.2 x.1 e (failure?_eq_some_iff.1 failed)

end Synthesis

end ModelClasses
