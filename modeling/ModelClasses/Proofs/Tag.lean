import ModelClasses.Proofs.Naming
import ModelClasses.Tag

/-! # The vocabulary of tags

Every tag has a name of its own, and so have the interfaces of providers and modifiers. The names are
told apart by their simple names, whatever the package of the annotations is. -/

namespace ModelClasses

theorem Tag.find?_vocabulary :
    ∀ entry ∈ Tag.vocabulary, Tag.vocabulary.find? (·.1 == entry.1) = some entry := by
  decide +kernel

namespace Settings

variable (s : Settings)

theorem tag?_eq_some_iff {qualified : String} {tag : Tag} :
    s.tag? qualified = some tag ↔
      ∃ name, (name, tag) ∈ Tag.vocabulary ∧ qualified = s.qualify name := by
  constructor
  · intro h
    obtain ⟨⟨name, tag'⟩, found, rfl⟩ := Option.map_eq_some_iff.1 h
    have named := List.find?_some found
    exact ⟨name, List.mem_of_find?_eq_some found, (beq_iff_eq.1 named).symm⟩
  · rintro ⟨name, entry, rfl⟩
    have same : (fun other : String × Tag => s.qualify other.1 == s.qualify name) =
        (·.1 == name) := by
      funext other
      rw [Bool.eq_iff_iff, beq_iff_eq, beq_iff_eq]
      exact Naming.qualify_inj
    rw [tag?, same, Tag.find?_vocabulary _ entry]
    rfl

theorem tag?_eq_generate_iff {qualified : String} :
    s.tag? qualified = some .generate ↔ qualified = s.generateTag := by
  have only : ∀ name, (name, Tag.generate) ∈ Tag.vocabulary ↔ name = Tag.generateName := by
    intro name
    simp [Tag.vocabulary]
  rw [tag?_eq_some_iff]
  simp [only, generateTag]

theorem simpleName_valueModifier : Naming.simpleName s.valueModifier = Tag.modifierName :=
  Naming.simpleName_qualify _ (by decide)

theorem simpleName_valueProvider : Naming.simpleName s.valueProvider = Tag.providerName :=
  Naming.simpleName_qualify _ (by decide)

theorem valueProvider_ne_valueModifier : s.valueProvider ≠ s.valueModifier := by
  intro same
  have names := congrArg Naming.simpleName same
  rw [simpleName_valueProvider, simpleName_valueModifier] at names
  exact absurd names (by decide)

end Settings

end ModelClasses
