import ModelClasses.LiteralReader

/-! # Values that a literal can stand for

A reference can be read back from its name when the name is one, is no other literal, and has the
kind that a graph of declarations gives it. A value can be read back when it holds no text that is
no literal and all references in it, however deep, can be read back. -/

namespace ModelClasses

/-- A value holds itself, and an array holds what its items hold. -/
inductive AnnotationValue.Holds : AnnotationValue → AnnotationValue → Prop
  | self (v : AnnotationValue) : Holds v v
  | item {items : List AnnotationValue} {v w : AnnotationValue} (h : v ∈ items) (inner : Holds v w) :
      Holds (.array items) w

namespace Literal

/-- A name starts with an underscore or a letter. -/
def isName : List Char → Bool
  | [] => false
  | c :: rest => startsName c && rest.all continuesName

def isReserved (name : List Char) : Bool := (reserved.lookup name).isSome

end Literal

/-- A reference has the kind of the declaration that its name has in a graph; where the name has
none, it refers to an enum constant or to a class. -/
def Reference.Agrees (g : Option DeclarationGraph) (r : Reference) : Prop :=
  match g.bind (·.get? r.qualifiedName) with
  | some d => r.kind = ReferenceKind.ofDeclaration d.kind
  | none => r.kind ≠ .singleton

structure Reference.Readable (g : Option DeclarationGraph) (r : Reference) : Prop where
  name : Literal.isName r.qualifiedName.toList = true
  unreserved : r.kind = .enumConstant → Literal.isReserved r.qualifiedName.toList = false
  agrees : r.Agrees g

namespace AnnotationValue

structure Readable (g : Option DeclarationGraph) (v : AnnotationValue) : Prop where
  supported : ∀ text, ¬ v.Holds (.unsupported text)
  references : ∀ r, v.Holds (.reference r) → r.Readable g

theorem holds_iff {v w : AnnotationValue} :
    v.Holds w ↔ w = v ∨ ∃ items, v = .array items ∧ ∃ x ∈ items, x.Holds w := by
  constructor
  · intro h
    cases h with
    | self => exact .inl rfl
    | item h inner => exact .inr ⟨_, rfl, _, h, inner⟩
  · rintro (rfl | ⟨items, rfl, x, h, inner⟩)
    · exact .self w
    · exact .item h inner

theorem holds_array_iff {items : List AnnotationValue} {w : AnnotationValue} :
    (array items).Holds w ↔ w = array items ∨ ∃ x ∈ items, x.Holds w := by
  rw [holds_iff]
  simp

/-- What is no array holds nothing but itself. -/
theorem holds_scalar_iff {v w : AnnotationValue} (scalar : ∀ items, v ≠ array items) :
    v.Holds w ↔ w = v := by
  rw [holds_iff]
  constructor
  · rintro (same | ⟨items, same, -⟩)
    · exact same
    · exact absurd same (scalar items)
  · exact .inl

theorem readable_scalar (g : Option DeclarationGraph) {v : AnnotationValue}
    (scalar : ∀ items, v ≠ array items) (noReference : ∀ r, v ≠ reference r)
    (supported : ∀ text, v ≠ unsupported text) : v.Readable g where
  supported text h := supported text ((holds_scalar_iff scalar).1 h).symm
  references r h := absurd ((holds_scalar_iff scalar).1 h).symm (noReference r)

theorem readable_reference_iff {g : Option DeclarationGraph} {r : Reference} :
    (reference r).Readable g ↔ r.Readable g := by
  have scalar : ∀ items, reference r ≠ array items := fun _ same => by cases same
  constructor
  · intro h
    exact h.references r (.self _)
  · intro h
    refine ⟨fun text held => ?_, fun other held => ?_⟩
    · cases (holds_scalar_iff scalar).1 held
    · cases (holds_scalar_iff scalar).1 held
      exact h

theorem readable_array_iff {g : Option DeclarationGraph} {items : List AnnotationValue} :
    (array items).Readable g ↔ ∀ v ∈ items, v.Readable g := by
  constructor
  · intro h v hv
    exact ⟨fun text inner => h.supported text (.item hv inner),
      fun r inner => h.references r (.item hv inner)⟩
  · intro h
    refine ⟨fun text held => ?_, fun r held => ?_⟩
    · obtain ⟨x, hx, inner⟩ := (holds_array_iff.1 held).resolve_left (by simp)
      exact (h x hx).supported text inner
    · obtain ⟨x, hx, inner⟩ := (holds_array_iff.1 held).resolve_left (by simp)
      exact (h x hx).references r inner

end AnnotationValue

end ModelClasses
