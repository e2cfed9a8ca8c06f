import ModelClasses.Proofs.Literal.Exact

/-! # Canonical forms of literals

A value that is read can be written, whatever spelling it is read from: a number that overflows is an
infinity and has a name, and a reference has the kind that its declaration gives it. What is written
for it is then read as the value again. -/

namespace ModelClasses

theorem ReferenceKind.ofDeclaration_eq_enumConstant_iff {kind : DeclarationKind} :
    ofDeclaration kind = enumConstant ↔ kind = .enumEntry := by
  cases kind <;> simp [ofDeclaration]

namespace Literal

/-- No enum constant of a graph is called like another literal. -/
def Unreserved (g : Option DeclarationGraph) : Prop :=
  ∀ name d, g.bind (·.get? name) = some d → d.kind = .enumEntry → isReserved name.toList = false

theorem unreserved_some {g : DeclarationGraph} (h : ∀ d ∈ g.declarations, d.kind = .enumEntry →
    isReserved d.qualifiedName.toList = false) : Unreserved (some g) := by
  intro name d found constant
  rw [← DeclarationGraph.qualifiedName_of_get? found]
  exact h d (DeclarationGraph.mem_of_get? found) constant

theorem agrees_reference {g : Option DeclarationGraph} {name : String} {written : ReferenceKind}
    (hw : written ≠ .singleton) :
    Reference.Agrees g ⟨name, ((g.bind (·.get? name)).map fun d =>
      ReferenceKind.ofDeclaration d.kind).getD written⟩ := by
  unfold Reference.Agrees
  cases g.bind (·.get? name) with
  | none => exact hw
  | some d => rfl

/-- A name that is read as a reference, with a mark or without one, is written as it. -/
theorem readable_reference {g : Option DeclarationGraph} (unreserved : Unreserved g)
    {name : List Char} (hn : isName name) {written : ReferenceKind} (hw : written ≠ .singleton)
    (free : written = .enumConstant → isReserved name = false) :
    (reference g name written).Readable g := by
  refine AnnotationValue.readable_reference_iff.2 ⟨?_, ?_, agrees_reference hw⟩
  · rwa [String.toList_ofList]
  · intro constant
    rw [String.toList_ofList]
    cases found : g.bind (·.get? (String.ofList name)) with
    | none =>
      rw [found] at constant
      exact free constant
    | some d =>
      rw [found] at constant
      have entry := ReferenceKind.ofDeclaration_eq_enumConstant_iff.1 constant
      simpa using unreserved _ d found entry

theorem readable_reserved (g : Option DeclarationGraph) {name : List Char} {v : AnnotationValue}
    (h : (name, v) ∈ reserved) : v.Readable g := by
  obtain ⟨scalar, noReference, supported⟩ := scalar_of_reserved _ h
  exact AnnotationValue.readable_scalar g scalar noReference supported

theorem NameText.readable {g : Option DeclarationGraph} (unreserved : Unreserved g)
    {rest text : List Char} {v : AnnotationValue} (h : NameText g rest text v) : v.Readable g := by
  cases h with
  | class_ hn => exact readable_reference unreserved hn (by simp) (by simp)
  | word h => exact readable_reserved g h
  | constant hn free =>
    have other : isReserved text = false := by
      rw [isReserved, Option.isSome_eq_false_iff, Option.isNone_iff_eq_none]
      exact Option.eq_none_iff_forall_ne_some.2 fun w found => free w (lookup_reserved_iff.1 found)
    exact readable_reference unreserved hn (by simp) fun _ => other

theorem NumberText.readable (g : Option DeclarationGraph) {rest text : List Char} {v : AnnotationValue}
    (h : NumberText rest text v) : v.Readable g := by
  cases h <;> exact AnnotationValue.readable_scalar g (by simp) (by simp) (by simp)

mutual
/-- The induction is on the derivation of the value: only names can be references. -/
theorem Denotes.readable {g : Option DeclarationGraph} (unreserved : Unreserved g)
    {rest text : List Char} {v : AnnotationValue} (h : Denotes g rest text v) : v.Readable g := by
  cases h with
  | emptyArray => exact AnnotationValue.readable_array_iff.2 (by simp)
  | array items => exact AnnotationValue.readable_array_iff.2 (items.readable unreserved)
  | string | char => exact AnnotationValue.readable_scalar g (by simp) (by simp) (by simp)
  | number number => exact number.readable g
  | name name => exact name.readable unreserved

theorem DenoteItems.readable {g : Option DeclarationGraph} (unreserved : Unreserved g)
    {rest text : List Char} {items : List AnnotationValue} (h : DenoteItems g rest text items) :
    ∀ v ∈ items, v.Readable g := by
  cases h with
  | last value => exact List.forall_mem_singleton.2 (value.readable unreserved)
  | comma n first others =>
    exact List.forall_mem_cons.2 ⟨first.readable unreserved, others.readable unreserved⟩
end

end Literal

/-- Where no enum constant is called like another literal, the literal of a value that is read is
read as the value. -/
theorem AnnotationValue.parseIn_literal_of_parseIn (g : DeclarationGraph)
    (unreserved : ∀ d ∈ g.declarations, d.kind = .enumEntry →
      Literal.isReserved d.qualifiedName.toList = false)
    (t : String) (v : AnnotationValue) (h : AnnotationValue.parseIn g t = .ok v) :
    AnnotationValue.parseIn g v.literal = .ok v := by
  rw [parseIn] at h ⊢
  have denotes := Literal.read_eq_ok_iff.1 h
  exact Literal.read_literal (denotes.readable (Literal.unreserved_some unreserved))

/-- Other escapes, no spaces, a number that is too large, and kinds that the graph overrules. -/
theorem AnnotationValue.parseIn_literal_of_parseIn_spellings :
    let g : DeclarationGraph := ⟨[{ package := "p", name := "Registry", kind := .object },
      { package := "p.Color", name := "Red", kind := .enumEntry }]⟩
    let t : String := "[\"\\u0041\\'$\",1e999f,p.Registry,p.Color.Red::class]"
    (∀ d ∈ g.declarations, d.kind = .enumEntry →
      Literal.isReserved d.qualifiedName.toList = false) ∧
    ∃ v, AnnotationValue.parseIn g t = .ok v ∧
      v.literal = "[\"A'\\$\", Float.POSITIVE_INFINITY, p.Registry::class, p.Color.Red]" ∧
      AnnotationValue.parseIn g v.literal = .ok v := by
  intro g t
  have unreserved : ∀ d ∈ g.declarations, d.kind = .enumEntry →
      Literal.isReserved d.qualifiedName.toList = false := by decide +kernel
  have written : (AnnotationValue.parseIn g t).map literal =
      .ok "[\"A'\\$\", Float.POSITIVE_INFINITY, p.Registry::class, p.Color.Red]" := by
    decide +kernel
  obtain ⟨v, reads, canonical⟩ := map_eq_ok_iff.1 written
  exact ⟨unreserved, v, reads, canonical, parseIn_literal_of_parseIn g unreserved t v reads⟩

end ModelClasses
