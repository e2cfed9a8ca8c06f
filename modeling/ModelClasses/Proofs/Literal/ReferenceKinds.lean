import ModelClasses.Proofs.Literal.Exact

/-! # What a graph decides about a literal

Reading where declarations are known and reading where none is known take the same steps: they stop at
the same fault or give the same value, in which only the kinds of references to declarations differ. -/

namespace ModelClasses

/-- A reference as a graph knows it: a declaration gives its kind, and a name without a declaration
keeps the kind that it has. -/
def Reference.inGraph (g : DeclarationGraph) (r : Reference) : Reference :=
  match g.get? r.qualifiedName with
  | some d => ⟨r.qualifiedName, .ofDeclaration d.kind⟩
  | none => r

namespace AnnotationValue

mutual
/-- A value with another reference in the place of each one in it. -/
def mapReferences (f : Reference → Reference) : AnnotationValue → AnnotationValue
  | reference r => reference (f r)
  | array items => array (mapItemReferences f items)
  | bool b => bool b
  | integer i => integer i
  | float x => float x
  | double x => double x
  | string s => string s
  | char c => char c
  | unsupported s => unsupported s

def mapItemReferences (f : Reference → Reference) : List AnnotationValue → List AnnotationValue
  | [] => []
  | v :: rest => mapReferences f v :: mapItemReferences f rest
end

mutual
theorem mapReferences_mapReferences (f h : Reference → Reference) :
    ∀ v : AnnotationValue, (v.mapReferences f).mapReferences h = v.mapReferences (h ∘ f)
  | array items => congrArg array (mapItemReferences_mapItemReferences f h items)
  | reference _ | bool _ | integer _ | float _ | double _ | string _ | char _ | unsupported _ => rfl

theorem mapItemReferences_mapItemReferences (f h : Reference → Reference) :
    ∀ items : List AnnotationValue,
      mapItemReferences h (mapItemReferences f items) = mapItemReferences (h ∘ f) items
  | [] => rfl
  | v :: rest =>
    congrArg₂ List.cons (mapReferences_mapReferences f h v)
      (mapItemReferences_mapItemReferences f h rest)
end

theorem mapReferences_scalar (f : Reference → Reference) {v : AnnotationValue}
    (scalar : ∀ items, v ≠ array items) (noReference : ∀ r, v ≠ reference r) :
    v.mapReferences f = v := by
  cases v with
  | array items => exact absurd rfl (scalar items)
  | reference r => exact absurd rfl (noReference r)
  | bool _ | integer _ | float _ | double _ | string _ | char _ | unsupported _ => rfl

/-- A value without the kinds of its references: every one of them counts as a class. -/
def withoutKinds (v : AnnotationValue) : AnnotationValue :=
  v.mapReferences fun r => ⟨r.qualifiedName, .class_⟩

theorem withoutKinds_inGraph (g : DeclarationGraph) (v : AnnotationValue) :
    (v.mapReferences (Reference.inGraph g)).withoutKinds = v.withoutKinds := by
  have same : (fun r : Reference => (⟨r.qualifiedName, .class_⟩ : Reference)) ∘ Reference.inGraph g =
      fun r => ⟨r.qualifiedName, .class_⟩ := by
    funext r
    rw [Function.comp_apply, Reference.inGraph]
    split <;> rfl
  rw [withoutKinds, mapReferences_mapReferences, same, withoutKinds]

end AnnotationValue

namespace Literal

open AnnotationValue Reference

variable (g : DeclarationGraph)

/-- What is read, with its references as a graph knows them. -/
def known (r : AnnotationValue × List Char) : AnnotationValue × List Char :=
  (r.1.mapReferences (inGraph g), r.2)

theorem reference_some (name : List Char) (written : ReferenceKind) :
    reference (some g) name written = (reference none name written).mapReferences (inGraph g) := by
  simp only [reference, Option.bind_some, Option.bind_none, Option.map_none, Option.getD_none,
    mapReferences, inGraph]
  cases g.get? (String.ofList name) <;> rfl

theorem mapReferences_reserved (f : Reference → Reference) {name : List Char} {v : AnnotationValue}
    (h : (name, v) ∈ reserved) : v.mapReferences f = v := by
  obtain ⟨scalar, noReference, -⟩ := scalar_of_reserved _ h
  exact mapReferences_scalar f scalar noReference

/-- The graph is asked only after the mark of a class and the words for values. -/
theorem readName_some (cs : List Char) : readName (some g) cs = (readName none cs).map (known g) := by
  unfold readName
  dsimp only
  split
  · rw [reference_some]
    rfl
  · split
    · rename_i v found
      rw [Except.map, known, mapReferences_reserved _ (lookup_reserved_iff.1 found)]
    · rw [reference_some]
      rfl

/-- Reading something that holds no references does not depend on a graph. -/
theorem map_known {α : Type} (value : α → AnnotationValue)
    (free : ∀ x, (value x).mapReferences (inGraph g) = value x) (read : Read α) :
    (read.map fun r => (value r.1, r.2)).map (known g) = read.map fun r => (value r.1, r.2) := by
  cases read with
  | error e => rfl
  | ok r => simp [Except.map, known, free]

theorem orNumber_known {α : Type} (run rest : List Char) (found : Option α)
    {value : α → AnnotationValue} (free : ∀ x, (value x).mapReferences (inGraph g) = value x) :
    (orNumber run (found.map value) rest).map (known g) = orNumber run (found.map value) rest := by
  cases found with
  | none => rfl
  | some x => simp [orNumber, Except.map, known, free]

theorem readNumber_known (cs : List Char) : (readNumber cs).map (known g) = readNumber cs := by
  unfold readNumber
  dsimp only
  split
  · exact orNumber_known g _ _ _ fun _ => rfl
  · exact orNumber_known g _ _ _ fun _ => rfl
  · split
    · exact orNumber_known g _ _ _ fun _ => rfl
    · exact orNumber_known g _ _ _ fun _ => rfl

/-- Items that are read, with their references as a graph knows them. -/
def knownItems (r : List AnnotationValue × List Char) : List AnnotationValue × List Char :=
  (mapItemReferences (inGraph g) r.1, r.2)

theorem readValue_some {fuel : ℕ}
    (items : ∀ cs, readItems (some g) fuel cs = (readItems none fuel cs).map (knownItems g))
    (cs : List Char) :
    readValue (some g) (fuel + 1) cs = (readValue none (fuel + 1) cs).map (known g) := by
  rw [readValue.eq_def, readValue.eq_def]
  dsimp only
  split
  · rfl
  · rfl
  · rw [items]
    cases readItems none fuel _ <;> rfl
  · exact (map_known g (fun cs => .string (String.ofList cs)) (fun _ => rfl) _).symm
  · exact (map_known g .char (fun _ => rfl) _).symm
  · split
    · exact (readNumber_known g _).symm
    split
    · exact readName_some g _
    · rfl

theorem readItems_some {fuel : ℕ}
    (value : ∀ cs, readValue (some g) fuel cs = (readValue none fuel cs).map (known g))
    (items : ∀ cs, readItems (some g) fuel cs = (readItems none fuel cs).map (knownItems g))
    (cs : List Char) :
    readItems (some g) (fuel + 1) cs = (readItems none (fuel + 1) cs).map (knownItems g) := by
  rw [readItems, readItems, value]
  cases readValue none fuel cs with
  | error e => rfl
  | ok r =>
    obtain ⟨v, _ | ⟨c, rest⟩⟩ := r
    · rfl
    by_cases closes : c = ']'
    · subst closes
      rfl
    by_cases goesOn : c = ','
    · subst goesOn
      simp only [Except.map, known, items]
      cases readItems none fuel _ <;> rfl
    · simp [Except.map, known]

/-- The induction is on the fuel, which reading a value and reading items share. -/
theorem readWhole_some (fuel : ℕ) :
    (∀ cs, readValue (some g) fuel cs = (readValue none fuel cs).map (known g)) ∧
    (∀ cs, readItems (some g) fuel cs = (readItems none fuel cs).map (knownItems g)) := by
  induction fuel with
  | zero => exact ⟨fun _ => rfl, fun _ => rfl⟩
  | succ fuel ih => exact ⟨readValue_some g ih.2, readItems_some g ih.1 ih.2⟩

theorem read_some (cs : List Char) :
    read (some g) cs = (read none cs).map (mapReferences (inGraph g)) := by
  rw [read, read, (readWhole_some g (fuelFor cs)).1]
  cases readValue none (fuelFor cs) cs with
  | error e => rfl
  | ok r =>
    obtain ⟨v, rest⟩ := r
    cases rest <;> rfl

end Literal

/-- A graph changes no error and no value but for the kinds of references. These are the ones that the
grammar gives to the text by itself, except where the graph declares the name. -/
theorem AnnotationValue.parse_parseIn (g : DeclarationGraph) (t : String) :
    (∃ e, parse t = .error e ∧ parseIn g t = .error e) ∨
    ∃ v w, parse t = .ok v ∧ parseIn g t = .ok w ∧ w.withoutKinds = v.withoutKinds ∧
      Literal.Denotes none [] t.toList v ∧ w = v.mapReferences (Reference.inGraph g) := by
  rw [parse, parseIn, Literal.read_some]
  cases read : Literal.read none t.toList with
  | error e => exact .inl ⟨e, rfl, rfl⟩
  | ok v =>
    exact .inr ⟨v, _, rfl, rfl, withoutKinds_inGraph g v, Literal.read_eq_ok_iff.1 read, rfl⟩

end ModelClasses
