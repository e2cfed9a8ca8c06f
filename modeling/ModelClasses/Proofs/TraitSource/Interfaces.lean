import ModelClasses.Proofs.TraitSource.Reading

/-! # Interfaces of a file

An interface is read if its supertypes, its attributes and each of its functions are. Its properties
are the functions that only read the value, in their order. -/

namespace ModelClasses.TraitSource

/-- The functions of an interface that properties are read from. -/
def accessors (methods : List Method) : List Method :=
  methods.filter fun m => m.propertyType?.isSome

/-- A property is the one that a function stands for. -/
structure Method.Declares (m : Method) (p : PropertyDeclaration) : Prop where
  name : p.name = m.propertyName
  type : ∃ t, m.propertyType? = some t ∧ t.usage = .ok p.type
  annotations : Attribute.usages m.attributes = .ok p.annotations

theorem Reading.at_ok_iff {α : Type} {place : SourcePlace} {r : Except SourceProblem α} {x : α} :
    (Reading.at_ place r).result = .ok x ↔ r = .ok x :=
  mapError_eq_ok_iff

namespace SourceItem

theorem property?_none {m : Method} (h : m.propertyType? = none) (interface : String) :
    (property? interface m).result = .ok none := by
  rw [property?, h]
  rfl

theorem property?_ok_iff {interface : String} {m : Method} {t : SourceType}
    (h : m.propertyType? = some t) {p? : Option PropertyDeclaration} :
    (property? interface m).result = .ok p? ↔
      ∃ type annotations, t.usage = .ok type ∧ Attribute.usages m.attributes = .ok annotations ∧
        p? = some ⟨m.propertyName, type, annotations⟩ := by
  rw [property?, h]
  refine Reading.at_ok_iff.trans ⟨fun read => ?_, ?_⟩
  · obtain ⟨type, lowered, read⟩ := bind_eq_ok_iff.1 read
    obtain ⟨annotations, given, read⟩ := bind_eq_ok_iff.1 read
    cases read
    exact ⟨type, annotations, lowered, given, rfl⟩
  · rintro ⟨type, annotations, lowered, given, rfl⟩
    exact bind_eq_ok_iff.2 ⟨type, lowered, bind_eq_ok_iff.2 ⟨annotations, given, rfl⟩⟩

theorem declares_of_property? {interface : String} {m : Method} {p : PropertyDeclaration}
    (h : (property? interface m).result = .ok (some p)) :
    m.propertyType?.isSome = true ∧ m.Declares p := by
  cases type : m.propertyType? with
  | none => cases (property?_none type interface).symm.trans h
  | some t =>
    obtain ⟨usage, annotations, lowered, given, same⟩ := (property?_ok_iff type).1 h
    cases same
    exact ⟨rfl, rfl, ⟨t, type, lowered⟩, given⟩

theorem propertyType?_of_passedOver {interface : String} {m : Method}
    (h : (property? interface m).result = .ok none) : m.propertyType?.isSome = false := by
  cases type : m.propertyType? with
  | none => rfl
  | some t =>
    obtain ⟨_, _, -, -, same⟩ := (property?_ok_iff type).1 h
    cases same

variable {o : Origin} {attributes : List Attribute} {name : String} {supertypes : List SourceType}
  {methods : List Method} {d : Declaration}

theorem interfaceDeclaration_ok_iff :
    (interfaceDeclaration o attributes name supertypes methods).result = .ok d ↔
      ∃ types annotations properties, SourceType.usages supertypes = .ok types ∧
        Attribute.usages attributes = .ok annotations ∧
        List.Forall₂ (fun m p? => (property? name m).result = .ok p?) methods properties ∧
        d = { o.declaration name .interface with
          supertypes := types, annotations, properties := properties.filterMap id } := by
  rw [interfaceDeclaration]
  constructor
  · intro h
    obtain ⟨types, lowered, h⟩ := Outcome.bind_ok_iff.1 h
    obtain ⟨annotations, given, h⟩ := Outcome.bind_ok_iff.1 h
    obtain ⟨properties, each, h⟩ := Outcome.bind_ok_iff.1 h
    cases h
    exact ⟨types, annotations, properties, Reading.at_ok_iff.1 lowered, Reading.at_ok_iff.1 given,
      Outcome.forEach_ok_iff.1 each, rfl⟩
  · rintro ⟨types, annotations, properties, lowered, given, each, rfl⟩
    refine Outcome.bind_ok_iff.2 ⟨types, Reading.at_ok_iff.2 lowered, ?_⟩
    refine Outcome.bind_ok_iff.2 ⟨annotations, Reading.at_ok_iff.2 given, ?_⟩
    exact Outcome.bind_ok_iff.2 ⟨properties, Outcome.forEach_ok_iff.2 each, rfl⟩

theorem content_interface_ok_iff {name : Identifier} {c : ItemContent} :
    (content o (.interface attributes name supertypes methods)).result = .ok c ↔
      ∃ d, (interfaceDeclaration o attributes name.name supertypes methods).result = .ok d ∧
        c = ⟨[d], []⟩ := by
  rw [content, Outcome.bind_ok_iff]
  refine exists_congr fun d => and_congr_right fun _ => ?_
  simp [eq_comm]

/-- Functions that are not accessors are passed over, whatever they are. -/
theorem declares_properties {properties : List (Option PropertyDeclaration)}
    (each : List.Forall₂ (fun m p? => (property? name m).result = .ok p?) methods properties) :
    List.Forall₂ Method.Declares (accessors methods) (properties.filterMap id) := by
  refine forall₂_filterMap each fun m p? read => ?_
  cases p? with
  | none => exact propertyType?_of_passedOver read
  | some p => exact declares_of_property? read

end SourceItem

namespace ItemPlace

/-- The declaration of an interface of a file. -/
theorem exists_interface {place : ItemPlace} {o : Origin} {attributes : List Attribute}
    {name : Identifier} {supertypes : List SourceType} {methods : List Method}
    {g : DeclarationGraph}
    (h : (declarationsOf o (place.fill (.interface attributes name supertypes methods))).result =
      .ok g) :
    ∃ d ∈ g.declarations, d.kind = .interface ∧ d.package = (o.within place.modules).package ∧
      d.name = name.name ∧ List.Forall₂ Method.Declares (accessors methods) d.properties := by
  obtain ⟨own, read, declared⟩ := exists_extends_of_fill h
  obtain ⟨d, first, rfl⟩ := SourceItem.content_interface_ok_iff.1 read
  obtain ⟨d', inside, more, rfl⟩ := declared d List.mem_cons_self
  obtain ⟨types, annotations, properties, -, -, each, rfl⟩ :=
    SourceItem.interfaceDeclaration_ok_iff.1 first
  exact ⟨_, inside, rfl, rfl, rfl, SourceItem.declares_properties each⟩

end ItemPlace

end ModelClasses.TraitSource
