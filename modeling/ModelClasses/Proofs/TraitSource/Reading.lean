import ModelClasses.Proofs.TraitSource.Additions

/-! # The items of a file

The items of a file are read one after the other, those of a module in the package that the module
adds its name to. What an item declares depends on nothing around it but the modules that it stands
in. Implementations are applied after all items: they never fail, and of the declarations that were
read they change only the supertypes. -/

namespace ModelClasses.TraitSource

/-- A place among the items of a file, directly among them or inside a module. -/
inductive ItemPlace
  | here (before after : List SourceItem)
  | inside (before : List SourceItem) (name : Identifier) (place : ItemPlace)
      (after : List SourceItem)

namespace ItemPlace

/-- The modules around a place, the outermost first. -/
def modules : ItemPlace → List Identifier
  | here _ _ => []
  | inside _ name place _ => name :: place.modules

/-- The items of a file that has an item at a place. -/
def fill : ItemPlace → SourceItem → List SourceItem
  | here before after, item => before ++ item :: after
  | inside before name place after, item => before ++ .module name (place.fill item) :: after

end ItemPlace

namespace Origin

/-- The origin of the items inside some modules. -/
def within (o : Origin) (modules : List Identifier) : Origin := modules.foldl inside o

@[simp] theorem within_cons (o : Origin) (module : Identifier) (modules : List Identifier) :
    o.within (module :: modules) = (o.inside module).within modules := rfl

end Origin

namespace ItemContent

@[simp] theorem empty_append (c : ItemContent) : ({} : ItemContent).append c = c := rfl

theorem append_assoc (a b c : ItemContent) : (a.append b).append c = a.append (b.append c) := by
  simp [append]

end ItemContent

namespace SourceItem

variable {o : Origin}

theorem contents_cons_ok_iff {item : SourceItem} {rest : List SourceItem} {c : ItemContent} :
    (contents o (item :: rest)).result = .ok c ↔
      ∃ first others, (content o item).result = .ok first ∧ (contents o rest).result = .ok others ∧
        c = first.append others := by
  rw [contents]
  constructor
  · intro h
    obtain ⟨first, read, h⟩ := Outcome.bind_ok_iff.1 h
    obtain ⟨others, reads, h⟩ := Outcome.bind_ok_iff.1 h
    cases h
    exact ⟨first, others, read, reads, rfl⟩
  · rintro ⟨first, others, read, reads, rfl⟩
    exact Outcome.bind_ok_iff.2 ⟨first, read, Outcome.bind_ok_iff.2 ⟨others, reads, rfl⟩⟩

theorem contents_append_ok_iff {items rest : List SourceItem} {c : ItemContent} :
    (contents o (items ++ rest)).result = .ok c ↔
      ∃ a b, (contents o items).result = .ok a ∧ (contents o rest).result = .ok b ∧
        c = a.append b := by
  induction items generalizing c with
  | nil => simp [contents]
  | cons item items ih =>
    simp only [List.cons_append, contents_cons_ok_iff, ih]
    constructor
    · rintro ⟨first, -, read, ⟨a, b, reads, reads', rfl⟩, rfl⟩
      exact ⟨_, b, ⟨first, a, read, reads, rfl⟩, reads', (ItemContent.append_assoc first a b).symm⟩
    · rintro ⟨-, b, ⟨first, a, read, reads, rfl⟩, reads', rfl⟩
      exact ⟨first, _, read, ⟨a, b, reads, reads', rfl⟩, ItemContent.append_assoc first a b⟩

end SourceItem

namespace ItemPlace

open SourceItem

/-- What is read from the items in front of a place and from those behind it. -/
def Reads : ItemPlace → Origin → ItemContent → ItemContent → Prop
  | here before after, o, front, back =>
    (contents o before).result = .ok front ∧ (contents o after).result = .ok back
  | inside before name place after, o, front, back =>
    ∃ outerFront innerFront innerBack outerBack,
      (contents o before).result = .ok outerFront ∧
      place.Reads (o.inside name) innerFront innerBack ∧
      (contents o after).result = .ok outerBack ∧
      front = outerFront.append innerFront ∧ back = innerBack.append outerBack

/-- An item is read in the package of the modules that it stands in, whatever is around them. -/
theorem contents_fill_ok_iff {place : ItemPlace} {o : Origin} {item : SourceItem} {c : ItemContent} :
    (contents o (place.fill item)).result = .ok c ↔
      ∃ front own back, place.Reads o front back ∧
        (content (o.within place.modules) item).result = .ok own ∧
        c = front.append (own.append back) := by
  induction place generalizing o c with
  | here before after =>
    rw [fill, contents_append_ok_iff]
    simp only [contents_cons_ok_iff]
    constructor
    · rintro ⟨front, -, reads, ⟨own, back, read, reads', rfl⟩, rfl⟩
      exact ⟨front, own, back, ⟨reads, reads'⟩, read, rfl⟩
    · rintro ⟨front, own, back, ⟨reads, reads'⟩, read, rfl⟩
      exact ⟨front, _, reads, ⟨own, back, read, reads', rfl⟩, rfl⟩
  | inside before name place after ih =>
    -- What is read around the module goes around what is read inside it.
    rw [fill, contents_append_ok_iff]
    simp only [contents_cons_ok_iff, content, ih]
    constructor
    · rintro ⟨front, -, reads, ⟨-, back, ⟨front', own, back', reads', read, rfl⟩, later, rfl⟩, rfl⟩
      refine ⟨front.append front', own, back'.append back, ?_, read, ?_⟩
      · exact ⟨front, front', back', back, reads, reads', later, rfl, rfl⟩
      · simp only [ItemContent.append_assoc]
    · rintro ⟨-, own, -, ⟨front, front', back', back, reads, reads', later, rfl, rfl⟩, read, rfl⟩
      refine ⟨front, _, reads, ⟨_, back, ⟨front', own, back', reads', read, rfl⟩, later, rfl⟩, ?_⟩
      simp only [ItemContent.append_assoc]

end ItemPlace

section

variable {o : Origin} {items : List SourceItem}

theorem declarationsOf_ok {g : DeclarationGraph} (h : (declarationsOf o items).result = .ok g) :
    ∃ c, (SourceItem.contents o items).result = .ok c ∧
      List.Forall₂ Implementation.Extends c.declarations g.declarations := by
  obtain ⟨c, read, whole⟩ := declarationsOf_ok_iff.1 h
  refine ⟨c, read, ?_⟩
  rw [whole]
  exact Implementation.extends_addToFirst _ [] c.declarations

/-- Reading fails on items only. -/
theorem declarationsOf_succeeds_iff :
    (∃ g, (declarationsOf o items).result = .ok g) ↔
      ∃ c, (SourceItem.contents o items).result = .ok c := by
  simp only [declarationsOf_ok_iff]
  constructor
  · rintro ⟨g, c, read, -⟩
    exact ⟨c, read⟩
  · rintro ⟨c, read⟩
    exact ⟨⟨_⟩, c, read, rfl⟩

end

namespace ItemPlace

variable {place : ItemPlace} {o : Origin} {item : SourceItem}

theorem declarationsOf_fill_succeeds_iff :
    (∃ g, (declarationsOf o (place.fill item)).result = .ok g) ↔
      (∃ front back, place.Reads o front back) ∧
        ∃ own, (SourceItem.content (o.within place.modules) item).result = .ok own := by
  rw [declarationsOf_succeeds_iff]
  constructor
  · rintro ⟨c, read⟩
    obtain ⟨front, own, back, around, first, -⟩ := contents_fill_ok_iff.1 read
    exact ⟨⟨front, back, around⟩, own, first⟩
  · rintro ⟨⟨front, back, around⟩, own, read⟩
    exact ⟨_, contents_fill_ok_iff.2 ⟨front, own, back, around, read, rfl⟩⟩

/-- What an item declares is among the declarations of the file, with the supertypes that
implementations add. -/
theorem exists_extends_of_fill {g : DeclarationGraph}
    (h : (declarationsOf o (place.fill item)).result = .ok g) :
    ∃ own, (SourceItem.content (o.within place.modules) item).result = .ok own ∧
      ∀ d ∈ own.declarations, ∃ d' ∈ g.declarations, Implementation.Extends d d' := by
  obtain ⟨c, read, extended⟩ := declarationsOf_ok h
  obtain ⟨front, own, back, -, first, rfl⟩ := contents_fill_ok_iff.1 read
  refine ⟨own, first, fun d declared => ?_⟩
  have inside : d ∈ (front.append (own.append back)).declarations := by
    simp [ItemContent.append, declared]
  exact exists_of_mem_left extended inside

end ItemPlace

end ModelClasses.TraitSource
