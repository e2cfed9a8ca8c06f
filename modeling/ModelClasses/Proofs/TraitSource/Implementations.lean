import ModelClasses.Proofs.Naming.Segments
import ModelClasses.Proofs.TraitSource.ModulePaths

/-! # Implementations of a file

A file declares things at paths: the modules around them and their own names, two of them for an entry
of an enumeration. An implementation is for the path that its modules and its target give, wherever it
stands among the items of its module. What is declared there first has the types that it is written
with and then those of its implementations, in the order of the file. Nothing else comes of an
implementation. -/

namespace ModelClasses.TraitSource

/-- A declaration as a file has it. -/
structure WrittenDeclaration where
  modules : List Identifier
  /-- The enumeration that it is an entry of. -/
  enumeration : Option Identifier := none
  name : Identifier
  supertypes : List SourceType := []

/-- An implementation as a file has it, if its target is written as a path. -/
structure WrittenImplementation where
  modules : List Identifier
  target : Identifier
  interface : SourceType

def WrittenDeclaration.path (w : WrittenDeclaration) : List String :=
  (w.modules ++ w.enumeration.toList ++ [w.name]).map (·.name)

/-- The name in its package. -/
def WrittenDeclaration.text (w : WrittenDeclaration) : String :=
  match w.enumeration with
  | none => w.name.name
  | some e => e.name ++ "." ++ w.name.name

def WrittenImplementation.path (w : WrittenImplementation) : List String :=
  (w.modules ++ [w.target]).map (·.name)

namespace SourceItem

mutual
/-- What an item declares inside some modules. -/
def written (modules : List Identifier) : SourceItem → List WrittenDeclaration
  | interface _ name supertypes _ => [{ modules, name, supertypes }]
  | struct _ name _ => [{ modules, name }]
  | enum _ name variants =>
    { modules, name } :: variants.map fun v => { modules, enumeration := some name, name := v }
  | implementation _ _ => []
  | module name items => writtenOf (modules ++ [name]) items

def writtenOf (modules : List Identifier) : List SourceItem → List WrittenDeclaration
  | [] => []
  | item :: rest => written modules item ++ writtenOf modules rest
end

mutual
/-- The implementations of an item inside some modules. -/
def implemented (modules : List Identifier) : SourceItem → List WrittenImplementation
  | implementation i (some target) => [⟨modules, target, i⟩]
  | implementation _ none => []
  | module name items => implementedOf (modules ++ [name]) items
  | interface .. | struct .. | enum .. => []

def implementedOf (modules : List Identifier) : List SourceItem → List WrittenImplementation
  | [] => []
  | item :: rest => implemented modules item ++ implementedOf modules rest
end

mutual
/-- An item without the implementations in it. -/
def bare : SourceItem → List SourceItem
  | implementation _ _ => []
  | module name items => [module name (bareOf items)]
  | interface attributes name supertypes methods => [interface attributes name supertypes methods]
  | struct attributes name fields => [struct attributes name fields]
  | enum attributes name variants => [enum attributes name variants]

def bareOf : List SourceItem → List SourceItem
  | [] => []
  | item :: rest => bare item ++ bareOf rest
end

theorem implementedOf_append (modules : List Identifier) (items rest : List SourceItem) :
    implementedOf modules (items ++ rest) =
      implementedOf modules items ++ implementedOf modules rest := by
  induction items with
  | nil => rfl
  | cons item items ih => rw [List.cons_append, implementedOf, implementedOf, ih, List.append_assoc]

theorem bareOf_append (items rest : List SourceItem) :
    bareOf (items ++ rest) = bareOf items ++ bareOf rest := by
  induction items with
  | nil => rfl
  | cons item items ih => rw [List.cons_append, bareOf, bareOf, ih, List.append_assoc]

end SourceItem

/-- The names on the paths of a file have no dots, as identifiers have none. -/
structure Segmented (items : List SourceItem) : Prop where
  declarations : ∀ w ∈ SourceItem.writtenOf [] items, ∀ name ∈ w.path, Naming.IsSegment name
  implementations : ∀ w ∈ SourceItem.implementedOf [] items, ∀ name ∈ w.path, Naming.IsSegment name

/-- A declaration that is read where it is written, with the types that it is written with. -/
structure WrittenDeclaration.Reads (o : Origin) (w : WrittenDeclaration) (d : Declaration) :
    Prop where
  package : d.package = (o.within w.modules).package
  name : d.name = w.text
  supertypes : SourceType.usages w.supertypes = .ok d.supertypes

structure WrittenImplementation.Reads (o : Origin) (w : WrittenImplementation)
    (i : Implementation) : Prop where
  target : i.target = w.target.name
  package : i.package = (o.within w.modules).package
  supertype : w.interface.usage = .ok i.supertype

theorem Origin.within_append (o : Origin) (modules : List Identifier) (name : Identifier) :
    o.within (modules ++ [name]) = (o.within modules).inside name := by
  rw [within, List.foldl_append]
  rfl

namespace SourceItem

variable {o : Origin}

/-- What is read of an item, part by part. -/
structure ReadsAs (o : Origin) (declared : List WrittenDeclaration)
    (implementations : List WrittenImplementation) (c : ItemContent) : Prop where
  declarations : List.Forall₂ (WrittenDeclaration.Reads o) declared c.declarations
  implementations : List.Forall₂ (WrittenImplementation.Reads o) implementations c.implementations

mutual
theorem content_reads : ∀ {modules : List Identifier} {item : SourceItem} {c : ItemContent},
    (content (o.within modules) item).result = .ok c →
      ReadsAs o (item.written modules) (item.implemented modules) c
  | modules, .interface _ name supertypes _, c, h => by
    obtain ⟨d, read, rfl⟩ := content_interface_ok_iff.1 h
    obtain ⟨types, _, _, lowered, -, -, rfl⟩ := interfaceDeclaration_ok_iff.1 read
    exact ⟨.cons ⟨rfl, rfl, lowered⟩ .nil, .nil⟩
  | modules, .struct _ name _, c, h => by
    obtain ⟨d, read, h⟩ := Outcome.bind_ok_iff.1 h
    obtain ⟨_, -, read⟩ := Outcome.bind_ok_iff.1 read
    obtain ⟨_, -, read⟩ := Outcome.bind_ok_iff.1 read
    cases read
    cases h
    exact ⟨.cons ⟨rfl, rfl, rfl⟩ .nil, .nil⟩
  | modules, .enum _ name variants, c, h => by
    obtain ⟨ds, read, h⟩ := Outcome.bind_ok_iff.1 h
    obtain ⟨_, -, read⟩ := Outcome.bind_ok_iff.1 read
    cases read
    cases h
    refine ⟨.cons ⟨rfl, rfl, rfl⟩ ?_, .nil⟩
    rw [List.forall₂_map_left_iff, List.forall₂_map_right_iff, List.forall₂_same]
    exact fun v _ => ⟨rfl, rfl, rfl⟩
  | modules, .implementation _ none, c, h => by
    cases h
    exact ⟨.nil, .nil⟩
  | modules, .implementation _ (some target), c, h => by
    obtain ⟨is, read, h⟩ := Outcome.bind_ok_iff.1 h
    obtain ⟨t, lowered, read⟩ := Outcome.bind_ok_iff.1 read
    cases read
    cases h
    exact ⟨.nil, .cons ⟨rfl, rfl, Reading.at_ok_iff.1 lowered⟩ .nil⟩
  | modules, .module name items, c, h => by
    rw [content, ← Origin.within_append] at h
    exact contents_reads h

theorem contents_reads : ∀ {modules : List Identifier} {items : List SourceItem} {c : ItemContent},
    (contents (o.within modules) items).result = .ok c →
      ReadsAs o (writtenOf modules items) (implementedOf modules items) c
  | _, [], c, h => by
    cases h
    exact ⟨.nil, .nil⟩
  | _, item :: items, c, h => by
    obtain ⟨first, others, read, reads, rfl⟩ := contents_cons_ok_iff.1 h
    obtain ⟨declared, implemented⟩ := content_reads read
    obtain ⟨declared', implemented'⟩ := contents_reads reads
    exact ⟨List.rel_append declared declared', List.rel_append implemented implemented'⟩
end

mutual
theorem content_bare : ∀ {o : Origin} {item : SourceItem} {c : ItemContent},
    (content o item).result = .ok c → (contents o item.bare).result = .ok ⟨c.declarations, []⟩
  | o, .interface _ _ _ _, c, h => by
    obtain ⟨d, read, rfl⟩ := content_interface_ok_iff.1 h
    exact contents_cons_ok_iff.2 ⟨_, {}, h, rfl, rfl⟩
  | o, .struct _ _ _, c, h => by
    obtain ⟨d, read, same⟩ := Outcome.bind_ok_iff.1 h
    cases same
    exact contents_cons_ok_iff.2 ⟨_, {}, h, rfl, rfl⟩
  | o, .enum _ _ _, c, h => by
    obtain ⟨ds, read, same⟩ := Outcome.bind_ok_iff.1 h
    cases same
    exact contents_cons_ok_iff.2 ⟨_, {}, h, rfl, by simp [ItemContent.append]⟩
  | o, .implementation _ _, c, h => by
    obtain ⟨is, read, same⟩ := Outcome.bind_ok_iff.1 h
    cases same
    rfl
  | o, .module name items, c, h => by
    refine contents_cons_ok_iff.2 ⟨_, {}, contents_bare h, rfl, ?_⟩
    simp [ItemContent.append]

theorem contents_bare : ∀ {o : Origin} {items : List SourceItem} {c : ItemContent},
    (contents o items).result = .ok c →
      (contents o (bareOf items)).result = .ok ⟨c.declarations, []⟩
  | _, [], c, h => by
    cases h
    rfl
  | _, item :: items, c, h => by
    obtain ⟨first, others, read, reads, rfl⟩ := contents_cons_ok_iff.1 h
    exact contents_append_ok_iff.2 ⟨_, _, content_bare read, contents_bare reads, rfl⟩
end

end SourceItem

/-- Whether implementations of an interface count in a package: it is one of those that classes are
generated with, or one that the file declares in this package or under the very name. -/
def Recognizes (g : DeclarationGraph) (package name : String) : Prop :=
  Naming.simpleName name ∈ ["ValueProvider", "ValueModifier"] ∨
    ∃ d ∈ g.declarations, d.kind = .interface ∧
      (d.qualifiedName = Naming.qualify package name ∨ d.qualifiedName = name)

instance (g : DeclarationGraph) (package name : String) : Decidable (Recognizes g package name) :=
  inferInstanceAs (Decidable (_ ∨ _))

/-- The type that an implementation adds. -/
def WrittenImplementation.supertype? (o : Origin) (g : DeclarationGraph)
    (w : WrittenImplementation) : Option TypeUsage :=
  w.interface.usage.toOption.filter fun t => Recognizes g (o.within w.modules).package t.name

/-- The types that the implementations for a path add. -/
def received (o : Origin) (g : DeclarationGraph) (ws : List WrittenImplementation)
    (path : List String) : List TypeUsage :=
  (ws.filter (·.path = path)).filterMap (·.supertype? o g)

theorem counts_iff {g : DeclarationGraph} {i : Implementation} :
    i.counts g.declarations = true ↔ Recognizes g i.package i.supertype.name := by
  simp [Implementation.counts, Implementation.knownInterfaces, Implementation.declaresInterface,
    Recognizes, Tag.providerName, Tag.modifierName]

section

variable {o : Origin}

theorem WrittenDeclaration.Reads.qualifiedName {w : WrittenDeclaration} {d : Declaration}
    (reads : w.Reads o d) (segments : ∀ name ∈ w.path, Naming.IsSegment name) :
    d.qualifiedName = w.path.foldl Naming.qualify o.package := by
  obtain ⟨modules, enumeration, name, supertypes⟩ := w
  rw [Declaration.qualifiedName, reads.package, reads.name, package_within, path, text]
  cases enumeration with
  | none => simp
  | some e =>
    have segment : e.name ≠ "" := (segments e.name (by simp [path])).1
    simp [Naming.qualify_qualify segment]

theorem WrittenImplementation.Reads.qualifiedTarget {w : WrittenImplementation}
    {i : Implementation} (reads : w.Reads o i) :
    i.qualifiedTarget = w.path.foldl Naming.qualify o.package := by
  rw [Implementation.qualifiedTarget, reads.package, reads.target, package_within, path]
  simp

theorem WrittenImplementation.Reads.supertype? {w : WrittenImplementation} {i : Implementation}
    (reads : w.Reads o i) (g : DeclarationGraph) :
    w.supertype? o g = if i.counts g.declarations then some i.supertype else none := by
  rw [WrittenImplementation.supertype?, reads.supertype, ← reads.package]
  show Option.filter _ (some _) = _
  rw [Option.filter_some]
  simp only [decide_eq_true_eq, ← counts_iff]

/-- Among names without dots, what is added under a qualified name is what the implementations for the
path add. -/
theorem additions_eq_received {ws : List WrittenImplementation} {is : List Implementation}
    (reads : List.Forall₂ (WrittenImplementation.Reads o) ws is)
    (segments : ∀ w ∈ ws, ∀ name ∈ w.path, Naming.IsSegment name) {path : List String}
    (segments' : ∀ name ∈ path, Naming.IsSegment name) (g : DeclarationGraph) :
    Implementation.additions is g.declarations (path.foldl Naming.qualify o.package) =
      received o g ws path := by
  induction reads with
  | nil => rfl
  | @cons w i ws is first _ ih =>
    obtain ⟨segment, later⟩ := List.forall_mem_cons.1 segments
    have target : (i.qualifiedTarget == path.foldl Naming.qualify o.package) =
        decide (w.path = path) := by
      rw [first.qualifiedTarget, Bool.eq_iff_iff, beq_iff_eq, decide_eq_true_eq]
      exact Naming.foldl_qualify_inj segment segments'
    rw [Implementation.additions_cons, ih later]
    by_cases same : w.path = path
    · rw [received, received, List.filter_cons_of_pos (by simpa using same), List.filterMap_cons,
        first.supertype? g]
      cases counting : i.counts g.declarations <;>
        simp [Implementation.additions, counting, target, same]
    · rw [received, received, List.filter_cons_of_neg (by simpa using same)]
      simp [Implementation.additions, target, same]

end

namespace SourceItem

mutual
/-- An implementation of an item is the item itself, or stands further inside. -/
theorem mem_implemented : ∀ {modules : List Identifier} {item : SourceItem}
    {w : WrittenImplementation}, w ∈ item.implemented modules →
      (w.modules = modules ∧ item = .implementation w.interface (some w.target)) ∨
        modules.length < w.modules.length
  | _, .implementation i (some target), w, h => by
    obtain rfl := List.mem_singleton.1 h
    exact .inl ⟨rfl, rfl⟩
  | _, .implementation _ none, _, h | _, .interface .., _, h | _, .struct .., _, h
  | _, .enum .., _, h => absurd h List.not_mem_nil
  | modules, .module name items, w, h => by
    right
    have length : (modules ++ [name]).length = modules.length + 1 := by simp
    rcases mem_implementedOf h with ⟨same, -⟩ | further
    · rw [same, length]
      exact Nat.lt_succ_self _
    · omega

theorem mem_implementedOf : ∀ {modules : List Identifier} {items : List SourceItem}
    {w : WrittenImplementation}, w ∈ implementedOf modules items →
      (w.modules = modules ∧ .implementation w.interface (some w.target) ∈ items) ∨
        modules.length < w.modules.length
  | _, item :: items, w, h => by
    rw [implementedOf, List.mem_append] at h
    rcases h with first | later
    · exact (mem_implemented first).imp_left fun ⟨same, self⟩ =>
        ⟨same, self ▸ List.mem_cons_self⟩
    · exact (mem_implementedOf later).imp_left fun ⟨same, inside⟩ =>
        ⟨same, List.mem_cons_of_mem _ inside⟩
end

end SourceItem

/-- An implementation is moved behind further items of its module, none of which is an implementation
for its target. -/
inductive MovedDown : List SourceItem → List SourceItem → Prop
  | here (before : List SourceItem) (i : SourceType) (target : Option Identifier)
      (between after : List SourceItem)
      (apart : ∀ t ∈ target, ∀ other t', .implementation other (some t') ∈ between →
        t'.name ≠ t.name) :
      MovedDown (before ++ .implementation i target :: (between ++ after))
        (before ++ (between ++ .implementation i target :: after))
  | inside (before : List SourceItem) (name : Identifier) {items items' : List SourceItem}
      (after : List SourceItem) (moved : MovedDown items items') :
      MovedDown (before ++ .module name items :: after) (before ++ .module name items' :: after)

/-- Two files with the same declarations and, for every path, the same implementations. -/
structure Corresponds (items items' : List SourceItem) : Prop where
  bare : SourceItem.bareOf items = SourceItem.bareOf items'
  implementations : ∀ modules path, (SourceItem.implementedOf modules items).filter (·.path = path) =
    (SourceItem.implementedOf modules items').filter (·.path = path)
  succeeds : ∀ o, (∃ c, (SourceItem.contents o items).result = .ok c) ↔
    ∃ c, (SourceItem.contents o items').result = .ok c

theorem Corresponds.symm {items items' : List SourceItem} (h : Corresponds items items') :
    Corresponds items' items :=
  ⟨h.bare.symm, fun modules path => (h.implementations modules path).symm, fun o => (h.succeeds o).symm⟩

namespace SourceItem

theorem contents_append_succeeds_iff {o : Origin} {items rest : List SourceItem} :
    (∃ c, (contents o (items ++ rest)).result = .ok c) ↔
      (∃ c, (contents o items).result = .ok c) ∧ ∃ c, (contents o rest).result = .ok c := by
  simp only [contents_append_ok_iff]
  exact ⟨fun ⟨_, a, b, first, later, _⟩ => ⟨⟨a, first⟩, b, later⟩,
    fun ⟨⟨a, first⟩, b, later⟩ => ⟨_, a, b, first, later, rfl⟩⟩

theorem contents_cons_succeeds_iff {o : Origin} {item : SourceItem} {rest : List SourceItem} :
    (∃ c, (contents o (item :: rest)).result = .ok c) ↔
      (∃ c, (content o item).result = .ok c) ∧ ∃ c, (contents o rest).result = .ok c := by
  simp only [contents_cons_ok_iff]
  exact ⟨fun ⟨_, a, b, first, later, _⟩ => ⟨⟨a, first⟩, b, later⟩,
    fun ⟨⟨a, first⟩, b, later⟩ => ⟨_, a, b, first, later, rfl⟩⟩

theorem filter_implemented_comm (modules : List Identifier) (i : SourceType)
    {target : Option Identifier} {between : List SourceItem}
    (apart : ∀ t ∈ target, ∀ other t', .implementation other (some t') ∈ between →
      t'.name ≠ t.name) (path : List String) :
    ((implementation i target).implemented modules ++ implementedOf modules between).filter
        (·.path = path) =
      (implementedOf modules between ++ (implementation i target).implemented modules).filter
        (·.path = path) := by
  rw [List.filter_append, List.filter_append]
  cases target with
  | none => simp [implemented]
  | some t =>
    by_cases own : (⟨modules, t, i⟩ : WrittenImplementation).path = path
    · have none : (implementedOf modules between).filter (·.path = path) = [] := by
        refine List.filter_eq_nil_iff.2 fun w inside same => ?_
        have paths := (of_decide_eq_true same).trans own.symm
        rw [WrittenImplementation.path, WrittenImplementation.path, List.map_append,
          List.map_append] at paths
        rcases mem_implementedOf inside with ⟨modules', written⟩ | further
        · rw [modules'] at paths
          have names := List.append_cancel_left paths
          simp only [List.map_cons, List.map_nil, List.cons.injEq, and_true] at names
          exact apart t rfl _ _ written names
        · have lengths := congrArg List.length paths
          simp at lengths
          omega
      rw [none, List.append_nil, List.nil_append]
    · simp [implemented, own]

end SourceItem

theorem MovedDown.corresponds {items items' : List SourceItem} (h : MovedDown items items') :
    Corresponds items items' := by
  induction h with
  | here before i target between after apart =>
    refine ⟨?_, fun modules path => ?_, fun o => ?_⟩
    · simp only [SourceItem.bareOf_append, SourceItem.bareOf, SourceItem.bare, List.nil_append]
    · have moved := SourceItem.filter_implemented_comm modules i apart path
      simp only [List.filter_append] at moved
      simp only [SourceItem.implementedOf_append, SourceItem.implementedOf, List.filter_append]
      rw [← List.append_assoc (List.filter _ _) (List.filter _ _) (List.filter _ _), moved,
        List.append_assoc]
    · simp only [SourceItem.contents_append_succeeds_iff, SourceItem.contents_cons_succeeds_iff]
      tauto
  | inside before name after _ ih =>
    refine ⟨?_, fun modules path => ?_, fun o => ?_⟩
    · simp only [SourceItem.bareOf_append, SourceItem.bareOf, SourceItem.bare, ih.bare]
    · simp only [SourceItem.implementedOf_append, SourceItem.implementedOf, SourceItem.implemented,
        List.filter_append, ih.implementations]
    · simp only [SourceItem.contents_append_succeeds_iff, SourceItem.contents_cons_succeeds_iff,
        SourceItem.content, ih.succeeds]

section

variable {o : Origin} {items : List SourceItem} {g : DeclarationGraph}

theorem contents_reads_root {c : ItemContent}
    (read : (SourceItem.contents o items).result = .ok c) :
    SourceItem.ReadsAs o (SourceItem.writtenOf [] items) (SourceItem.implementedOf [] items) c := by
  have root : (SourceItem.contents (o.within []) items).result = .ok c := read
  exact SourceItem.contents_reads root

/-- With the same implementations for every path, every declaration gets the same types. -/
theorem Corresponds.declarationsOf_ok {items' : List SourceItem} (h : Corresponds items items')
    (segmented : Segmented items) (read : (declarationsOf o items).result = .ok g) :
    (declarationsOf o items').result = .ok g := by
  obtain ⟨c, reads, whole⟩ := declarationsOf_ok_iff.1 read
  obtain ⟨c', reads'⟩ := (h.succeeds o).1 ⟨c, reads⟩
  refine declarationsOf_ok_iff.2 ⟨c', reads', whole.trans ?_⟩
  have same : c'.declarations = c.declarations := by
    have bare := SourceItem.contents_bare reads
    rw [h.bare, SourceItem.contents_bare reads'] at bare
    exact (ItemContent.mk.inj (Except.ok.inj bare)).1
  rw [same]
  refine Implementation.addToFirst_congr fun d inside => ?_
  obtain ⟨declared, implementations⟩ := contents_reads_root reads
  obtain ⟨w, written, place⟩ := exists_of_mem_right declared inside
  have segments := segmented.declarations w written
  have segments' : ∀ w ∈ SourceItem.implementedOf [] items', ∀ name ∈ w.path,
      Naming.IsSegment name := by
    intro w inside
    have kept : w ∈ (SourceItem.implementedOf [] items').filter (·.path = w.path) := by
      simp [inside]
    rw [← h.implementations] at kept
    exact segmented.implementations w (List.mem_filter.1 kept).1
  rw [place.qualifiedName segments,
    additions_eq_received implementations segmented.implementations segments ⟨c.declarations⟩,
    additions_eq_received (contents_reads_root reads').implementations segments' segments
      ⟨c.declarations⟩, received, received, h.implementations]

/-- The supertypes of a declaration are those that it is written with and, if it is the first one of
its qualified name, those of the implementations for its path. All else is as if the file had no
implementations, and where one stands among the items of its module makes no difference unless it
passes another one for its target. -/
theorem declarationsOf_supertypes (segmented : Segmented items)
    (read : (declarationsOf o items).result = .ok g) :
    let written := SourceItem.writtenOf [] items
    let implementations := SourceItem.implementedOf [] items
    (∀ w ∈ implementations, ∃ t, w.interface.usage = .ok t) ∧
    written.length = g.declarations.length ∧
    (∀ (k : Nat) w d, written[k]? = some w → g.declarations[k]? = some d →
      d.package = (o.within w.modules).package ∧ d.name = w.text ∧
      ∃ own, SourceType.usages w.supertypes = .ok own ∧
        d.supertypes = own ++
          if d.qualifiedName ∈ (g.declarations.take k).map (·.qualifiedName) then []
          else received o g implementations w.path) ∧
    (∃ g₀, (declarationsOf o (SourceItem.bareOf items)).result = .ok g₀ ∧
      List.Forall₂ (fun d₀ d => d = { d₀ with supertypes := d.supertypes }) g₀.declarations
        g.declarations) ∧
    ∀ items', MovedDown items items' ∨ MovedDown items' items →
      (declarationsOf o items').result = .ok g := by
  intro written implementations
  obtain ⟨c, reads, whole⟩ := declarationsOf_ok_iff.1 read
  obtain ⟨declared, implemented⟩ := contents_reads_root reads
  have extended : List.Forall₂ Implementation.Extends c.declarations g.declarations :=
    whole ▸ Implementation.extends_addToFirst _ [] c.declarations
  refine ⟨fun w inside => ?_, ?_, fun k w d place found => ?_, ?_, fun items' moved => ?_⟩
  · obtain ⟨i, -, lowered⟩ := exists_of_mem_left implemented inside
    exact ⟨i.supertype, lowered.supertype⟩
  · exact declared.length_eq.trans extended.length_eq
  · have own : c.declarations[k]? ≠ none := by
      rw [ne_eq, List.getElem?_eq_none_iff, extended.length_eq, ← List.getElem?_eq_none_iff, found]
      simp
    obtain ⟨d₀, own⟩ := Option.ne_none_iff_exists'.1 own
    have reads₀ := rel_of_getElem? declared place own
    have name := (rel_of_getElem? extended own found).same.1
    have earlier : (g.declarations.take k).map (·.qualifiedName) =
        (c.declarations.take k).map (·.qualifiedName) :=
      (map_eq_of_forall₂ (fun _ _ h => h.same.1.symm) (List.forall₂_take k extended)).symm
    have segments := segmented.declarations w (List.mem_of_getElem? place)
    have added := additions_eq_received implemented segmented.implementations segments g
    rw [Implementation.additions_of_extends extended, ← reads₀.qualifiedName segments] at added
    rw [whole, Implementation.getElem?_addToFirst, own, Option.map_some, Option.some_inj] at found
    rw [earlier, name, ← added, ← found]
    simp only [List.not_mem_nil, false_or]
    split
    · exact ⟨reads₀.package, reads₀.name, _, reads₀.supertypes, (List.append_nil _).symm⟩
    · exact ⟨reads₀.package, reads₀.name, _, reads₀.supertypes, rfl⟩
  · refine ⟨⟨c.declarations⟩, declarationsOf_ok_iff.2 ⟨_, SourceItem.contents_bare reads, ?_⟩, ?_⟩
    · exact (Implementation.addToFirst_eq_self fun _ _ _ => rfl).symm
    · exact extended.imp fun d₀ d ⟨more, same⟩ => by rw [same]
  · have corresponds : Corresponds items items' :=
      moved.elim MovedDown.corresponds fun up => up.corresponds.symm
    exact corresponds.declarationsOf_ok segmented read

end

/-- An implementation of an interface that is declared behind it, a second declaration of the target, an
implementation for a like name in an inner module, and all that after a move. -/
theorem declarationsOf_supertypes_module :
    let type (name : String) : SourceType := .named [] ⟨name, false⟩ []
    let local_ : SourceItem := .implementation (type "Named") (some ⟨"X", false⟩)
    let provider : SourceItem :=
      .implementation (.named [⟨"other", false⟩] ⟨"ValueProvider", false⟩ [type "u8"])
        (some ⟨"X", true⟩)
    let unknown : SourceItem := .implementation (type "Clone") (some ⟨"X", false⟩)
    let inner : SourceItem := .module ⟨"n", false⟩ [.implementation (type "Named") (some ⟨"X", false⟩)]
    let x : SourceItem := .struct [] ⟨"X", false⟩ .unit
    let named : SourceItem := .interface [] ⟨"Named", false⟩ [type "Base"] []
    let file (items : List SourceItem) : List SourceItem := [.module ⟨"m", false⟩ items]
    let items := file [local_, inner, unknown, x, provider, x, named]
    let items' := file [inner, local_, unknown, x, provider, x, named]
    let plain (name : String) : TypeUsage := ⟨name, [], false⟩
    Segmented items ∧ ∃ g, (declarationsOf { package := "p" } items).result = .ok g ∧
      g.declarations.map (·.qualifiedName) = ["p.m.X", "p.m.X", "p.m.Named"] ∧
      g.declarations.map (·.supertypes) =
        [[plain "Named", ⟨"other.ValueProvider", [plain "Short"], false⟩], [], [plain "Base"]] ∧
      (declarationsOf { package := "p" } items').result = .ok g := by
  intro type local_ provider unknown inner x named file items items' plain
  let declared (name : String) (kind : DeclarationKind) (supertypes : List TypeUsage) : Declaration := {
    package := "p.m", name, kind, supertypes }
  let ds := [declared "X" .object [plain "Named", ⟨"other.ValueProvider", [plain "Short"], false⟩],
    declared "X" .object [], declared "Named" .interface [plain "Base"]]
  have segmented : Segmented items := ⟨by decide, by decide⟩
  have read : (declarationsOf { package := "p" } items).result = .ok ⟨ds⟩ := by
    dsimp only [items, file, local_, inner, unknown, x, provider, named, type, ds, declared, plain]
    rfl
  obtain ⟨-, -, -, -, moved⟩ := declarationsOf_supertypes segmented read
  refine ⟨segmented, _, read, rfl, rfl, moved items' (.inl ?_)⟩
  refine .inside [] _ [] (.here [] _ _ [inner] _ fun t _ other t' between => ?_)
  simp [inner] at between

/-- An entry of an enumeration gets what is implemented in a module of the enumeration's name. -/
theorem declarationsOf_supertypes_entry :
    let items : List SourceItem := [.enum [] ⟨"E", false⟩ [⟨"V", false⟩], .module ⟨"E", false⟩
      [.implementation (.named [] ⟨"ValueProvider", false⟩ [.named [] ⟨"u8", false⟩ []])
        (some ⟨"V", false⟩)]]
    ∃ g d, (declarationsOf { package := "p" } items).result = .ok g ∧ d ∈ g.declarations ∧
      d.package = "p" ∧ d.name = "E.V" ∧ d.kind = .enumEntry ∧
      (∃ w ∈ SourceItem.writtenOf [] items, w.modules = [] ∧ w.text = d.name ∧ w.supertypes = []) ∧
      (∀ w ∈ SourceItem.implementedOf [] items, ¬ (w.modules = [] ∧ w.target.name = d.name)) ∧
      d.supertypes = [⟨"ValueProvider", [⟨"Short", [], false⟩], false⟩] := by
  intro items
  let entry : Declaration := {
    package := "p", name := "E.V", kind := .enumEntry
    supertypes := [⟨"ValueProvider", [⟨"Short", [], false⟩], false⟩] }
  refine ⟨⟨[{ package := "p", name := "E", kind := .enum }, entry]⟩, entry, ?_,
    List.mem_cons_of_mem _ (List.mem_singleton_self _), rfl, rfl, rfl, ?_, by decide, rfl⟩
  · dsimp only [items, entry]
    rfl
  · exact ⟨_, List.mem_cons_of_mem _ List.mem_cons_self, rfl, rfl, rfl⟩

end ModelClasses.TraitSource
