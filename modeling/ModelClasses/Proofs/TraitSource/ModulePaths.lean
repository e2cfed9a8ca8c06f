import ModelClasses.Proofs.Resolution.Packages
import ModelClasses.Proofs.TraitSource.Interfaces

/-! # Paths through modules

A path may start at the root of a file, or at a module above the one that it is written in. The words
that say so are no part of its name, and the name is looked up in the package of the module that the
path is written in. It leads to the declaration that the path is about if the words lead to that module
itself, and nothing in the file has the very name that is left. -/

namespace ModelClasses.TraitSource

namespace SourceItem

/-- The names of what an item declares, below the modules that it stands in. -/
def declaredNames : SourceItem → List (List Identifier)
  | interface _ name _ _ => [[name]]
  | struct _ name _ => [[name]]
  | enum _ name variants => [name] :: variants.map fun v => [name, v]
  | implementation _ _ => []
  | module _ _ => []

section

variable {o : Origin} {attributes : List Attribute} {name : Identifier} {c : ItemContent}

theorem content_struct_ok {fields : StructFields}
    (h : (content o (.struct attributes name fields)).result = .ok c) :
    ∃ annotations properties, Attribute.usages attributes = .ok annotations ∧
      c = ⟨[{ o.declaration name.name (structKind fields) with annotations, properties }], []⟩ := by
  obtain ⟨d, read, h⟩ := Outcome.bind_ok_iff.1 h
  obtain ⟨annotations, given, read⟩ := Outcome.bind_ok_iff.1 read
  obtain ⟨properties, -, read⟩ := Outcome.bind_ok_iff.1 read
  cases read
  cases h
  exact ⟨annotations, properties, Reading.at_ok_iff.1 given, rfl⟩

theorem content_enum_ok {variants : List Identifier}
    (h : (content o (.enum attributes name variants)).result = .ok c) :
    ∃ annotations, Attribute.usages attributes = .ok annotations ∧
      c = ⟨{ o.declaration name.name .enum with annotations } ::
        variants.map fun v => o.declaration (name.name ++ "." ++ v.name) .enumEntry, []⟩ := by
  obtain ⟨ds, read, h⟩ := Outcome.bind_ok_iff.1 h
  obtain ⟨annotations, given, read⟩ := Outcome.bind_ok_iff.1 read
  cases read
  cases h
  exact ⟨annotations, Reading.at_ok_iff.1 given, rfl⟩

end

theorem exists_declaration {o : Origin} {item : SourceItem} {c : ItemContent}
    (h : (content o item).result = .ok c) {names : List Identifier}
    (declared : names ∈ item.declaredNames) :
    names ≠ [] ∧ ∃ d ∈ c.declarations, d.package = o.package ∧
      d.name = ".".intercalate (names.map (·.name)) := by
  cases item with
  | interface attributes name supertypes methods =>
    obtain rfl := List.mem_singleton.1 declared
    obtain ⟨d, read, rfl⟩ := content_interface_ok_iff.1 h
    obtain ⟨_, _, _, -, -, -, rfl⟩ := interfaceDeclaration_ok_iff.1 read
    exact ⟨by simp, _, List.mem_singleton_self _, rfl, String.intercalate_singleton.symm⟩
  | struct attributes name fields =>
    obtain rfl := List.mem_singleton.1 declared
    obtain ⟨_, _, -, rfl⟩ := content_struct_ok h
    exact ⟨by simp, _, List.mem_singleton_self _, rfl, String.intercalate_singleton.symm⟩
  | enum attributes name variants =>
    obtain ⟨_, -, rfl⟩ := content_enum_ok h
    rcases List.mem_cons.1 declared with rfl | entry
    · exact ⟨by simp, _, List.mem_cons_self, rfl, String.intercalate_singleton.symm⟩
    · obtain ⟨v, inside, rfl⟩ := List.mem_map.1 entry
      refine ⟨by simp, _, List.mem_cons_of_mem _ (List.mem_map_of_mem inside), rfl, ?_⟩
      rw [List.map_cons, List.map_cons, List.map_nil,
        String.intercalate_cons_of_ne_nil (List.cons_ne_nil _ _), String.intercalate_singleton]
      rfl
  | implementation i target => cases declared
  | module name items => cases declared

end SourceItem

/-- A file declares an interface, a type or an entry at a path from its root. -/
def Declares (items : List SourceItem) (path : List String) : Prop :=
  ∃ (place : ItemPlace) (item : SourceItem) (names : List Identifier),
    items = place.fill item ∧ names ∈ item.declaredNames ∧
      path = (place.modules ++ names).map (·.name)

theorem package_within (o : Origin) (modules : List Identifier) :
    (o.within modules).package = (modules.map (·.name)).foldl Naming.qualify o.package := by
  induction modules generalizing o with
  | nil => rfl
  | cons module modules ih => rw [Origin.within_cons, ih, List.map_cons, List.foldl_cons, Origin.inside]

theorem package_within_ne_empty {o : Origin} (h : o.package ≠ "") (modules : List Identifier) :
    (o.within modules).package ≠ "" := by
  induction modules generalizing o with
  | nil => exact h
  | cons module modules ih => exact ih (Naming.qualify_ne_empty h module.name)

theorem Declares.contains {o : Origin} {items : List SourceItem} {g : DeclarationGraph}
    (named : o.package ≠ "") (read : (declarationsOf o items).result = .ok g) {path : List String}
    (h : Declares items path) : g.contains (path.foldl Naming.qualify o.package) = true := by
  obtain ⟨place, item, names, rfl, declared, rfl⟩ := h
  obtain ⟨own, first, extended⟩ := ItemPlace.exists_extends_of_fill read
  obtain ⟨some, d, inside, package, name⟩ := SourceItem.exists_declaration first declared
  obtain ⟨d', inside', more, rfl⟩ := extended d inside
  have qualified : d.qualifiedName =
      ((place.modules ++ names).map (·.name)).foldl Naming.qualify o.package := by
    rw [Declaration.qualifiedName, package, name, List.map_append, List.foldl_append,
      ← package_within, Naming.foldl_qualify (package_within_ne_empty named _) (by simpa using some)]
  rw [DeclarationGraph.contains, DeclarationGraph.get?, List.find?_isSome]
  exact ⟨_, inside', beq_iff_eq.2 qualified⟩

/-- Where a path starts: at the root of the file, or so many modules above the one that it is written
in. -/
inductive PathStart
  | crate
  | up (steps : Nat)

namespace PathStart

/-- The words in front of a path. -/
def words : PathStart → List Identifier
  | crate => [⟨"crate", false⟩]
  | up steps => List.replicate steps ⟨"super", false⟩

/-- The modules around the one that a path starts at, of those around the path itself. -/
def base (modules : List Identifier) : PathStart → List Identifier
  | crate => []
  | up steps => modules.take (modules.length - steps)

theorem base_isPrefix (modules : List Identifier) (start : PathStart) :
    start.base modules <+: modules := by
  cases start with
  | crate => exact List.nil_prefix
  | up steps => exact List.take_prefix _ modules

theorem package_base_eq_iff {o : Origin} (named : o.package ≠ "") (modules : List Identifier)
    (start : PathStart) :
    (o.within (start.base modules)).package = (o.within modules).package ↔
      start.base modules = modules := by
  refine ⟨fun same => ?_, fun same => by rw [same]⟩
  obtain ⟨below, whole⟩ := start.base_isPrefix modules
  by_contra apart
  -- Every module makes the name of the package longer.
  have some : below.map (·.name) ≠ [] := by
    rw [ne_eq, List.map_eq_nil_iff]
    rintro rfl
    exact apart ((List.append_nil _).symm.trans whole)
  have named' := package_within_ne_empty named (start.base modules)
  have deeper : (o.within modules).package =
      Naming.qualify (o.within (start.base modules)).package
        (".".intercalate (below.map (·.name))) := by
    rw [← Naming.foldl_qualify named' some, package_within o modules, package_within,
      ← List.foldl_append, ← List.map_append, whole]
  have length := Naming.length_qualify named' (".".intercalate (below.map (·.name)))
  rw [← deeper, ← same] at length
  omega

theorem pathName_words (start : PathStart) {rest : List Identifier}
    (plain : ∀ i ∈ rest, i.name ∉ moduleWords) :
    pathName (start.words ++ rest) = ".".intercalate (rest.map (·.name)) := by
  have words : (start.words.map (·.name)).filter (!moduleWords.contains ·) = [] := by
    rw [List.filter_eq_nil_iff]
    intro word inside
    have known : word ∈ moduleWords := by
      cases start with
      | crate =>
        rw [List.mem_singleton.1 inside]
        decide
      | up steps =>
        obtain ⟨i, hi, rfl⟩ := List.mem_map.1 inside
        rw [List.eq_of_mem_replicate hi]
        decide
    simpa using known
  have names : (rest.map (·.name)).filter (!moduleWords.contains ·) = rest.map (·.name) := by
    rw [List.filter_eq_self, List.forall_mem_map]
    intro i hi
    simpa using plain i hi
  rw [pathName, List.map_append, List.filter_append, words, names, List.nil_append]

end PathStart

/-- A type that is written as a path keeps its name, unless it is one of the standard library's or one
that stands for its argument. -/
theorem SourceType.usage_named {qualifier : List Identifier} {name : Identifier}
    {arguments : List SourceType} {ts : List TypeUsage} (lowered : usages arguments = .ok ts)
    (ownName : knownTypes.lookup name.name = none)
    (kept : ts.length = 1 → name.name ≠ optionalName ∧ name.name ∉ pointerNames) :
    usage (.named qualifier name arguments) = .ok ⟨pathName (qualifier ++ [name]), ts, false⟩ := by
  have own : nameOf qualifier name = pathName (qualifier ++ [name]) := by
    rw [nameOf, ownName]
    rfl
  have applied : apply qualifier name ts = ⟨pathName (qualifier ++ [name]), ts, false⟩ := by
    unfold apply
    split
    · obtain ⟨notOptional, notPointer⟩ := kept rfl
      rw [if_neg notOptional, if_neg (by simpa using notPointer), own]
    · rw [own]
  rw [usage]
  exact bind_eq_ok_iff.2 ⟨ts, lowered, congrArg Except.ok applied⟩

/-- The name of a path is what stands behind the words that it starts with. In the package of the module
that the path is written in, this name leads to the declaration that the path is about only if the path
starts at that module, or the declaration is one of a built-in type. -/
theorem resolveName?_modulePath {o : Origin} {items : List SourceItem} {g : DeclarationGraph}
    (named : o.package ≠ "") (read : (declarationsOf o items).result = .ok g)
    (modules : List Identifier) (start : PathStart) {rest : List Identifier} (some : rest ≠ [])
    (plain : ∀ i ∈ rest, i.name ∉ moduleWords)
    (declares : Declares items ((start.base modules ++ rest).map (·.name))) :
    let written := ".".intercalate (rest.map (·.name))
    let package := (o.within modules).package
    let meant := Naming.qualify (o.within (start.base modules)).package written
    SourceExpression.argumentValue (.path (start.words ++ rest)) = .ok (.reference written) ∧
      (∀ qualifier name arguments ts, qualifier ++ [name] = start.words ++ rest →
        SourceType.usages arguments = .ok ts → SourceType.knownTypes.lookup name.name = none →
        (ts.length = 1 → name.name ≠ SourceType.optionalName ∧
          name.name ∉ SourceType.pointerNames) →
        SourceType.usage (.named qualifier name arguments) = .ok ⟨written, ts, false⟩) ∧
      (∃ d ∈ g.declarations, d.qualifiedName = meant) ∧
      (g.resolveName? package written = .some meant ↔
        g.contains written = false ∧ (start.base modules = modules ∨
          g.contains (Naming.qualify package written) = false ∧ isBuiltin meant = true)) := by
  intro written package meant
  have lowered := start.pathName_words plain
  have named' := package_within_ne_empty named (start.base modules)
  have declared : g.contains meant = true := by
    have contains := declares.contains named read
    rwa [List.map_append, List.foldl_append, ← package_within,
      Naming.foldl_qualify named' (by simpa using some)] at contains
  refine ⟨?_, ?_, ?_, ?_⟩
  · rw [SourceExpression.argumentValue, lowered]
  · intro qualifier name arguments ts path lower ownName kept
    rw [SourceType.usage_named lower ownName kept, path, lowered]
  · obtain ⟨d, found⟩ := Option.isSome_iff_exists.1 declared
    exact ⟨d, DeclarationGraph.mem_of_get? found, DeclarationGraph.qualifiedName_of_get? found⟩
  · rw [DeclarationGraph.resolveName?_eq_qualify_iff (package_within_ne_empty named modules) named'
      declared, start.package_base_eq_iff named]

/-- From the root of the file, to an entry of an enumeration in a module. -/
theorem resolveName?_modulePath_crate :
    let items : List SourceItem :=
      [.module ⟨"model", false⟩ [.enum [] ⟨"Shade", false⟩ [⟨"Light", false⟩, ⟨"Dark", false⟩]]]
    ∃ g, (declarationsOf { package := "p" } items).result = .ok g ∧
      SourceExpression.argumentValue (.path
          [⟨"crate", false⟩, ⟨"model", false⟩, ⟨"Shade", false⟩, ⟨"Dark", false⟩]) =
        .ok (.reference "model.Shade.Dark") ∧
      g.resolveName? "p" "model.Shade.Dark" = .some "p.model.Shade.Dark" := by
  intro items
  let declared : List Declaration := [
    { package := "p.model", name := "Shade", kind := .enum },
    { package := "p.model", name := "Shade.Light", kind := .enumEntry },
    { package := "p.model", name := "Shade.Dark", kind := .enumEntry }]
  have read : (declarationsOf { package := "p" } items).result = .ok ⟨declared⟩ := by
    dsimp only [items, declared]
    rfl
  let rest : List Identifier := [⟨"model", false⟩, ⟨"Shade", false⟩, ⟨"Dark", false⟩]
  have declares : Declares items ((PathStart.crate.base [] ++ rest).map (·.name)) :=
    ⟨.inside [] ⟨"model", false⟩ (.here [] []) [], _, [⟨"Shade", false⟩, ⟨"Dark", false⟩], rfl,
      by simp [SourceItem.declaredNames], rfl⟩
  obtain ⟨lowered, -, -, resolves⟩ := resolveName?_modulePath (o := { package := "p" }) (by decide)
    read [] .crate (by decide) (by decide) declares
  exact ⟨_, read, lowered, resolves.2 ⟨by decide, .inl rfl⟩⟩

/-- A path that leads upwards finds what its own module declares. -/
theorem resolveName?_modulePath_shadowed :
    let path : SourceType := .named [⟨"super", false⟩] ⟨"X", false⟩ []
    let accessor : Method := {
      name := ⟨"x", false⟩, takesOnlyReceiver := true, result := some path }
    let items : List SourceItem := [.struct [] ⟨"X", false⟩ .unit, .module ⟨"m", false⟩
      [.struct [] ⟨"X", false⟩ .unit, .interface [] ⟨"T", false⟩ [] [accessor]]]
    ∃ g, (declarationsOf { package := "p" } items).result = .ok g ∧
      Declares items ["X"] ∧ g.contains "p.X" = true ∧ path.usage = .ok ⟨"X", [], false⟩ ∧
      g.resolveName? "p.m" "X" = .some "p.m.X" := by
  intro path accessor items
  let declared : List Declaration := [
    { package := "p", name := "X", kind := .object },
    { package := "p.m", name := "X", kind := .object },
    { package := "p.m", name := "T", kind := .interface
      properties := [⟨"x", ⟨"X", [], false⟩, []⟩] }]
  refine ⟨⟨declared⟩, ?_, ⟨.here [] _, _, [⟨"X", false⟩], rfl, List.mem_singleton_self _, rfl⟩,
    by decide, rfl, by decide⟩
  dsimp only [items, accessor, path, declared]
  rfl

end ModelClasses.TraitSource
