import ModelClasses.Proofs.Resolution.AnnotationRecords
import ModelClasses.Proofs.TraitSource.ModulePaths
import ModelClasses.TraitSource.Lexer
import ModelClasses.TraitSource.Parser

/-! # References to objects and entries

An attribute refers to an object, or to an entry of an enumeration, by the names that it is declared with
in the same module. What is declared is named by the package of the module and these names, and the
reference is looked up in the package of what the attribute belongs to. Both are the package of the
module, and so the reference is to the declaration, unless the file has another one of either name. -/

namespace ModelClasses

namespace DeclarationGraph

variable {g : DeclarationGraph} {package name : String}

theorem get?_of_sole {d : Declaration} (inside : d ∈ g.declarations)
    (sole : g.declarations.countP (·.qualifiedName == d.qualifiedName) ≤ 1) :
    g.get? d.qualifiedName = some d := by
  rw [List.countP_eq_length_filter] at sole
  have found : d ∈ g.declarations.filter (·.qualifiedName == d.qualifiedName) :=
    List.mem_filter.2 ⟨inside, beq_self_eq_true _⟩
  obtain ⟨first, one⟩ := List.length_eq_one_iff.1 (le_antisymm sole (List.length_pos_of_mem found))
  rw [one] at found
  rw [get?, ← List.head?_filter, one, List.head?_cons, List.eq_of_mem_singleton found]

/-- A name that is declared in a package is found there if nothing else is called by the name itself. -/
theorem resolveName?_of_contains (declared : g.contains (Naming.qualify package name) = true)
    (apart : g.contains name = true → name = Naming.qualify package name) :
    g.resolveName? package name = some (Naming.qualify package name) := by
  rw [resolveName?]
  split
  · rename_i written
    rw [← apart written]
  · rename_i unwritten
    have some : package.isEmpty = false := by
      by_contra empty
      rw [Naming.qualify, if_pos (by simpa using empty)] at declared
      exact unwritten declared
    rw [if_pos (by rw [some, declared]; rfl)]

/-- In its package, the name of a declaration refers to the declaration. -/
theorem resolvesTo_of_sole {d : Declaration} (inside : d ∈ g.declarations)
    (sole : g.declarations.countP (·.qualifiedName == d.qualifiedName) ≤ 1)
    (apart : ∀ d' ∈ g.declarations, d'.qualifiedName = d.name → d'.qualifiedName = d.qualifiedName) :
    g.resolveName? d.package d.name = some d.qualifiedName ∧
      g.RefersAs d.qualifiedName (ReferenceKind.ofDeclaration d.kind) := by
  have found := get?_of_sole inside sole
  constructor
  · refine resolveName?_of_contains (Option.isSome_iff_exists.2 ⟨d, found⟩) fun other => ?_
    obtain ⟨d', found'⟩ := Option.isSome_iff_exists.1 other
    have called := qualifiedName_of_get? found'
    exact called.symm.trans (apart d' (mem_of_get? found') called)
  · rw [refersAs_iff, referenceTo, found, Option.map_some, Option.getD_some]

/-- An argument of an annotation has its value in every record of the annotation. -/
theorem mem_arguments_of_resolveUsage {s : Settings} {u : AnnotationUsage} {r : AnnotationRecord}
    (resolved : g.resolveUsage s package u = .ok r) {a : Argument} (inside : a ∈ u.arguments)
    {b : AnnotationArgument} {context : String} (value : g.resolveArgument package context a = .ok b) :
    b ∈ r.arguments := by
  obtain ⟨b', inside', stands⟩ := exists_of_mem_left (resolveUsage_ok_iff.1 resolved).arguments inside
  rw [resolveArgument_ok_iff.2 stands] at value
  exact Except.ok.inj value ▸ inside'

end DeclarationGraph

/-- The annotations of a declaration and of its properties. -/
def Declaration.usages (d : Declaration) : List AnnotationUsage :=
  d.annotations ++ d.properties.flatMap (·.annotations)

namespace TraitSource

/-- A name that is read from a text and is no keyword is none of the words that start a path. A raw name
may be a keyword, but none of these. -/
theorem notMem_moduleWords {i : Identifier} {cs rest : List Char} {before after : ParserState}
    (lexed : Lexeme.identifier? cs = some (i, rest))
    (parsed : Parser.identifier before = some (i, after)) : i.name ∉ moduleWords := by
  have accepted : i.raw = true ∨ i.name ∉ Parser.keywords := by
    rw [Parser.identifier, Parser.name] at parsed
    split at parsed
    · split at parsed
      · rename_i known
        cases parsed
        simpa using known
      · cases parsed
    · cases parsed
  have unquoted : i.raw = true → i.name ∉ Lexeme.neverRaw := by
    intro raw
    unfold Lexeme.identifier? at lexed
    split at lexed
    · obtain ⟨r, -, lexed⟩ := Option.bind_eq_some_iff.1 lexed
      split at lexed
      · cases lexed
      · rename_i known
        cases lexed
        simpa using known
    · obtain ⟨r, -, lexed⟩ := Option.map_eq_some_iff.1 lexed
      cases lexed
      cases raw
  have raws : moduleWords ⊆ Lexeme.neverRaw := by decide
  have words : moduleWords ⊆ Parser.keywords := by decide
  intro word
  rcases accepted with raw | plain
  · exact unquoted raw (raws word)
  · exact plain (words word)

/-- The body of an attribute gives a value for an argument. -/
inductive AttributeBody.Gives : AttributeBody → String → SourceExpression → Prop
  | value (e : SourceExpression) : Gives (.value e) Tag.soleArgument e
  | single (e : SourceExpression) : Gives (.single e) Tag.soleArgument e
  | named {entries : List (ArgumentName × SourceExpression)} {i : Identifier} {e : SourceExpression}
      (inside : (.identifier i, e) ∈ entries) : Gives (.named entries) (Naming.toCamelCase i.name) e

namespace Attribute

theorem mem_arguments_of_gives {body : AttributeBody} {given : List Argument}
    (read : arguments body = .ok given) {name : String} {e : SourceExpression} (gives : body.Gives name e)
    {v : ArgumentValue} (value : e.argumentValue = .ok v) : ⟨name, v⟩ ∈ given := by
  cases gives with
  | value | single =>
    rw [arguments, soleArgument, value] at read
    cases read
    exact List.mem_singleton_self _
  | named inside =>
    obtain ⟨a, inside', first⟩ := exists_of_mem_left (mapM_eq_ok_iff.1 read) inside
    obtain ⟨v', value', first⟩ := bind_eq_ok_iff.1 first
    cases first
    cases value.symm.trans value'
    exact inside'

/-- The path of the directive is no name of an annotation. -/
theorem isDirective_eq_false {a : Attribute} (annotates : a.isAnnotation = true) :
    isDirective a.isGlobal a.path = false := by
  by_contra directive
  rw [Bool.not_eq_false, isDirective, Bool.and_eq_true, beq_iff_eq] at directive
  unfold isAnnotation at annotates
  rw [directive.2] at annotates
  revert annotates
  decide

theorem usage?_ok {a : Attribute} (annotates : a.isAnnotation = true) {u? : Option AnnotationUsage}
    (read : a.usage? = .ok u?) :
    ∃ given, arguments a.body = .ok given ∧ u? = some ⟨pathName a.path, given⟩ := by
  rw [usage?, isDirective_eq_false annotates, annotates] at read
  obtain ⟨given, args, read⟩ := bind_eq_ok_iff.1 read
  cases read
  exact ⟨given, args, rfl⟩

theorem exists_usage {attributes : List Attribute} {us : List AnnotationUsage}
    (read : usages attributes = .ok us) {a : Attribute} (inside : a ∈ attributes)
    (annotates : a.isAnnotation = true) :
    ∃ given, arguments a.body = .ok given ∧ ⟨pathName a.path, given⟩ ∈ us := by
  obtain ⟨us?, each, read⟩ := bind_eq_ok_iff.1 read
  cases read
  obtain ⟨u?, inside', first⟩ := exists_of_mem_left (mapM_eq_ok_iff.1 each) inside
  obtain ⟨given, args, rfl⟩ := usage?_ok annotates first
  exact ⟨given, args, List.mem_filterMap.2 ⟨_, inside', rfl⟩⟩

end Attribute

namespace SourceItem

/-- The attributes of an item that annotations are read from: its own, and those of the functions that
its properties are read from. -/
def attributes : SourceItem → List Attribute
  | interface own _ _ methods => own ++ (accessors methods).flatMap (·.attributes)
  | struct own _ _ => own
  | enum own _ _ => own
  | implementation _ _ => []
  | module _ _ => []

/-- An item declares a value that references can be to. -/
inductive DeclaresValue : SourceItem → List Identifier → ReferenceKind → Prop
  | singleton (attributes : List Attribute) (name : Identifier) :
      DeclaresValue (struct attributes name .unit) [name] .singleton
  | enumConstant (attributes : List Attribute) (name : Identifier) {variants : List Identifier}
      {v : Identifier} (entry : v ∈ variants) :
      DeclaresValue (enum attributes name variants) [name, v] .enumConstant

variable {o : Origin} {c : ItemContent}

/-- A value is declared in the package of its module, under the names that it is declared with. -/
theorem DeclaresValue.exists_declaration {item : SourceItem} {names : List Identifier}
    {kind : ReferenceKind} (declares : item.DeclaresValue names kind)
    (h : (content o item).result = .ok c) :
    ∃ d ∈ c.declarations, d.package = o.package ∧ d.name = ".".intercalate (names.map (·.name)) ∧
      ReferenceKind.ofDeclaration d.kind = kind := by
  cases declares with
  | singleton attributes name =>
    obtain ⟨annotations, properties, -, rfl⟩ := content_struct_ok h
    exact ⟨_, List.mem_singleton_self _, rfl, String.intercalate_singleton.symm, rfl⟩
  | enumConstant attributes name entry =>
    obtain ⟨annotations, -, rfl⟩ := content_enum_ok h
    refine ⟨_, List.mem_cons_of_mem _ (List.mem_map_of_mem entry), rfl, ?_, rfl⟩
    rw [List.map_cons, List.map_cons, List.map_nil,
      String.intercalate_cons_of_ne_nil (List.cons_ne_nil _ _), String.intercalate_singleton]
    rfl

/-- What an attribute of an item is about is declared in the package of the module. -/
theorem exists_usages {item : SourceItem} (h : (content o item).result = .ok c) {a : Attribute}
    (inside : a ∈ item.attributes) :
    ∃ d ∈ c.declarations, d.package = o.package ∧ (∃ i, [i] ∈ item.declaredNames ∧ d.name = i.name) ∧
      ∃ written us, a ∈ written ∧ Attribute.usages written = .ok us ∧ us ⊆ d.usages := by
  cases item with
  | interface own name supertypes methods =>
    obtain ⟨d, read, rfl⟩ := content_interface_ok_iff.1 h
    obtain ⟨types, annotations, properties, -, given, each, rfl⟩ := interfaceDeclaration_ok_iff.1 read
    refine ⟨_, List.mem_singleton_self _, rfl, ⟨name, List.mem_singleton_self _, rfl⟩, ?_⟩
    rcases List.mem_append.1 inside with inside | inside
    · exact ⟨own, annotations, inside, given, List.subset_append_left ..⟩
    · obtain ⟨m, hm, inside⟩ := List.mem_flatMap.1 inside
      obtain ⟨p, hp, declares⟩ := exists_of_mem_left (declares_properties each) hm
      refine ⟨m.attributes, p.annotations, inside, declares.annotations, fun u hu => ?_⟩
      exact List.mem_append_right _ (List.mem_flatMap.2 ⟨p, hp, hu⟩)
  | struct own name fields =>
    obtain ⟨annotations, properties, given, rfl⟩ := content_struct_ok h
    exact ⟨_, List.mem_singleton_self _, rfl, ⟨name, List.mem_singleton_self _, rfl⟩, own, annotations,
      inside, given, List.subset_append_left ..⟩
  | enum own name variants =>
    obtain ⟨annotations, given, rfl⟩ := content_enum_ok h
    exact ⟨_, List.mem_cons_self, rfl, ⟨name, List.mem_cons_self, rfl⟩, own, annotations, inside, given,
      List.subset_append_left ..⟩
  | implementation i target => cases inside
  | module name items => cases inside

end SourceItem

namespace ItemPlace

variable {place : ItemPlace} {o : Origin} {item : SourceItem} {g : DeclarationGraph}
  (h : (declarationsOf o (place.fill item)).result = .ok g)

include h

theorem exists_declaration_of_declaresValue {names : List Identifier} {kind : ReferenceKind}
    (declares : item.DeclaresValue names kind) :
    ∃ d ∈ g.declarations, d.package = (o.within place.modules).package ∧
      d.name = ".".intercalate (names.map (·.name)) ∧ ReferenceKind.ofDeclaration d.kind = kind := by
  obtain ⟨own, read, declared⟩ := exists_extends_of_fill h
  obtain ⟨d, inside, inPackage, named, kinds⟩ := declares.exists_declaration read
  obtain ⟨d', inside', more, rfl⟩ := declared d inside
  exact ⟨_, inside', inPackage, named, kinds⟩

theorem exists_annotation {a : Attribute} (carried : a ∈ item.attributes)
    (annotates : a.isAnnotation = true) {argument : String} {e : SourceExpression}
    (gives : a.body.Gives argument e) {v : ArgumentValue} (value : e.argumentValue = .ok v) :
    ∃ d ∈ g.declarations, d.package = (o.within place.modules).package ∧
      (∃ i, [i] ∈ item.declaredNames ∧ d.name = i.name) ∧
      ∃ u ∈ d.usages, u.name = pathName a.path ∧ ⟨argument, v⟩ ∈ u.arguments := by
  obtain ⟨own, read, declared⟩ := exists_extends_of_fill h
  obtain ⟨d, inside, inPackage, called, attributes, us, carried, usages, among⟩ :=
    SourceItem.exists_usages read carried
  obtain ⟨d', inside', more, rfl⟩ := declared d inside
  obtain ⟨given, arguments, used⟩ := Attribute.exists_usage usages carried annotates
  exact ⟨_, inside', inPackage, called, _, among used, rfl,
    Attribute.mem_arguments_of_gives arguments gives value⟩

end ItemPlace

/-- An argument of an annotation is a path, by which an object or an entry of the same module is declared.
If nothing else in the file has the qualified name of the declaration or is called as the path is written,
the argument is a reference to the declaration, of the kind of what is declared. No name that
is read is one of the words that start a path. -/
theorem resolveUsage_of_declaresValue {o : Origin} {items : List SourceItem} {g : DeclarationGraph}
    (read : (declarationsOf o items).result = .ok g) {place place' : ItemPlace}
    {item item' : SourceItem} (holds : items = place.fill item) (holds' : items = place'.fill item')
    (same : place'.modules = place.modules) {names path : List Identifier} {kind : ReferenceKind}
    (declares : item.DeclaresValue names kind) (spelled : path.map (·.name) = names.map (·.name))
    (plain : ∀ i ∈ path, i.name ∉ moduleWords) {a : Attribute} {argument : String}
    (carried : a ∈ item'.attributes) (annotates : a.isAnnotation = true)
    (gives : a.body.Gives argument (.path path)) :
    let written := ".".intercalate (names.map (·.name))
    let package := (o.within place.modules).package
    let qualified := Naming.qualify package written
    g.declarations.countP (·.qualifiedName == qualified) ≤ 1 →
    (∀ d ∈ g.declarations, d.qualifiedName = written → d.qualifiedName = qualified) →
    (∃ d ∈ g.declarations, d.package = package ∧ d.name = written ∧
      ReferenceKind.ofDeclaration d.kind = kind) ∧
    ∃ d ∈ g.declarations, d.package = package ∧
      (∃ i, [i] ∈ item'.declaredNames ∧ d.name = i.name) ∧
      ∃ u ∈ d.usages, u.name = pathName a.path ∧ ⟨argument, .reference written⟩ ∈ u.arguments ∧
        ∀ s : Settings,
          g.resolveArgument d.package (g.annotationName s d.package u.name)
              ⟨argument, .reference written⟩ =
            .ok ⟨argument, .reference ⟨qualified, kind⟩⟩ ∧
          ∀ r, g.resolveUsage s d.package u = .ok r →
            ⟨argument, .reference ⟨qualified, kind⟩⟩ ∈ r.arguments := by
  intro written package qualified sole apart
  have lowered : pathName path = written :=
    ((PathStart.up 0).pathName_words plain).trans (by rw [spelled])
  obtain ⟨d, inside, inPackage, named, kinds⟩ :=
    ItemPlace.exists_declaration_of_declaresValue (holds ▸ read) declares
  obtain ⟨bearer, inside', inPackage', called, u, carries, annotated, refers⟩ :=
    ItemPlace.exists_annotation (holds' ▸ read) carried annotates gives
      (v := .reference written) (by rw [SourceExpression.argumentValue, lowered])
  rw [same] at inPackage'
  have qualifies : d.qualifiedName = qualified := by
    rw [Declaration.qualifiedName, inPackage, named]
  rw [← qualifies] at sole apart ⊢
  obtain ⟨known, refersAs⟩ := DeclarationGraph.resolvesTo_of_sole inside sole (named ▸ apart)
  refine ⟨⟨d, inside, inPackage, named, kinds⟩, bearer, inside', inPackage', called, u, carries,
    annotated, refers, fun s => ?_⟩
  have value : g.resolveArgument bearer.package (g.annotationName s bearer.package u.name)
      ⟨argument, .reference written⟩ = .ok ⟨argument, .reference ⟨d.qualifiedName, kind⟩⟩ := by
    rw [DeclarationGraph.resolveArgument_ok_iff, inPackage', ← inPackage, ← kinds,
      show written = d.name from named.symm]
    exact ⟨rfl, .reference known refersAs⟩
  exact ⟨value, fun r resolved => DeclarationGraph.mem_arguments_of_resolveUsage resolved refers value⟩

/-- An entry of an enumeration in a module, both with raw names, and an accessor with an annotation that
refers to it. -/
theorem resolveUsage_of_declaresValue_raw :
    let shade : SourceItem := .enum [] ⟨"type", true⟩ [⟨"Light", false⟩, ⟨"fn", true⟩]
    let tag : Attribute := {
      path := [⟨"Tag", false⟩]
      body := .named [(.identifier ⟨"default_value", false⟩, .path [⟨"type", true⟩, ⟨"fn", true⟩])] }
    let accessor : Method := {
      attributes := [tag], name := ⟨"shade", false⟩, takesOnlyReceiver := true
      result := some (.named [] ⟨"type", true⟩ []) }
    let items : List SourceItem :=
      [.module ⟨"model", false⟩ [shade, .interface [] ⟨"Item", false⟩ [] [accessor]]]
    ∃ g, (declarationsOf { package := "p" } items).result = .ok g ∧
      g.declarations.countP (·.qualifiedName == "p.model.type.fn") ≤ 1 ∧
      (∀ d ∈ g.declarations, d.qualifiedName = "type.fn" → d.qualifiedName = "p.model.type.fn") ∧
      ∃ d ∈ g.declarations, d.package = "p.model" ∧ ∃ u ∈ d.usages, u.name = "Tag" ∧
        ∀ s : Settings,
          g.resolveArgument d.package (g.annotationName s d.package u.name)
              ⟨"defaultValue", .reference "type.fn"⟩ =
            .ok ⟨"defaultValue", .reference ⟨"p.model.type.fn", .enumConstant⟩⟩ := by
  intro shade tag accessor items
  let declared : List Declaration := [
    { package := "p.model", name := "type", kind := .enum },
    { package := "p.model", name := "type.Light", kind := .enumEntry },
    { package := "p.model", name := "type.fn", kind := .enumEntry },
    { package := "p.model", name := "Item", kind := .interface
      properties := [⟨"shade", ⟨"type", [], false⟩,
        [⟨"Tag", [⟨"defaultValue", .reference "type.fn"⟩]⟩]⟩] }]
  have read : (declarationsOf { package := "p" } items).result = .ok ⟨declared⟩ := by
    dsimp only [items, shade, accessor, tag, declared]
    rfl
  have sole : declared.countP (·.qualifiedName == "p.model.type.fn") ≤ 1 := by decide
  have apart : ∀ d ∈ declared, d.qualifiedName = "type.fn" → d.qualifiedName = "p.model.type.fn" := by
    decide
  have holds : items = (ItemPlace.inside [] ⟨"model", false⟩
      (.here [] [.interface [] ⟨"Item", false⟩ [] [accessor]]) []).fill shade := rfl
  have holds' : items = (ItemPlace.inside [] ⟨"model", false⟩ (.here [shade] []) []).fill
      (.interface [] ⟨"Item", false⟩ [] [accessor]) := rfl
  have declares : shade.DeclaresValue [⟨"type", true⟩, ⟨"fn", true⟩] .enumConstant :=
    .enumConstant [] _ (List.mem_cons_of_mem _ List.mem_cons_self)
  have gives : tag.body.Gives "defaultValue" (.path [⟨"type", true⟩, ⟨"fn", true⟩]) :=
    .named (i := ⟨"default_value", false⟩) List.mem_cons_self
  have first : Lexeme.identifier? "r#type".toList = some (⟨"type", true⟩, []) := rfl
  have second : Lexeme.identifier? "r#fn".toList = some (⟨"fn", true⟩, []) := rfl
  have taken (i : Identifier) (raw : i.raw = true) :
      Parser.identifier ⟨[.identifier i], []⟩ = some (i, ⟨[], [.identifier i]⟩) := by
    simp [Parser.identifier, Parser.name, raw]
  have plain : ∀ i ∈ [(⟨"type", true⟩ : Identifier), ⟨"fn", true⟩], i.name ∉ moduleWords := by
    simpa using ⟨notMem_moduleWords first (taken _ rfl), notMem_moduleWords second (taken _ rfl)⟩
  obtain ⟨-, d, inside, inPackage, -, u, carries, annotated, -, resolves⟩ :=
    resolveUsage_of_declaresValue read holds holds' rfl declares rfl plain (List.mem_singleton_self tag)
      (by decide) gives sole apart
  exact ⟨_, read, sole, apart, d, inside, inPackage, u, carries, annotated, fun s => (resolves s).1⟩

end TraitSource

end ModelClasses
