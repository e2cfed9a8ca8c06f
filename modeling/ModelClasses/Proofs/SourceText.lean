import ModelClasses.SourceText
import ModelClasses.Proofs.Naming
import Mathlib.Data.List.Basic

/-! # Names in source texts

A file writes the names of the types and annotations that are in it, and the scope decides how. So
scopes that write these names alike give the same text. A type of the default imports is written by
its simple name exactly where the scope has no other type of that name. -/

namespace ModelClasses

namespace TypeName

mutual
/-- The qualified names in a type. -/
def names : TypeName → List String
  | ⟨qualified, arguments, _⟩ => qualified :: namesOf arguments

def namesOf : List TypeName → List String
  | [] => []
  | t :: rest => names t ++ namesOf rest
end

mutual
theorem render_congr {name name' : String → List Char} :
    ∀ t : TypeName, (∀ q ∈ t.names, name q = name' q) → t.render name = t.render name'
  | ⟨qualified, arguments, nullable⟩, same => by
    rw [names, List.forall_mem_cons] at same
    rw [render, render, same.1, renderList_congr arguments same.2]

theorem renderList_congr {name name' : String → List Char} :
    ∀ ts : List TypeName, (∀ q ∈ namesOf ts, name q = name' q) →
      renderList name ts = renderList name' ts
  | [], _ => by rw [renderList, renderList]
  | t :: rest, same => by
    rw [namesOf, List.forall_mem_append] at same
    rw [renderList, renderList, render_congr t same.1, renderList_congr rest same.2]
end

end TypeName

def Property.names (p : Property) : List String :=
  p.annotations.map (·.qualifiedName) ++ p.type.names

def Conversion.names (c : Conversion) : List String := c.parameters.flatMap (·.type.names)

def ClassModel.names (m : ClassModel) : List String :=
  m.supertypes.flatMap (·.type.names) ++ (m.constructor.flatMap (·.type.names) ++
    (m.properties.flatMap Property.names ++ m.conversions.flatMap Conversion.names))

/-- The qualified names of the types and annotations in a file. -/
def SourceFile.names (file : SourceFile) : List String := file.classes.flatMap ClassModel.names

/-- The types in a class, wherever they are written. -/
def ClassModel.types (m : ClassModel) : List TypeName :=
  m.supertypes.map (·.type) ++ (m.constructor.map (·.type) ++
    (m.properties.map (·.type) ++ m.conversions.flatMap fun c => c.parameters.map (·.type)))

/-- The qualified names in the types of a file, at any depth of arguments. -/
def SourceFile.typeNames (file : SourceFile) : List String :=
  TypeName.namesOf (file.classes.flatMap ClassModel.types)

namespace NameScope

section

variable {scope : NameScope} {q : String} (imported : Naming.packageOf q ∈ defaultImports)
  (foreign : Naming.packageOf q ≠ scope.package)

include imported foreign

theorem shortName_imported :
    scope.shortName q = if Naming.simpleName q ∈ scope.declared then q else Naming.simpleName q := by
  have owned : (Naming.packageOf q).isEmpty = false := by
    generalize Naming.packageOf q = owner at imported
    revert owner
    decide
  rw [shortName, owned, if_neg Bool.false_ne_true]
  by_cases shadowed : Naming.simpleName q ∈ scope.declared
  · rw [if_pos shadowed, if_neg (by simp [foreign, shadowed])]
  · rw [if_neg shadowed, if_pos (by simp [imported, shadowed])]

/-- A simple name is a name of its own. -/
theorem shortName_eq_simpleName_iff :
    scope.shortName q = Naming.simpleName q ↔ Naming.simpleName q ∉ scope.declared := by
  rw [shortName_imported imported foreign]
  constructor
  · intro simple shadowed
    have owned : Naming.packageOf q ≠ "" := fun none => by
      rw [none] at imported
      exact absurd imported (by decide)
    have whole := congrArg String.length (Naming.qualify_packageOf owned)
    rw [if_pos shadowed] at simple
    rw [Naming.qualify, if_neg (by simpa using owned), ← simple] at whole
    simp at whole
  · intro free
    rw [if_neg free]

end

/-- A scope may write a type by its simple name. -/
def Opens (scope : NameScope) (q : String) : Prop :=
  Naming.packageOf q = scope.package ∨ Naming.packageOf q ∈ defaultImports

section

variable {scope : NameScope} {q q' : String} (owned : Naming.packageOf q ≠ "")

include owned

variable (scope) in
/-- The scope's own package needs no look at what it declares. -/
theorem shortName_cases :
    scope.shortName q = Naming.simpleName q ∧ (Naming.packageOf q = scope.package ∨
        Naming.packageOf q ∈ defaultImports ∧ Naming.simpleName q ∉ scope.declared) ∨
      scope.shortName q = q := by
  rw [shortName, if_neg (by simpa using owned)]
  split
  · rename_i visible
    simp only [List.contains_eq_mem, decide_eq_true_eq] at visible
    exact .inl ⟨rfl, visible⟩
  · exact .inr rfl

theorem shortName_opened (opens : scope.Opens q) (free : Naming.simpleName q ∉ scope.declared) :
    scope.shortName q = Naming.simpleName q := by
  rw [shortName, if_neg (by simpa using owned), if_pos]
  simp only [List.contains_eq_mem, decide_eq_true_eq]
  exact opens.imp_right fun imported => ⟨imported, free⟩

/-- Two types are written alike only where a scope opens both and declares neither. -/
theorem shortName_eq_iff (owned' : Naming.packageOf q' ≠ "") (different : q ≠ q') :
    scope.shortName q = scope.shortName q' ↔
      Naming.simpleName q = Naming.simpleName q' ∧ Naming.simpleName q ∉ scope.declared ∧
        scope.Opens q ∧ scope.Opens q' := by
  constructor
  · intro same
    rcases shortName_cases scope owned with ⟨short, visible⟩ | full <;>
      rcases shortName_cases scope owned' with ⟨short', visible'⟩ | full'
    · rw [short, short'] at same
      refine ⟨same, fun declared => different ?_, visible.imp_right And.left,
        visible'.imp_right And.left⟩
      have inside := visible.resolve_right fun free => free.2 declared
      have inside' := visible'.resolve_right fun free => free.2 (same ▸ declared)
      rw [← Naming.qualify_packageOf owned, ← Naming.qualify_packageOf owned', inside, inside', same]
    · rw [short, full'] at same
      exact absurd (Naming.dot_mem owned') (same ▸ Naming.dot_notMem_simpleName owned)
    · rw [full, short'] at same
      exact absurd (Naming.dot_mem owned) (same ▸ Naming.dot_notMem_simpleName owned')
    · exact absurd (full.symm.trans (same.trans full')) different
  · rintro ⟨simple, free, opens, opens'⟩
    rw [shortName_opened owned opens free, shortName_opened owned' opens' (simple ▸ free), simple]

end

/-- Of what a package declares, a scope needs only the names of imported types. -/
theorem shortName_congr {scope scope' : NameScope} {q : String}
    (package : scope.package = scope'.package)
    (same : Naming.packageOf q ∈ defaultImports → Naming.packageOf q ≠ scope.package →
      (Naming.simpleName q ∈ scope.declared ↔ Naming.simpleName q ∈ scope'.declared)) :
    scope.shortName q = scope'.shortName q := by
  by_cases imported : Naming.packageOf q ∈ defaultImports
  · by_cases foreign : Naming.packageOf q ≠ scope.package
    · rw [shortName_imported imported foreign, shortName_imported imported (package ▸ foreign)]
      simp only [same imported foreign]
    · simp only [shortName, ← package, not_not.1 foreign, true_or]
  · simp only [shortName, List.contains_eq_mem, imported, decide_false, Bool.false_eq_true,
      false_and, package]

end NameScope

namespace SourceText

variable {scope scope' : NameScope} {indent : List Char}

/-- Two scopes write some names alike. -/
def Agree (scope scope' : NameScope) (names : List String) : Prop :=
  ∀ q ∈ names, scope.shortName q = scope'.shortName q

theorem Agree.of_append {names more : List String} (h : Agree scope scope' (names ++ more)) :
    Agree scope scope' names ∧ Agree scope scope' more := List.forall_mem_append.1 h

theorem Agree.of_flatMap {α : Type} {names : α → List String} {xs : List α}
    (h : Agree scope scope' (xs.flatMap names)) {x : α} (hx : x ∈ xs) : Agree scope scope' (names x) :=
  fun q hq => h q (List.mem_flatMap.2 ⟨x, hx, hq⟩)

theorem typeText_congr {t : TypeName} (h : Agree scope scope' t.names) :
    scope.typeText t = scope'.typeText t :=
  TypeName.render_congr t fun q hq => by rw [h q hq]

theorem annotationLines_congr {annotations : List AnnotationCopy} (depth : Nat)
    (h : Agree scope scope' (annotations.map (·.qualifiedName))) :
    annotationLines scope indent depth annotations =
      annotationLines scope' indent depth annotations := by
  rw [annotationLines, annotationLines]
  refine List.flatMap_congr fun a ha => ?_
  rw [annotationText, annotationText, h _ (List.mem_map_of_mem ha)]

theorem typed_congr {name : String} {t : TypeName} (h : Agree scope scope' t.names) :
    typed scope name t = typed scope' name t := by
  rw [typed, typed, typeText_congr h]

theorem bodyProperty_congr {p : Property} (h : Agree scope scope' p.names) :
    bodyProperty scope indent p = bodyProperty scope' indent p := by
  obtain ⟨annotations, type⟩ := Agree.of_append h
  rw [bodyProperty, bodyProperty, annotationLines_congr 1 annotations, typed_congr type]

theorem constructorParameter_congr {parameter : Parameter} {property : Option Property}
    (h : Agree scope scope' parameter.type.names)
    (h' : ∀ p, property = some p → Agree scope scope' p.names) :
    constructorParameter scope indent parameter property =
      constructorParameter scope' indent parameter property := by
  cases property with
  | none => simp only [constructorParameter, typed_congr h]
  | some p =>
    simp only [constructorParameter, typed_congr h,
      annotationLines_congr 1 (Agree.of_append (h' p rfl)).1]

theorem conversion_congr {c : Conversion} (h : Agree scope scope' c.names) :
    conversion scope indent c = conversion scope' indent c := by
  have parameters : c.parameters.map (fun p => typed scope p.name p.type) =
      c.parameters.map fun p => typed scope' p.name p.type :=
    List.map_congr_left fun p hp => typed_congr (Agree.of_flatMap h hp)
  rw [conversion, conversion, parameters]

theorem classText_congr {m : ClassModel} (h : Agree scope scope' m.names) :
    classText scope indent m = classText scope' indent m := by
  obtain ⟨inSupertypes, h⟩ := Agree.of_append h
  obtain ⟨inParameters, h⟩ := Agree.of_append h
  obtain ⟨inProperties, inConversions⟩ := Agree.of_append h
  have supertypes : m.supertypes.map (supertypeText scope) = m.supertypes.map (supertypeText scope') :=
    List.map_congr_left fun t ht => by
      rw [supertypeText, supertypeText, typeText_congr (Agree.of_flatMap inSupertypes ht)]
  have parameters : parameterLines scope indent m = parameterLines scope' indent m :=
    List.flatMap_congr fun p hp =>
      constructorParameter_congr (Agree.of_flatMap inParameters hp) fun q found =>
        Agree.of_flatMap inProperties (List.mem_filter.1 (List.mem_of_find?_eq_some found)).1
  have properties :
      (m.properties.filter (!inConstructor m ·)).map (bodyProperty scope indent) =
        (m.properties.filter (!inConstructor m ·)).map (bodyProperty scope' indent) :=
    List.map_congr_left fun p hp =>
      bodyProperty_congr (Agree.of_flatMap inProperties (List.mem_filter.1 hp).1)
  have conversions : m.conversions.map (conversion scope indent) =
      m.conversions.map (conversion scope' indent) :=
    List.map_congr_left fun c hc => conversion_congr (Agree.of_flatMap inConversions hc)
  have body : members scope indent m = members scope' indent m := by
    rw [members, members, properties, conversions]
  rw [classText, classText, supertypes, parameters, body]

end SourceText

/-- More names in the package make no difference if all names in a file are written as before. -/
theorem SourceFile.render_congr {file : SourceFile} {packageNames : List String}
    (h : SourceText.Agree (SourceText.scopeOf file)
      (SourceText.scopeOf { file with packageNames := packageNames }) file.names) (indent : String) :
    file.render indent = { file with packageNames := packageNames }.render indent := by
  have classes : file.classes.map (SourceText.classText (SourceText.scopeOf file) indent.toList) =
      file.classes.map (SourceText.classText
        (SourceText.scopeOf { file with packageNames := packageNames }) indent.toList) :=
    List.map_congr_left fun m hm => SourceText.classText_congr (SourceText.Agree.of_flatMap h hm)
  rw [render, render, SourceText.blocks, SourceText.blocks, classes]

end ModelClasses
