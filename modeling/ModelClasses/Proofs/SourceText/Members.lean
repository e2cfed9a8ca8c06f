import ModelClasses.Proofs.Synthesis.Shape
import ModelClasses.SourceText
import Mathlib.Data.List.Nodup

/-! # Members of classes in source texts

A class is written line by line. A property stands on the line of the constructor parameter of its name
if it is initialized by it, and has a line of its own in the body otherwise. -/

namespace ModelClasses.SourceText

/-- A line of a source text: how deep it is indented, and what stands on it. -/
structure Line where
  depth : Nat
  text : List Char

namespace Line

/-- What is written of a line in front of its break. -/
def written (indent : List Char) (l : Line) : List Char :=
  (List.replicate l.depth indent).flatten ++ l.text

def empty : Line := ⟨0, []⟩

end Line

/-- The text of lines, each with a break behind it. -/
def writeLines (indent : List Char) (ls : List Line) : List Char :=
  ls.flatMap fun l => l.written indent ++ ['\n']

section

variable (scope : NameScope)

def annotationsOf (p : Property) : List Line :=
  p.annotations.map fun a => ⟨1, annotationText scope a⟩

/-- A constructor parameter, which may be a property at the same time. -/
def parameterOf (q : Parameter) (p? : Option Property) : List Line :=
  let text := typed scope q.name q.type ++ defaultText q.default ++ [',']
  match p? with
  | some p => annotationsOf scope p ++ [⟨1, modifiers p ++ text⟩]
  | none => [⟨1, text⟩]

def propertyOf (p : Property) : List Line :=
  let value := match p.initializer with
    | .expression e => e.render
    | .parameter => p.name.toList
  annotationsOf scope p ++
    [⟨1, modifiers p ++ typed scope p.name p.type ++ " = ".toList ++ value⟩]

def conversionOf (c : Conversion) : List Line :=
  let parameters := c.parameters.map fun q => typed scope q.name q.type
  let header := "constructor(".toList ++ TypeName.commaSeparated parameters ++ ") : this(".toList
  if c.arguments.isEmpty then [⟨1, header ++ [')']⟩]
  else ⟨1, header⟩ :: c.arguments.map (fun a => ⟨2, argumentText a ++ [',']⟩) ++ [⟨1, [')']⟩]

/-- A property is initialized by a constructor parameter of its name. -/
def IsHeld (m : ClassModel) (p : Property) : Prop :=
  p.initializer.isParameter = true ∧ ∃ q ∈ m.constructor, q.name = p.name

instance (m : ClassModel) (p : Property) : Decidable (IsHeld m p) :=
  inferInstanceAs (Decidable (_ ∧ _))

/-- The lines of the members of the body: of the properties that no parameter initializes, and of the other
constructors. -/
def bodyOf (m : ClassModel) : List (List Line) :=
  (m.properties.filter fun p => ¬ IsHeld m p).map (propertyOf scope) ++
    m.conversions.map (conversionOf scope)

/-- What stands in front of the constructor parameters. -/
def headerText (m : ClassModel) : List Char :=
  (if m.isData then "data class ".toList else "class ".toList) ++ m.name.toList ++ ['(']

/-- What stands behind the constructor parameters. -/
def closingText (m : ClassModel) (hasBody : Bool) : List Char :=
  [')'] ++
  (if m.supertypes.isEmpty then []
    else " : ".toList ++ TypeName.commaSeparated (m.supertypes.map (supertypeText scope))) ++
  if hasBody then " \x7b".toList else []

/-- The lines of a class, given those of its parameters and those of each member of its body. -/
def classOf (m : ClassModel) (parameters body : List (List Line)) : List Line :=
  let closing := closingText scope m !body.isEmpty
  (if parameters.isEmpty then [⟨0, headerText m ++ closing⟩]
    else ⟨0, headerText m⟩ :: parameters.flatten ++ [⟨0, closing⟩]) ++
  if body.isEmpty then [] else [Line.empty].intercalate body ++ [⟨0, ['\x7d']⟩]

end

section

variable {scope : NameScope} {indent : List Char}

@[simp] theorem writeLines_nil : writeLines indent [] = [] := rfl

@[simp] theorem writeLines_cons (l : Line) (ls : List Line) :
    writeLines indent (l :: ls) = line indent l.depth l.text ++ writeLines indent ls := rfl

@[simp] theorem writeLines_append (ls others : List Line) :
    writeLines indent (ls ++ others) = writeLines indent ls ++ writeLines indent others :=
  List.flatMap_append

@[simp] theorem writeLines_map {α : Type} (f : α → Line) (xs : List α) :
    writeLines indent (xs.map f) = xs.flatMap fun x => line indent (f x).depth (f x).text :=
  List.flatMap_map ..

@[simp] theorem writeLines_flatten (blocks : List (List Line)) :
    writeLines indent blocks.flatten = blocks.flatMap (writeLines indent) := by
  induction blocks with
  | nil => rfl
  | cons block blocks ih => rw [List.flatten_cons, writeLines_append, ih, List.flatMap_cons]

@[simp] theorem writeLines_intercalate (blocks : List (List Line)) :
    writeLines indent ([Line.empty].intercalate blocks) =
      ['\n'].intercalate (blocks.map (writeLines indent)) := by
  induction blocks with
  | nil => rfl
  | cons block blocks ih =>
    cases blocks with
    | nil => simp
    | cons next blocks =>
      rw [List.intercalate_cons_cons, writeLines_append, writeLines_append, ih, List.map_cons,
        List.map_cons, List.map_cons, List.intercalate_cons_cons]
      rfl

theorem writeLines_annotationsOf (p : Property) :
    writeLines indent (annotationsOf scope p) = annotationLines scope indent 1 p.annotations :=
  writeLines_map ..

theorem writeLines_parameterOf (q : Parameter) (p? : Option Property) :
    writeLines indent (parameterOf scope q p?) = constructorParameter scope indent q p? := by
  cases p? with
  | none => exact List.append_nil _
  | some p =>
    simp only [parameterOf, constructorParameter, writeLines_append, writeLines_annotationsOf,
      writeLines_cons, writeLines_nil, List.append_nil, List.append_assoc]

theorem writeLines_propertyOf (p : Property) :
    writeLines indent (propertyOf scope p) = bodyProperty scope indent p := by
  rw [propertyOf, writeLines_append, writeLines_annotationsOf, writeLines_cons, writeLines_nil,
    List.append_nil]
  rfl

theorem writeLines_conversionOf (c : Conversion) :
    writeLines indent (conversionOf scope c) = conversion scope indent c := by
  rw [conversion, conversionOf]
  split
  · exact List.append_nil _
  · simp only [List.cons_append, writeLines_append, writeLines_map, writeLines_cons, writeLines_nil,
      List.append_nil, List.append_assoc]

/-- Lines without breaks in them are the lines of the text. -/
theorem splitOn_writeLines {ls : List Line} (unbroken : '\n' ∉ indent)
    (each : ∀ l ∈ ls, '\n' ∉ l.text) :
    (writeLines indent ls).splitOn '\n' = ls.map (Line.written indent) ++ [[]] := by
  have joined : writeLines indent ls = ['\n'].intercalate (ls.map (Line.written indent) ++ [[]]) := by
    clear each
    induction ls with
    | nil => rfl
    | cons l ls ih =>
      have more : ls.map (Line.written indent) ++ [[]] ≠ [] := by simp
      obtain ⟨next, others, split⟩ := List.exists_cons_of_ne_nil more
      rw [List.map_cons, List.cons_append, split, List.intercalate_cons_cons, ← split, ← ih]
      rfl
  rw [joined, List.splitOn_intercalate _ _ (by simp)]
  intro text inside
  rcases List.mem_append.1 inside with inside | inside
  · obtain ⟨l, hl, rfl⟩ := List.mem_map.1 inside
    rw [Line.written, List.mem_append, not_or]
    refine ⟨fun broken => ?_, each l hl⟩
    obtain ⟨copy, copies, broken⟩ := List.mem_flatten.1 broken
    exact unbroken (List.eq_of_mem_replicate copies ▸ broken)
  · obtain rfl := List.mem_singleton.1 inside
    exact List.not_mem_nil

end

section

variable {m : ClassModel}

theorem inConstructor_eq : inConstructor m = fun p => decide (IsHeld m p) := by
  funext p
  rw [Bool.eq_iff_iff, inConstructor, Bool.and_eq_true, ClassModel.parameter?, List.find?_isSome,
    decide_eq_true_iff]
  simp only [beq_iff_eq, IsHeld]

/-- The property that the line of a parameter declares. -/
def heldBy (m : ClassModel) (q : Parameter) : Option Property :=
  (m.properties.filter (IsHeld m ·)).find? (·.name == q.name)

theorem members_eq {scope : NameScope} {indent : List Char} :
    members scope indent m = (bodyOf scope m).map (writeLines indent) := by
  have body : m.properties.filter (!inConstructor m ·) =
      m.properties.filter fun p => ¬ IsHeld m p := by
    simp only [inConstructor_eq, decide_not]
  rw [bodyOf, List.map_append, List.map_map, List.map_map, members, body]
  congr 1
  · exact List.map_congr_left fun p _ => (writeLines_propertyOf p).symm
  · exact List.map_congr_left fun c _ => (writeLines_conversionOf c).symm

theorem parameterLines_eq {scope : NameScope} {indent : List Char} :
    parameterLines scope indent m =
      writeLines indent (m.constructor.map fun q => parameterOf scope q (heldBy m q)).flatten := by
  rw [writeLines_flatten, List.flatMap_map, parameterLines, inConstructor_eq]
  exact List.flatMap_congr fun q _ => (writeLines_parameterOf q _).symm

theorem classText_eq {scope : NameScope} {indent : List Char} :
    classText scope indent m = writeLines indent (classOf scope m
      (m.constructor.map fun q => parameterOf scope q (heldBy m q)) (bodyOf scope m)) := by
  have start (text : List Char) : line indent 0 text = text ++ ['\n'] := rfl
  have opens : " \x7b\n".toList = " \x7b".toList ++ ['\n'] := rfl
  rw [classText, classOf, parameterLines_eq, members_eq, List.isEmpty_map]
  -- The line that closes the constructor opens the body, if there is one.
  cases bodyOf scope m with
  | nil =>
    split <;> simp only [headerText, closingText, start, writeLines_append, writeLines_cons,
      writeLines_nil, List.isEmpty_nil, List.map_nil, Bool.not_true, Bool.false_eq_true, if_false,
      if_true, List.append_nil, List.append_assoc, List.cons_append]
  | cons block blocks =>
    split <;> simp only [headerText, closingText, start, opens, writeLines_append, writeLines_cons,
      writeLines_nil, writeLines_intercalate, List.isEmpty_cons, List.map_cons, Bool.not_false,
      Bool.false_eq_true, if_false, if_true, List.append_nil, List.nil_append, List.append_assoc,
      List.cons_append]

theorem mem_of_heldBy {q : Parameter} {p : Property} (found : heldBy m q = some p) :
    p ∈ m.properties ∧ IsHeld m p ∧ p.name = q.name := by
  rw [heldBy] at found
  obtain ⟨inside, held⟩ := List.mem_filter.1 (List.mem_of_find?_eq_some found)
  have same := List.find?_some found
  exact ⟨inside, decide_eq_true_iff.1 held, beq_iff_eq.1 same⟩

/-- Some property stands on the line of a parameter if one that is initialized by it does. -/
theorem exists_heldBy_of_name {q : Parameter} (declared : q ∈ m.constructor) {p : Property}
    (inside : p ∈ m.properties) (initialized : p.initializer.isParameter = true)
    (same : p.name = q.name) : ∃ other, heldBy m q = some other := by
  have held : p ∈ m.properties.filter (IsHeld m ·) :=
    List.mem_filter.2 ⟨inside, decide_eq_true ⟨initialized, q, declared, same.symm⟩⟩
  exact Option.isSome_iff_exists.1 (List.find?_isSome.2 ⟨p, held, beq_iff_eq.2 same⟩)

section

variable (properties : (m.properties.map (·.name)).Nodup)

include properties

theorem heldBy_eq_some_iff {q : Parameter} (declared : q ∈ m.constructor) {p : Property} :
    heldBy m q = some p ↔
      p ∈ m.properties ∧ p.initializer.isParameter = true ∧ p.name = q.name := by
  constructor
  · intro found
    obtain ⟨inside, ⟨initialized, -⟩, same⟩ := mem_of_heldBy found
    exact ⟨inside, initialized, same⟩
  · rintro ⟨inside, initialized, same⟩
    obtain ⟨other, found⟩ := exists_heldBy_of_name declared inside initialized same
    obtain ⟨inside', -, same'⟩ := mem_of_heldBy found
    rw [found, List.inj_on_of_nodup_map properties inside' inside (same'.trans same.symm)]

/-- The properties on the lines of parameters and those of the body are all properties, each once. -/
theorem perm_properties (parameters : (m.constructor.map (·.name)).Nodup) :
    (m.constructor.filterMap (heldBy m) ++ m.properties.filter fun p => ¬ IsHeld m p).Perm
      m.properties := by
  have held : (m.constructor.filterMap (heldBy m)).Perm (m.properties.filter (IsHeld m ·)) := by
    refine (List.perm_ext_iff_of_nodup ?_ ?_).2 fun p => ?_
    · refine (List.pairwise_map.1 parameters).filterMap (heldBy m) ?_
      rintro q q' apart p found p' found' rfl
      exact apart ((mem_of_heldBy found).2.2.symm.trans (mem_of_heldBy found').2.2)
    · exact (List.Nodup.of_map _ properties).filter _
    · rw [List.mem_filterMap, List.mem_filter, decide_eq_true_iff]
      constructor
      · rintro ⟨q, declared, found⟩
        obtain ⟨inside, initialized, same⟩ := (heldBy_eq_some_iff properties declared).1 found
        exact ⟨inside, initialized, q, declared, same.symm⟩
      · rintro ⟨inside, initialized, q, declared, same⟩
        exact ⟨q, declared, (heldBy_eq_some_iff properties declared).2 ⟨inside, initialized, same.symm⟩⟩
  simp only [decide_not]
  exact (held.append_right _).trans (List.filter_append_perm _ _)

end

end

section

variable {g : DeclarationGraph} {s : Settings} {d : Descriptor} {made : Synthesis}

theorem isParameter_own {c : ClassifiedProperty} {q : Parameter}
    (parameter : Synthesis.parameter? c = some q) :
    (Synthesis.own c).initializer.isParameter = true ∧ (Synthesis.own c).name = q.name := by
  rw [Synthesis.parameter?] at parameter
  rw [Synthesis.own, Synthesis.initializer]
  cases source : c.source with
  | plain =>
    simp only [source, Option.some.injEq] at parameter
    exact ⟨rfl, parameter ▸ rfl⟩
  | default value =>
    simp only [source, Option.some.injEq] at parameter
    exact ⟨rfl, parameter ▸ rfl⟩
  | derived text =>
    simp only [source, reduceCtorEq] at parameter

variable (synthesized : (Synthesis.synthesize g s d).result = .ok made)

include synthesized

/-- What is initialized by a parameter overrides: what is created calls a function. -/
theorem isOverride_of_isParameter {p : Property} (inside : p ∈ made.model.properties)
    (initialized : p.initializer.isParameter = true) : p.isOverride = true := by
  obtain ⟨classified, each, rfl⟩ := Synthesis.synthesize_ok synthesized
  obtain ⟨c, hc, inside⟩ := List.mem_flatMap.1 inside
  obtain ⟨described, -, classifies⟩ := exists_of_mem_right each hc
  rcases List.mem_cons.1 inside with rfl | created
  · rfl
  · obtain ⟨a, -, creates⟩ := exists_of_mem_right classifies.creates created
    obtain ⟨modifier, -, calls⟩ := creates.initializer
    rw [calls] at initialized
    cases initialized

theorem exists_override {q : Parameter} (declared : q ∈ made.model.constructor) :
    ∃ p, heldBy made.model q = some p ∧ p ∈ made.model.properties ∧ p.name = q.name ∧
      p.isOverride = true := by
  have overrides (p : Property) := isOverride_of_isParameter (p := p) synthesized
  obtain ⟨classified, each, rfl⟩ := Synthesis.synthesize_ok synthesized
  obtain ⟨c, hc, parameter⟩ := List.mem_filterMap.1 declared
  have own : Synthesis.own c ∈ (Synthesis.ofClassified s d classified).model.properties :=
    List.mem_flatMap.2 ⟨c, hc, List.mem_cons_self⟩
  obtain ⟨initialized, same⟩ := isParameter_own parameter
  obtain ⟨p, found⟩ := exists_heldBy_of_name declared own initialized same
  obtain ⟨inside, held, same⟩ := mem_of_heldBy found
  exact ⟨p, found, inside, same, overrides p inside held.1⟩

end

/-- A class has a line for each constructor parameter, and every property is on exactly one line behind its
annotations: on the line of the parameter that initializes it, or else in the body, in front of the other
constructors. If the class is synthesized, each parameter overrides a property. -/
theorem classText_declares :
    (∀ (scope : NameScope) (indent : List Char) (m : ClassModel),
      (m.constructor.map (·.name)).Nodup → (m.properties.map (·.name)).Nodup →
      ∃ held : List (Option Property),
        List.Forall₂
          (fun (q : Parameter) (p? : Option Property) => ∀ p, p? = some p ↔
            p ∈ m.properties ∧ p.initializer.isParameter = true ∧ p.name = q.name)
          m.constructor held ∧
        (held.filterMap id ++ m.properties.filter fun p => ¬ IsHeld m p).Perm m.properties ∧
        let lines := classOf scope m (List.zipWith (parameterOf scope) m.constructor held)
          (bodyOf scope m)
        classText scope indent m = writeLines indent lines ∧
        ('\n' ∉ indent → (∀ l ∈ lines, '\n' ∉ l.text) →
          (classText scope indent m).splitOn '\n' = lines.map (Line.written indent) ++ [[]])) ∧
    ∀ (scope : NameScope) (indent : List Char) (g : DeclarationGraph) (s : Settings)
      (d : Descriptor) (made : Synthesis), (Synthesis.synthesize g s d).result = .ok made →
      ∃ parameters : List (List Line),
        List.Forall₂
          (fun (q : Parameter) (lines : List Line) => ∃ p ∈ made.model.properties,
            p.name = q.name ∧ p.isOverride = true ∧
            lines = annotationsOf scope p ++ [⟨1, "override val ".toList ++
              (typed scope q.name q.type ++ defaultText q.default ++ [','])⟩])
          made.model.constructor parameters ∧
        classText scope indent made.model =
          writeLines indent (classOf scope made.model parameters (bodyOf scope made.model)) := by
  constructor
  · intro scope indent m parameters properties
    refine ⟨m.constructor.map (heldBy m), ?_, ?_, ?_⟩
    · exact List.forall₂_map_right_iff.2
        (List.forall₂_same.2 fun q declared p => heldBy_eq_some_iff properties declared)
    · rw [List.filterMap_map]
      exact perm_properties properties parameters
    · rw [List.zipWith_map_right, List.zipWith_self, classText_eq]
      exact ⟨rfl, splitOn_writeLines⟩
  · intro scope indent g s d made synthesized
    refine ⟨_, ?_, classText_eq⟩
    refine List.forall₂_map_right_iff.2 (List.forall₂_same.2 fun q declared => ?_)
    obtain ⟨p, found, inside, same, overrides⟩ := exists_override synthesized declared
    refine ⟨p, inside, same, overrides, ?_⟩
    rw [found, parameterOf, modifiers, if_pos overrides]

/-- A parameter that is an annotated property, one that is none, and a body with a property that no parameter
initializes, one with a value of its own and a constructor. A class that is synthesized has one parameter. -/
theorem classText_declares_mixed :
    let key : Property := ⟨"id", .named "kotlin.String", true, .parameter, [⟨"p.Note", []⟩]⟩
    let m : ClassModel := {
      name := "Item"
      constructor := [⟨"id", .named "kotlin.String", none⟩,
        ⟨"size", .named "kotlin.Int", some (.verbatim "1")⟩]
      properties := [⟨"copy", .named "kotlin.String", true, .parameter, []⟩, key,
        ⟨"label", .named "kotlin.String", false, .expression (.verbatim "id + size"), []⟩]
      conversions := [⟨[⟨"item", .named "p.Item", none⟩], [⟨"id", .member "item" "id"⟩]⟩] }
    let d : Descriptor := {
      packageName := "p", className := "BoxImpl", sourceInterface := .named "p.Box"
      properties := [{ name := "width", type := .named "kotlin.Double" }] }
    (m.constructor.map (·.name)).Nodup ∧ (m.properties.map (·.name)).Nodup ∧
    (classText ⟨"p", []⟩ "  ".toList m).splitOn '\n' =
      ["class Item(", "  @Note", "  override val id: String,", "  size: Int = 1,", ") \x7b",
        "  override val copy: String = copy", "", "  val label: String = id + size", "",
        "  constructor(item: Item) : this(", "    id = item.id,", "  )", "\x7d", ""].map (·.toList) ∧
    ∃ made, (Synthesis.synthesize ⟨[]⟩ {} d).result = .ok made ∧
      ∃ p ∈ made.model.properties, p.isOverride = true ∧
        classText ⟨"p", []⟩ "  ".toList made.model = writeLines "  ".toList (classOf ⟨"p", []⟩ made.model
          [annotationsOf ⟨"p", []⟩ p ++ [⟨1, "override val width: Double,".toList⟩]]
          (bodyOf ⟨"p", []⟩ made.model)) := by
  intro key m d
  have parameters : (m.constructor.map (·.name)).Nodup := by decide
  have properties : (m.properties.map (·.name)).Nodup := by decide
  obtain ⟨written, overridden⟩ := classText_declares
  obtain ⟨held, each, -, -, lines⟩ := written ⟨"p", []⟩ "  ".toList m parameters properties
  refine ⟨parameters, properties, ?_, ?_⟩
  · rcases each with _ | ⟨first, _ | ⟨second, _ | _⟩⟩
    rename_i p? q?
    obtain rfl : p? = some key := (first key).2 ⟨List.mem_cons_of_mem _ List.mem_cons_self, rfl, rfl⟩
    have apart : ∀ p ∈ m.properties, p.name ≠ "size" := by decide
    obtain rfl : q? = none := Option.eq_none_iff_forall_ne_some.2 fun p found =>
      apart p ((second p).1 found).1 ((second p).1 found).2.2
    rw [lines (by decide) (by decide +kernel)]
    decide +kernel
  · obtain ⟨made, synthesized⟩ : ∃ made, (Synthesis.synthesize ⟨[]⟩ {} d).result = .ok made :=
      ⟨_, rfl⟩
    obtain ⟨parameters, each, text⟩ :=
      overridden ⟨"p", []⟩ "  ".toList ⟨[]⟩ {} d made synthesized
    cases synthesized
    rcases each with _ | ⟨⟨p, inside, -, overrides, rfl⟩, _ | _⟩
    exact ⟨_, rfl, p, inside, overrides, text⟩

end ModelClasses.SourceText
