import ModelClasses.DeclarationDocument
import ModelClasses.Proofs.Json.Record
import ModelClasses.Proofs.Json.Standard

/-! # Documents of declarations read back

A graph is written as a document and read back from it. What is left out of the document is what the
reader puts there when it finds nothing: this is so for every record of its own, and the records of a
graph are read one inside the other. Of the format of documents it is relied on that it reads texts,
integers and the numbers of the graph as it writes them. -/

namespace ModelClasses

open Json Decimal

theorem DeclarationKind.ofJson?_toJson (k : DeclarationKind) (room : Nat) :
    ofJson? room k.toJson = some k := by
  cases k <;> rfl

namespace TypeUsage

theorem listToJson_eq (ts : List TypeUsage) : listToJson ts = ts.map toJson := by
  induction ts with
  | nil => rfl
  | cons t ts ih => rw [listToJson, ih, List.map_cons]

theorem toJson_eq (t : TypeUsage) : t.toJson = .record ([("name", .str t.name)] ++
    (if t.arguments.isEmpty then [] else [("arguments", .array (t.arguments.map toJson))]) ++
    (if t.nullable then [("nullable", .bool true)] else [])) := by
  obtain ⟨name, arguments, nullable⟩ := t
  rw [toJson, listToJson_eq]

/-- Type arguments and the mark of a nullable type are there when they say something. -/
theorem record?_toJson (t : TypeUsage) :
    t.toJson.record? ["name", "arguments", "nullable"] = some [some (.str t.name),
      if t.arguments.isEmpty then none else some (.array (t.arguments.map toJson)),
      if t.nullable then some (.bool true) else none] := by
  obtain ⟨name, arguments, nullable⟩ := t
  rw [toJson_eq]
  cases arguments <;> cases nullable
  all_goals
    rw [record?_record (by simp)]
    rfl

/-- By induction on the nesting: the arguments of a type have two levels less. -/
theorem ofJson?_toJson {t : TypeUsage} {room : Nat} (shallow : t.toJson.depth ≤ room) :
    ofJson? room t.toJson = some t := by
  induction room using Nat.strong_induction_on generalizing t with
  | _ room ih =>
    have fields := record?_toJson t
    rw [toJson_eq] at shallow
    obtain ⟨inner, rfl, inside⟩ := depth_record_le_iff.1 shallow
    obtain ⟨name, arguments, nullable⟩ := t
    have mark : optional false bool? (if nullable then some (.bool true) else none) = some nullable := by
      cases nullable <;> rfl
    cases arguments with
    | nil => simp [ofJson?, fields, mark]
    | cons t ts =>
      have listed := inside ("arguments", .array ((t :: ts).map toJson)) (by simp)
      obtain ⟨innermost, rfl, items⟩ := depth_array_le_iff.1 listed
      have read : ((t :: ts).map toJson).mapM (ofJson? innermost) = some (t :: ts) :=
        mapM_map_eq_some fun u hu => ih innermost (by omega) (items _ (List.mem_map_of_mem hu))
      simp [ofJson?, fields, mark, -List.map_cons, -List.mapM_cons, read]

mutual
theorem plain_toJson (format : Format) : (t : TypeUsage) → format.Plain t.toJson
  | ⟨name, arguments, nullable⟩ => by
    have items := plain_listToJson format arguments
    rw [toJson]
    refine .record fun m hm => ?_
    simp only [List.mem_append, List.mem_singleton, List.mem_ite_nil_left, List.mem_ite_nil_right] at hm
    rcases hm with (rfl | ⟨-, rfl⟩) | ⟨-, rfl⟩
    · exact .text name
    · exact .array items
    · exact .bool true

theorem plain_listToJson (format : Format) : (ts : List TypeUsage) → ∀ j ∈ listToJson ts, format.Plain j
  | _ :: _, _, .head _ => plain_toJson format _
  | _ :: ts, j, .tail _ h => plain_listToJson format ts j h
end

end TypeUsage

namespace ArgumentValue

mutual
/-- The numbers in a value. -/
def numbers : ArgumentValue → List Number
  | float x => [⟨.single, x⟩]
  | double x => [⟨.double, x⟩]
  | array items => numbersOf items
  | _ => []

def numbersOf : List ArgumentValue → List Number
  | [] => []
  | v :: rest => numbers v ++ numbersOf rest
end

theorem numbersOf_eq (vs : List ArgumentValue) : numbersOf vs = vs.flatMap numbers := by
  induction vs with
  | nil => rfl
  | cons v vs ih => rw [numbersOf, ih, List.flatMap_cons]

end ArgumentValue

section

variable [format : Format] (integers : ∀ i, format.long? (format.ofLong i) = some i)

namespace ArgumentValue

theorem listToJson_eq (vs : List ArgumentValue) : listToJson vs = vs.map toJson := by
  induction vs with
  | nil => rfl
  | cons v vs ih => rw [listToJson, ih, List.map_cons]

include integers in
/-- By induction on the nesting: the items of an array have two levels less. -/
theorem ofJson?_toJson {v : ArgumentValue} (kept : ∀ x ∈ v.numbers, format.Keeps x) {room : Nat}
    (shallow : v.toJson.depth ≤ room) : ofJson? room v.toJson = some v := by
  induction room using Nat.strong_induction_on generalizing v with
  | _ room ih =>
    obtain ⟨inner, rfl⟩ : ∃ inner, room = inner + 1 := by
      cases v <;> exact (depth_record_le_iff.1 shallow).imp fun _ h => h.1
    rw [ofJson?.eq_def]
    cases v with
    | bool b => simp [toJson, record, bool?]
    | integer i => simp [toJson, record, integers]
    | float x => simp [toJson, record, (kept _ List.mem_cons_self).printed]
    | double x => simp [toJson, record, (kept _ List.mem_cons_self).printed]
    | string t => simp [toJson, record]
    | char c => simp [toJson, record, char?_singleton]
    | reference name => simp [toJson, record]
    | expression t => simp [toJson, record]
    | array items =>
      rw [numbers, numbersOf_eq, List.forall_mem_flatMap] at kept
      rw [toJson, listToJson_eq] at shallow
      obtain ⟨_, ⟨⟩, inside⟩ := depth_record_le_iff.1 shallow
      obtain ⟨innermost, rfl, listed⟩ := depth_array_le_iff.1 (inside _ List.mem_cons_self)
      have read : (items.map toJson).mapM (ofJson? innermost) = some items :=
        mapM_map_eq_some fun v hv =>
          ih innermost (by omega) (kept v hv) (listed _ (List.mem_map_of_mem hv))
      simp [toJson, listToJson_eq, record, read]

mutual
theorem plain_toJson : (v : ArgumentValue) → (∀ x ∈ v.numbers, format.Keeps x) → format.Plain v.toJson
  | bool b, _ => .record (by simpa using .bool b)
  | integer i, _ => .record (by simpa using .integer i)
  | float x, kept => .record (by simpa using .number (kept ⟨.single, x⟩ List.mem_cons_self).finite)
  | double x, kept => .record (by simpa using .number (kept ⟨.double, x⟩ List.mem_cons_self).finite)
  | string t, _ => .record (by simpa using .text t)
  | char c, _ => .record (by simpa using .text (String.ofList [c]))
  | reference name, _ => .record (by simpa using .text name)
  | array items, kept => .record (by simpa using .array (plain_listToJson items kept))
  | expression t, _ => .record (by simpa using .text t)

theorem plain_listToJson : (vs : List ArgumentValue) → (∀ x ∈ numbersOf vs, format.Keeps x) →
    ∀ j ∈ listToJson vs, format.Plain j
  | [], _ => nofun
  | v :: vs, kept => by
    rw [numbersOf, List.forall_mem_append] at kept
    exact List.forall_mem_cons.2 ⟨plain_toJson v kept.1, plain_listToJson vs kept.2⟩
end

end ArgumentValue

include integers in
theorem Argument.ofJson?_toJson {a : Argument} (kept : ∀ x ∈ a.value.numbers, format.Keeps x)
    {room : Nat} (shallow : a.toJson.depth ≤ room) : ofJson? room a.toJson = some a := by
  obtain ⟨inner, rfl, inside⟩ := depth_record_le_iff.1 shallow
  have fields : a.toJson.record? ["name", "value"] = some [some (.str a.name), some a.value.toJson] :=
    record?_record (by simp) _
  have value := ArgumentValue.ofJson?_toJson integers kept (inside ("value", a.value.toJson) (by simp))
  simp [ofJson?, fields, value]

theorem Argument.plain_toJson {a : Argument} (kept : ∀ x ∈ a.value.numbers, format.Keeps x) :
    format.Plain a.toJson :=
  .record (by simpa using ⟨.text a.name, a.value.plain_toJson kept⟩)

namespace AnnotationUsage

/-- The numbers in the arguments. -/
def numbers (u : AnnotationUsage) : List Number := u.arguments.flatMap (·.value.numbers)

include integers in
theorem ofJson?_toJson {u : AnnotationUsage} (kept : ∀ x ∈ u.numbers, format.Keeps x) {room : Nat}
    (shallow : u.toJson.depth ≤ room) : ofJson? room u.toJson = some u := by
  rw [numbers, List.forall_mem_flatMap] at kept
  obtain ⟨inner, rfl, inside⟩ := depth_record_le_iff.1 shallow
  have fields : u.toJson.record? ["name", "arguments"] =
      some [some (.str u.name), some (.array (u.arguments.map Argument.toJson))] :=
    record?_record (by simp) _
  have arguments : list? Argument.ofJson? inner (.array (u.arguments.map Argument.toJson)) =
      some u.arguments :=
    list?_map (inside ("arguments", _) (by simp)) fun a ha _ shallow =>
      Argument.ofJson?_toJson integers (kept a ha) shallow
  simp [ofJson?, fields, arguments]

theorem plain_toJson {u : AnnotationUsage} (kept : ∀ x ∈ u.numbers, format.Keeps x) :
    format.Plain u.toJson := by
  rw [numbers, List.forall_mem_flatMap] at kept
  have arguments : format.Plain (.array (u.arguments.map Argument.toJson)) :=
    .list fun a ha => Argument.plain_toJson (kept a ha)
  exact .record (by simpa using ⟨.text u.name, arguments⟩)

end AnnotationUsage

include integers in
theorem list?_annotations {annotations : List AnnotationUsage}
    (kept : ∀ x ∈ annotations.flatMap (·.numbers), format.Keeps x) {room : Nat}
    (shallow : (Json.array (annotations.map AnnotationUsage.toJson)).depth ≤ room) :
    list? AnnotationUsage.ofJson? room (.array (annotations.map AnnotationUsage.toJson)) =
      some annotations := by
  rw [List.forall_mem_flatMap] at kept
  exact list?_map shallow fun u hu _ shallow =>
    AnnotationUsage.ofJson?_toJson integers (kept u hu) shallow

theorem plain_annotations {annotations : List AnnotationUsage}
    (kept : ∀ x ∈ annotations.flatMap (·.numbers), format.Keeps x) :
    format.Plain (.array (annotations.map AnnotationUsage.toJson)) := by
  rw [List.forall_mem_flatMap] at kept
  exact .list fun u hu => AnnotationUsage.plain_toJson (kept u hu)

namespace PropertyDeclaration

/-- The numbers in the annotations. -/
def numbers (p : PropertyDeclaration) : List Number := p.annotations.flatMap (·.numbers)

include integers in
theorem ofJson?_toJson {p : PropertyDeclaration} (kept : ∀ x ∈ p.numbers, format.Keeps x) {room : Nat}
    (shallow : p.toJson.depth ≤ room) : ofJson? room p.toJson = some p := by
  obtain ⟨inner, rfl, inside⟩ := depth_record_le_iff.1 shallow
  have fields : p.toJson.record? ["name", "type", "annotations"] = some [some (.str p.name),
      some p.type.toJson, some (.array (p.annotations.map AnnotationUsage.toJson))] :=
    record?_record (by simp) _
  have type := TypeUsage.ofJson?_toJson (inside ("type", p.type.toJson) (by simp))
  have annotations := list?_annotations integers kept (inside ("annotations", _) (by simp))
  simp [ofJson?, fields, type, annotations]

theorem plain_toJson {p : PropertyDeclaration} (kept : ∀ x ∈ p.numbers, format.Keeps x) :
    format.Plain p.toJson :=
  .record (by simpa using ⟨.text p.name, p.type.plain_toJson format, plain_annotations kept⟩)

end PropertyDeclaration

namespace Declaration

/-- The numbers in all annotations. -/
def numbers (d : Declaration) : List Number :=
  d.properties.flatMap (·.numbers) ++ d.annotations.flatMap (·.numbers)

/-- A source file is there when it is known. -/
theorem record?_toJson (d : Declaration) :
    d.toJson.record? fieldNames = some [some (.str d.package), some (.str d.name), some d.kind.toJson,
      d.sourceFile.map .str, some (.array (d.supertypes.map TypeUsage.toJson)),
      some (.array (d.properties.map PropertyDeclaration.toJson)),
      some (.array (d.annotations.map AnnotationUsage.toJson))] := by
  rw [toJson]
  cases d.sourceFile <;> exact record?_record (by simp) _

include integers in
theorem ofJson?_toJson {d : Declaration} (kept : ∀ x ∈ d.numbers, format.Keeps x) {room : Nat}
    (shallow : d.toJson.depth ≤ room) : ofJson? room d.toJson = some d := by
  rw [numbers, List.forall_mem_append, List.forall_mem_flatMap] at kept
  obtain ⟨inner, rfl, inside⟩ := depth_record_le_iff.1 shallow
  have fields := record?_toJson d
  have kind := d.kind.ofJson?_toJson inner
  have sourceFile : Json.optional none (nullable string?) (d.sourceFile.map .str) =
      some d.sourceFile := by
    cases d.sourceFile <;> rfl
  have supertypes : list? TypeUsage.ofJson? inner (.array (d.supertypes.map TypeUsage.toJson)) =
      some d.supertypes :=
    list?_map (inside ("supertypes", _) (by simp)) fun _ _ _ shallow => TypeUsage.ofJson?_toJson shallow
  have properties : list? PropertyDeclaration.ofJson? inner
      (.array (d.properties.map PropertyDeclaration.toJson)) = some d.properties :=
    list?_map (inside ("properties", _) (by simp)) fun p hp _ shallow =>
      PropertyDeclaration.ofJson?_toJson integers (kept.1 p hp) shallow
  have annotations := list?_annotations integers kept.2 (inside ("annotations", _) (by simp))
  simp [ofJson?, fields, kind, sourceFile, supertypes, properties, annotations]

theorem plain_toJson {d : Declaration} (kept : ∀ x ∈ d.numbers, format.Keeps x) :
    format.Plain d.toJson := by
  rw [numbers, List.forall_mem_append, List.forall_mem_flatMap] at kept
  have supertypes : format.Plain (.array (d.supertypes.map TypeUsage.toJson)) :=
    .list fun t _ => t.plain_toJson format
  have properties : format.Plain (.array (d.properties.map PropertyDeclaration.toJson)) :=
    .list fun p hp => PropertyDeclaration.plain_toJson (kept.1 p hp)
  have annotations := plain_annotations kept.2
  refine .record fun m hm => ?_
  simp only [List.mem_append, List.mem_cons, List.not_mem_nil, or_false] at hm
  rcases hm with (((rfl | rfl | rfl) | hm) | rfl | rfl | rfl)
  · exact .text d.package
  · exact .text d.name
  · exact .text d.kind.word
  · split at hm
    · obtain rfl := List.mem_singleton.1 hm
      exact .text _
    · cases hm
  · exact supertypes
  · exact properties
  · exact annotations

end Declaration

namespace DeclarationGraph

/-- A text is a document that lists declarations, each of which is read of its own item. -/
def Lists (text : String) (ds : List Declaration) : Prop :=
  ∃ document field items, Format.read? text = some document ∧
    document.record? ["declarations"] = some [field] ∧ ItemsOf field items ∧
    List.Forall₂ (fun item d => Declaration.ofJson? (nestingLimit - 2) item = some d) items ds

theorem ofJson?_eq_some_iff {room : Nat} {document : Json} {g : DeclarationGraph} :
    ofJson? (room + 1) document = some g ↔ ∃ field ds,
      document.record? ["declarations"] = some [field] ∧
        optional [] (list? Declaration.ofJson? room) field = some ds ∧ g = ofList ds := by
  rw [ofJson?]
  split
  · rename_i field record
    simp [record, eq_comm]
  · rename_i other
    refine iff_of_false (by simp) ?_
    rintro ⟨field, ds, record, -⟩
    exact other field record

/-- A graph is read of a document by adding the listed declarations in their order. -/
theorem read?_eq_some_iff {text : String} {g : DeclarationGraph} :
    read? text = some g ↔ ∃ ds, Lists text ds ∧ g = ofList ds := by
  have room : nestingLimit = nestingLimit - 2 + 1 + 1 := rfl
  rw [read?, Option.bind_eq_some_iff]
  constructor
  · rintro ⟨document, read, h⟩
    rw [room, ofJson?_eq_some_iff] at h
    obtain ⟨field, ds, record, listed, rfl⟩ := h
    obtain ⟨items, itemsOf, each⟩ := optional_list?_eq_some_iff.1 listed
    exact ⟨ds, ⟨document, field, items, read, record, itemsOf, each⟩, rfl⟩
  · rintro ⟨ds, ⟨document, field, items, read, record, itemsOf, each⟩, rfl⟩
    refine ⟨document, read, ?_⟩
    rw [room, ofJson?_eq_some_iff]
    exact ⟨field, ds, record, optional_list?_eq_some_iff.2 ⟨items, itemsOf, each⟩, rfl⟩

/-- The numbers in all annotations. -/
def numbers (g : DeclarationGraph) : List Number := g.declarations.flatMap (·.numbers)

include integers in
theorem ofJson?_toJson {g : DeclarationGraph} (kept : ∀ x ∈ g.numbers, format.Keeps x) {room : Nat}
    (shallow : g.toJson.depth ≤ room) : ofJson? room g.toJson = some g := by
  rw [numbers, List.forall_mem_flatMap] at kept
  obtain ⟨inner, rfl, inside⟩ := depth_record_le_iff.1 shallow
  have fields : g.toJson.record? ["declarations"] =
      some [some (.array (g.declarations.map Declaration.toJson))] := record?_record (by simp) _
  have declarations : list? Declaration.ofJson? inner
      (.array (g.declarations.map Declaration.toJson)) = some g.declarations :=
    list?_map (inside ("declarations", _) (by simp)) fun d hd _ shallow =>
      Declaration.ofJson?_toJson integers (kept d hd) shallow
  have again : ofList g.declarations = g := by
    have same := declarations_ofList g.declarations
    cases g
    exact congrArg mk same
  simp [ofJson?, fields, declarations, again]

theorem plain_toJson {g : DeclarationGraph} (kept : ∀ x ∈ g.numbers, format.Keeps x) :
    format.Plain g.toJson := by
  rw [numbers, List.forall_mem_flatMap] at kept
  have declarations : format.Plain (.array (g.declarations.map Declaration.toJson)) :=
    .list fun d hd => Declaration.plain_toJson (kept d hd)
  exact .record (by simpa using declarations)

end DeclarationGraph

end

namespace DeclarationGraph

/-- What is written for a graph is read as the graph, if it nests no deeper than a document may and its
numbers are finite. That texts, integers and the graph's numbers come back from what the format writes for
them is assumed. -/
theorem read?_write [format : Format] {g : DeclarationGraph} (inverse : format.IsInverse g.numbers)
    (shallow : g.toJson.depth ≤ nestingLimit) (finite : ∀ x ∈ g.numbers, x.2.isFinite = true) :
    read? g.write = some g := by
  have kept : ∀ x ∈ g.numbers, format.Keeps x := fun x inside => inverse.keeps inside (finite x inside)
  rw [read?, write, inverse.document (plain_toJson kept) shallow, Option.bind_some,
    ofJson?_toJson inverse.integer kept shallow]

/-- Two declarations of one name, with and without a source file, types inside each other, and a value
of every kind, in the format of the program. -/
theorem read?_write_kinds :
    let half : Binary .single := .finite true 8388608 (-24) (by decide)
    let sum : Binary .double := .finite false 5404319552844596 (-54) (by decide)
    let d : Declaration := {
      package := "p", name := "A", kind := .interface, sourceFile := some "src\\a.rs"
      supertypes := [⟨"Map", [⟨"String", [], false⟩, ⟨"List", [⟨"Int", [], true⟩], false⟩], true⟩]
      properties := [⟨"x", ⟨"Int", [], false⟩, [⟨"Mark", [
        ⟨"all", .array [.bool true, .array [], .integer (-7), .float half, .double sum,
          .array [.string "a \"b\"\n\x01", .char '\'', .reference "p.E", .expression "1 + 1"]]⟩]⟩]⟩]
      annotations := [⟨"Generate", []⟩] }
    let g : DeclarationGraph := ⟨[d, { package := "", name := "B", kind := .enumEntry },
      { d with sourceFile := none, supertypes := [] }]⟩
    Format.standard.IsInverse g.numbers ∧ read? g.write = some g := by
  intro half sum d g
  have inverse : Format.standard.IsInverse g.numbers := isInverse_standard_iff.2 (by decide +kernel)
  exact ⟨inverse, read?_write inverse (by decide +kernel) (by decide +kernel)⟩

/-- A number that the program reads as the next greater one. -/
example : ¬ Format.standard.IsInverse [⟨.double, .finite false 8514241504521788 (-53) (by decide)⟩] := by
  rw [isInverse_standard_iff]
  decide +kernel

end DeclarationGraph

end ModelClasses
