import ModelClasses.Proofs.Emission

/-! # Files below the output directory

A file's path is joined from texts that are taken as they are written: the segments of its package and
the name of its class. It has one part for each of them exactly if none has a slash. With slashes it
still stays below the output directory unless one of them starts at the root, or the name goes upwards
on the way. -/

namespace ModelClasses

namespace SourceFile

theorem relativePath_eq (file : SourceFile) :
    file.relativePath =
      ((directories file.package).map String.ofList ++ [file.name ++ "." ++ extension]).foldl
        Path.join "" := by
  rw [List.foldl_append]
  rfl

/-- A slash in a package is in one of its segments. -/
theorem exists_directory_of_slash {package : String} (h : '/' ∈ package.toList) :
    ∃ segment ∈ directories package, '/' ∈ segment := by
  obtain ⟨segment, inside, slash⟩ := Naming.exists_dotSegment (by decide) h
  refine ⟨segment, List.mem_filter.2 ⟨inside, ?_⟩, slash⟩
  cases segment with
  | nil => cases slash
  | cons c cs => rfl

theorem parts_relativePath_iff (file : SourceFile) :
    Path.parts file.relativePath = pathOf (directories file.package, file.name) ↔
      '/' ∉ file.package.toList ∧ '/' ∉ file.name.toList := by
  refine ⟨fun whole => ?_, fun ⟨package, name⟩ => parts_relativePath package name⟩
  have plain {name : List Char} (h : .named name ∈ pathOf (directories file.package, file.name)) :
      '/' ∉ name := Path.slash_notMem_of_named (whole ▸ h)
  refine ⟨fun slash => ?_, fun slash => ?_⟩
  · obtain ⟨segment, inside, slash⟩ := exists_directory_of_slash slash
    exact plain (List.mem_append_left _ (List.mem_map_of_mem inside)) slash
  · exact plain (List.mem_append_right _ (List.mem_singleton_self _)) (by simp [slash])

/-- What a path goes through upwards on the way to a file is in front of the last slash of the name. -/
theorem up_mem_fileName_iff {name : String} :
    ['.', '.'] ∈ Path.pieces (name ++ "." ++ extension).toList ↔
      ['.', '.'] ∈ (Path.pieces name.toList).dropLast := by
  have ends : (name ++ "." ++ extension).toList = name.toList ++ ['.', 'k', 't'] := by
    simp [extension]
  have nonempty := Path.pieces_ne_nil name.toList
  have last : ['.', '.'] ≠ (Path.pieces name.toList).getLast nonempty ++ ['.', 'k', 't'] := by
    intro same
    have lengths := congrArg List.length same
    simp at lengths
  rw [ends, Path.pieces_append_plain (by decide) (List.dropLast_append_getLast nonempty).symm,
    List.mem_append, List.mem_singleton, or_iff_left last]

theorem staysBelow_relativePath_iff (file : SourceFile) :
    Path.StaysBelow (Path.parts file.relativePath) ↔
      (∀ segment ∈ directories file.package, segment.head? ≠ some '/') ∧
        file.name.toList.head? ≠ some '/' ∧
        ['.', '.'] ∉ (Path.pieces file.name.toList).dropLast := by
  have noStepUp : ∀ segment ∈ directories file.package, ['.', '.'] ∉ Path.pieces segment := by
    intro segment inside up
    have inSegment := (Path.mem_of_mem_pieces up '.' List.mem_cons_self).1
    have noDot := Naming.mem_of_mem_dotSegments (List.mem_filter.1 inside).1 '.' inSegment
    exact noDot.2 rfl
  have start : (file.name ++ "." ++ extension).toList.head? = some '/' ↔
      file.name.toList.head? = some '/' := by
    cases chars : file.name.toList <;> simp [chars, extension]
  have here : Path.StaysBelow (Path.parts "") := by
    rw [Path.StaysBelow]
    decide
  rw [relativePath_eq, Path.staysBelow_foldl_join_iff, and_iff_right here, List.forall_mem_append,
    List.forall_mem_map, List.forall_mem_singleton, up_mem_fileName_iff, Path.startsWith_slash_iff,
    start]
  refine and_congr_left' (forall₂_congr fun segment inside => ?_)
  rw [Path.startsWith_slash_iff, String.toList_ofList, and_iff_left (noStepUp segment inside)]

end SourceFile

namespace Generation

variable {g : DeclarationGraph} {s : Settings} {d : Declaration}

theorem generate_staysBelow {file : SourceFile} (made : (generate g s d).result = .ok file) :
    let directories := SourceFile.directories d.package
    let parts := Path.parts file.relativePath
    file.package = d.package ∧ file.classes.head?.map (·.name) = some file.name ∧
      (parts = directories.map .named ++ [.named (file.name ++ "." ++ SourceFile.extension).toList] ↔
        '/' ∉ d.package.toList ∧ '/' ∉ file.name.toList) ∧
      (Path.StaysBelow parts ↔
        (∀ segment ∈ directories, segment.head? ≠ some '/') ∧
          file.name.toList.head? ≠ some '/' ∧
          ['.', '.'] ∉ (Path.pieces file.name.toList).dropLast) := by
  obtain ⟨descriptor, synthesis, delegated, built, synthesized, -, made⟩ := generate_ok_iff.1 made
  obtain ⟨-, _, _, _, _, -, -, -, -, -, described⟩ := Descriptor.build_ok_iff.1 built
  obtain ⟨classified, -, model⟩ := Synthesis.synthesize_ok synthesized
  have package : file.package = d.package := by rw [made, described]
  have name : file.classes.head?.map (·.name) = some file.name := by
    rw [made, model]
    rfl
  intro directories parts
  have whole := SourceFile.parts_relativePath_iff file
  have below := SourceFile.staysBelow_relativePath_iff file
  rw [package] at whole below
  exact ⟨package, name, whole, below⟩

/-- Empty segments of a package are no directories, and a name with a dot is one part. -/
theorem generate_staysBelow_dotted :
    let d : Declaration := {
      package := ".p..q", name := "A", kind := .interface
      annotations := [⟨"Generate", [⟨"prefix", .string ".."⟩, ⟨"name", .string "Made"⟩]⟩] }
    ∃ file, (generate ⟨[d]⟩ {} d).result = .ok file ∧
      Path.parts file.relativePath =
        [.named ['p'], .named ['q'], .named "..Made.kt".toList] ∧
      Path.StaysBelow (Path.parts file.relativePath) := by
  intro d
  have generated : ∃ file, (generate ⟨[d]⟩ {} d).result = .ok file ∧ file.name = "..Made" :=
    ⟨_, generate_of_alone ⟨[], .nil _ _, rfl⟩ rfl rfl rfl (by decide) rfl rfl rfl rfl, rfl⟩
  obtain ⟨file, made, name⟩ := generated
  obtain ⟨-, -, whole, below⟩ := generate_staysBelow made
  rw [name] at whole below
  refine ⟨file, made, ?_, below.2 (by decide)⟩
  rw [whole.2 (by decide)]
  decide

/-- A prefix that leads upwards, past the package and out of the output directory. -/
theorem generate_above :
    let d : Declaration := {
      package := "p", name := "A", kind := .interface
      annotations := [⟨"Generate", [⟨"prefix", .string "../../"⟩, ⟨"name", .string "Made"⟩]⟩] }
    ∃ file, (generate ⟨[d]⟩ {} d).result = .ok file ∧
      Path.parts file.relativePath =
        [.named ['p'], .parent, .parent, .named "Made.kt".toList] ∧
      ¬ Path.StaysBelow (Path.parts file.relativePath) ∧
      Path.parts file.relativePath ≠ [.named ['p'], .named (file.name ++ ".kt").toList] := by
  intro d
  have generated : ∃ file, (generate ⟨[d]⟩ {} d).result = .ok file ∧ file.package = "p" ∧
      file.name = "../../Made" :=
    ⟨_, generate_of_alone ⟨[], .nil _ _, rfl⟩ rfl rfl rfl (by decide) rfl rfl rfl rfl, rfl, rfl⟩
  obtain ⟨file, made, package, name⟩ := generated
  have path : file.relativePath = Path.join (Path.join "" "p") "../../Made.kt" := by
    rw [SourceFile.relativePath_eq, package, name]
    rfl
  have relative : ¬ "../../Made.kt".startsWith "/" = true := by
    rw [Path.startsWith_slash_iff]
    decide
  have parts : Path.parts file.relativePath =
      [.named ['p'], .parent, .parent, .named "Made.kt".toList] := by
    rw [path, Path.join_empty, Path.parts_join_text relative (by decide)]
    decide
  refine ⟨file, made, parts, ?_, ?_⟩
  · rw [Path.StaysBelow, parts]
    decide
  · rw [parts, name]
    decide

end Generation

end ModelClasses
