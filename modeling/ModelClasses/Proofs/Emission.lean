import ModelClasses.Proofs.Emission.Store
import ModelClasses.Proofs.Generation.Discovery
import ModelClasses.Proofs.Naming

/-! # The files of a pass

A file's place is made from its package and its class's name, and both are written at the declaration
that asks for the class. Nothing compares them between declarations: where two ask for one place, the
file of the later one is left, and all files are there exactly if no two ask for the same. -/

namespace ModelClasses

namespace SourceFile

/-- The segments of a package that are not empty. -/
def directories (package : String) : List (List Char) :=
  (Naming.dotSegments package.toList).filter (!·.isEmpty)

/-- The path that some directories and a name make. -/
def pathOf (place : List (List Char) × String) : List Path.Part :=
  place.1.map .named ++ [.named (place.2 ++ "." ++ extension).toList]

theorem pathOf_injective : Function.Injective pathOf := by
  rintro ⟨directories, name⟩ ⟨directories', name'⟩ same
  obtain ⟨above, last⟩ := List.append_inj' same rfl
  have above : directories = directories' :=
    List.map_injective_iff.2 (fun _ _ => Path.Part.named.inj) above
  have names : (name ++ "." ++ extension).toList = (name' ++ "." ++ extension).toList := by
    simpa using last
  rw [String.toList_append, String.toList_append, String.toList_append, String.toList_append,
    List.append_left_inj, List.append_left_inj, String.toList_inj] at names
  rw [above, names]

theorem isPlain_directories {package : String} (h : '/' ∉ package.toList) :
    ∀ segment ∈ directories package, Path.IsPlain segment := by
  intro segment hs
  obtain ⟨inside, nonempty⟩ := List.mem_filter.1 hs
  have chars := Naming.mem_of_mem_dotSegments inside
  have noDot : '.' ∉ segment := fun hc => (chars '.' hc).2 rfl
  refine ⟨fun hc => h (chars '/' hc).1, by simpa using nonempty, ?_, ?_⟩
  · rintro rfl
    exact noDot List.mem_cons_self
  · rintro rfl
    exact noDot List.mem_cons_self

theorem isPlain_fileName {name : String} (h : '/' ∉ name.toList) :
    Path.IsPlain (name ++ "." ++ extension).toList := by
  have ends : (name ++ "." ++ extension).toList = name.toList ++ ['.', 'k', 't'] := by
    simp [extension]
  rw [ends]
  refine ⟨by simp [h], by simp, ?_, ?_⟩
  · intro same
    have lengths := congrArg List.length same
    simp at lengths
  · intro same
    have lengths := congrArg List.length same
    simp at lengths

/-- Without slashes in it, every segment of the package is a directory, and the name is a file's. -/
theorem parts_relativePath {file : SourceFile} (package : '/' ∉ file.package.toList)
    (name : '/' ∉ file.name.toList) :
    Path.parts file.relativePath = pathOf (directories file.package, file.name) := by
  have plain : ∀ name ∈ (directories file.package).map String.ofList, Path.IsPlain name.toList := by
    intro name hn
    obtain ⟨segment, hs, rfl⟩ := List.mem_map.1 hn
    rw [String.toList_ofList]
    exact isPlain_directories package segment hs
  have path : file.relativePath = Path.join
      (((directories file.package).map String.ofList).foldl Path.join "")
      (file.name ++ "." ++ extension) := rfl
  rw [path, Path.parts_join _ (isPlain_fileName name), Path.parts_foldl_join _ _ plain, pathOf,
    List.map_map]
  congr 1
  refine List.map_congr_left fun segment _ => ?_
  rw [Function.comp_apply, String.toList_ofList]

end SourceFile

namespace Generation

variable {g : DeclarationGraph} {s : Settings} {d : Declaration}

/-- The name of a declaration's class, from the annotation that asks for it. -/
def writtenName (g : DeclarationGraph) (s : Settings) (d : Declaration) : String :=
  match g.directiveUsage? s d with
  | some u => u.text Tag.prefixArgument ++ u.text Tag.nameArgument ++ u.text Tag.suffixArgument
  | none => ""

/-- The directories and the name of the file that a declaration asks for. -/
def place (g : DeclarationGraph) (s : Settings) (d : Declaration) : List (List Char) × String :=
  (SourceFile.directories d.package, writtenName g s d)

/-- The package and the name of a file are those that the declaration gives. -/
theorem generate_place {file : SourceFile} (asks : isAnnotated g s d = true)
    (made : (generate g s d).result = .ok file) :
    file.package = d.package ∧ file.name = writtenName g s d := by
  obtain ⟨descriptor, _, _, built, -, -, rfl⟩ := generate_ok_iff.1 made
  refine ⟨?_, ?_⟩
  · obtain ⟨-, _, _, _, _, -, -, -, -, -, rfl⟩ := Descriptor.build_ok_iff.1 built
    rfl
  · obtain ⟨-, records, -, -, -, resolved, -⟩ := Descriptor.build_ok_iff.1 built
    have found := record?_resolveAnnotations resolved
    rw [isAnnotated_iff_directiveUsage?] at asks
    obtain ⟨u, usage⟩ := Option.isSome_iff_exists.1 asks
    rw [usage] at found
    generalize record : Directive.record? s records = a at found
    cases found with
    | some read => rw [writtenName, usage, className_build resolved record read built]

/-- The declarations that a pass makes a file from. -/
def sources (g : DeclarationGraph) (s : Settings) : List Declaration :=
  (annotated g s).filter fun d => (generate g s d).result.isOk

theorem sources_generated (g : DeclarationGraph) (s : Settings) :
    List.Forall₂ (fun d file => isAnnotated g s d = true ∧ (generate g s d).result = .ok file)
      (sources g s) (process g s).generated := by
  have files : List.Forall₂ (fun d file => (generate g s d).result = .ok file)
      (sources g s) (process g s).generated := (accounts_ofOutcomes (annotated g s)).generated
  refine List.forall₂_iff_zip.2 ⟨files.length_eq, fun {d file} both => ?_⟩
  have listed := (List.mem_filter.1 (List.of_mem_zip both).1).1
  exact ⟨(List.mem_filter.1 listed).2, (List.forall₂_iff_zip.1 files).2 both⟩

theorem places_generated (g : DeclarationGraph) (s : Settings) :
    ((process g s).generated.map fun file => (SourceFile.directories file.package, file.name)) =
      (sources g s).map (place g s) := by
  rw [← List.forall₂_eq_eq_eq, List.forall₂_map_left_iff, List.forall₂_map_right_iff]
  refine (sources_generated g s).flip.imp ?_
  rintro file d ⟨asks, made⟩
  obtain ⟨package, name⟩ := generate_place asks made
  rw [place, package, name]

theorem emitReport_process (g : DeclarationGraph) (s : Settings) :
    let files := (process g s).generated
    let store := (FileStore.emitReport {} s.indent files).1
    let paths := files.map fun file => Path.parts file.relativePath
    (∀ path, store.get? path =
        (files.reverse.find? fun file => Path.same file.relativePath path).map (·.render s.indent)) ∧
      (store.entries.length = files.length ↔ paths.Nodup) ∧
      (paths.Nodup →
        ∀ file ∈ files, store.get? file.relativePath = some (file.render s.indent)) ∧
      ((∀ file ∈ files, '/' ∉ file.package.toList ∧ '/' ∉ file.name.toList) →
        (paths.Nodup ↔ ((sources g s).map (place g s)).Nodup)) := by
  intro files store paths
  refine ⟨fun path => ?_, FileStore.length_emitReport_iff s.indent files, ?_, ?_⟩
  · rw [FileStore.get?_emitReport]
    exact Option.or_none
  · intro different file inside
    exact FileStore.get?_emitReport_of_nodup {} s.indent different inside (Path.same_iff.2 rfl)
  · intro noSlash
    have made : paths = ((sources g s).map (place g s)).map SourceFile.pathOf := by
      rw [← places_generated, List.map_map]
      refine List.map_congr_left fun file hf => ?_
      exact SourceFile.parts_relativePath (noSlash file hf).1 (noSlash file hf).2
    rw [made, List.nodup_map_iff SourceFile.pathOf_injective]

/-- Two packages have a class of one name, and the path of one of them has an empty segment. -/
theorem emitReport_process_packages :
    let a : Declaration := {
      package := "p", name := "A", kind := .interface
      annotations := [⟨"Generate", [⟨"prefix", .string "My"⟩, ⟨"name", .string "Made"⟩]⟩] }
    let b : Declaration := {
      package := "p..q", name := "B", kind := .interface
      annotations := [⟨"Generate", [⟨"name", .string "MyMade"⟩]⟩] }
    let g : DeclarationGraph := ⟨[a, b]⟩
    ∃ first second, (process g {}).generated = [first, second] ∧
      (FileStore.emitReport {} "  " [first, second]).1.entries.length = 2 ∧
      (FileStore.emitReport {} "  " [first, second]).1.get? first.relativePath =
        some (first.render "  ") ∧
      (FileStore.emitReport {} "  " [first, second]).1.get? second.relativePath =
        some (second.render "  ") := by
  intro a b g
  have collectedA := (Descriptor.collectAll_ok_iff (g := g) (s := {}) (d := a)
    ⟨[], .nil _ _, rfl⟩).2 (.cons rfl (.nil _ _))
  have collectedB := (Descriptor.collectAll_ok_iff (g := g) (s := {}) (d := b)
    ⟨[], .nil _ _, rfl⟩).2 (.cons rfl (.nil _ _))
  have builtA : (Descriptor.build g {} a.package a).result = .ok _ :=
    Descriptor.build_ok_iff.2 ⟨rfl, _, _, _, _, rfl, rfl, by decide, rfl, collectedA, rfl⟩
  have builtB : (Descriptor.build g {} b.package b).result = .ok _ :=
    Descriptor.build_ok_iff.2 ⟨rfl, _, _, _, _, rfl, rfl, by decide, rfl, collectedB, rfl⟩
  have made : ∃ first second, (generate g {} a).result = .ok first ∧
      (generate g {} b).result = .ok second ∧ '/' ∉ first.package.toList ∧
      '/' ∉ first.name.toList ∧ '/' ∉ second.package.toList ∧ '/' ∉ second.name.toList :=
    ⟨_, _, generate_ok_iff.2 ⟨_, _, _, builtA, rfl, rfl, rfl⟩,
      generate_ok_iff.2 ⟨_, _, _, builtB, rfl, rfl, rfl⟩, by decide, by decide, by decide, by decide⟩
  obtain ⟨first, second, madeA, madeB, plain⟩ := made
  have asking : annotated g {} = [a, b] := rfl
  have files : (process g {}).generated = [first, second] :=
    generated_of_ok asking (.cons madeA (.cons madeB .nil))
  have sources : sources g {} = [a, b] := by
    simp [sources, asking, madeA, madeB, Except.isOk, Except.toBool]
  obtain ⟨-, count, each, places⟩ := emitReport_process g {}
  rw [files, sources] at places
  rw [files] at count each
  have different := (places (by simpa [and_assoc] using plain)).2 (by decide)
  exact ⟨first, second, files, count.2 different, each different first (by simp),
    each different second (by simp)⟩

/-- Two interfaces of a package ask for one name: both files are made, and the first one's text is
lost. -/
theorem emitReport_sameName :
    let a : Declaration := {
      package := "p", name := "A", kind := .interface
      properties := [⟨"x", ⟨"Int", [], false⟩, []⟩]
      annotations := [⟨"Generate", [⟨"name", .string "Made"⟩]⟩] }
    let b : Declaration := {
      package := "p", name := "B", kind := .interface
      properties := [⟨"y", ⟨"Int", [], false⟩, []⟩]
      annotations := [⟨"Generate", [⟨"name", .string "Made"⟩]⟩] }
    let g : DeclarationGraph := ⟨[a, b]⟩
    let files := (process g {}).generated
    let store := (FileStore.emitReport {} "  " files).1
    ¬ (files.map fun file => Path.parts file.relativePath).Nodup ∧
      store.entries.length ≠ files.length ∧
      ∃ file ∈ files, store.get? file.relativePath ≠ some (file.render "  ") := by
  intro a b g files store
  have collectedA := (Descriptor.collectAll_ok_iff (g := g) (s := {}) (d := a)
    ⟨[], .nil _ _, rfl⟩).2 (.cons rfl (.nil _ _))
  have collectedB := (Descriptor.collectAll_ok_iff (g := g) (s := {}) (d := b)
    ⟨[], .nil _ _, rfl⟩).2 (.cons rfl (.nil _ _))
  have builtA : (Descriptor.build g {} a.package a).result = .ok _ :=
    Descriptor.build_ok_iff.2 ⟨rfl, _, _, _, _, rfl, rfl, by decide, rfl, collectedA, rfl⟩
  have builtB : (Descriptor.build g {} b.package b).result = .ok _ :=
    Descriptor.build_ok_iff.2 ⟨rfl, _, _, _, _, rfl, rfl, by decide, rfl, collectedB, rfl⟩
  have made : ∃ first second, (generate g {} a).result = .ok first ∧
      (generate g {} b).result = .ok second ∧ first.package = second.package ∧
      first.name = second.name ∧ first.render "  " ≠ second.render "  " :=
    ⟨_, _, generate_ok_iff.2 ⟨_, _, _, builtA, rfl, rfl, rfl⟩,
      generate_ok_iff.2 ⟨_, _, _, builtB, rfl, rfl, rfl⟩, rfl, rfl, by decide⟩
  obtain ⟨first, second, madeA, madeB, package, name, different⟩ := made
  have samePath : first.relativePath = second.relativePath := by
    rw [SourceFile.relativePath, SourceFile.relativePath, package, name]
  have both : files = [first, second] := generated_of_ok rfl (.cons madeA (.cons madeB .nil))
  have twice : ¬ (files.map fun file => Path.parts file.relativePath).Nodup := by
    simp [both, samePath]
  refine ⟨twice, mt (FileStore.length_emitReport_iff "  " files).1 twice, first, by simp [both], ?_⟩
  have last : store.get? first.relativePath = some (second.render "  ") := by
    rw [FileStore.get?_emitReport, both]
    simp [samePath, Path.same]
  rw [last]
  exact fun same => different (Option.some.inj same).symm

end Generation

end ModelClasses
