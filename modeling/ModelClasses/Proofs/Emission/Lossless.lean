import ModelClasses.Manifest
import ModelClasses.Proofs.Emission

/-! # Files of different names

The path of a file gives its package and its name back, where these are made of identifiers: every
segment of the package is a directory, and no identifier has a slash. So the files of a report whose
packages and names differ have paths of their own. Each of them is read back, and what was kept under
another path is still there. -/

namespace ModelClasses

namespace Manifest

theorem slash_notMem_of_isIdentifierText {cs : List Char} (h : isIdentifierText cs = true) :
    '/' ∉ cs := by
  cases cs with
  | nil => exact List.not_mem_nil
  | cons c rest =>
    obtain ⟨first, later⟩ := Bool.and_eq_true_iff.1 h
    intro inside
    rcases List.mem_cons.1 inside with rfl | inside
    · exact absurd first (by decide)
    · exact absurd (List.all_eq_true.1 later '/' inside) (by decide)

end Manifest

namespace SourceFile

/-- The names of a file are those that a manifest accepts: its package has none or identifiers with
dots between them, and it is named by an identifier. -/
structure IsWellNamed (file : SourceFile) : Prop where
  package : file.package = "" ∨ Manifest.isQualifiedName file.package = true
  name : Manifest.isIdentifier file.name = true

theorem directories_eq_dotSegments {package : String}
    (h : Manifest.isQualifiedName package = true) :
    directories package = Naming.dotSegments package.toList := by
  refine List.filter_eq_self.2 fun segment inside => ?_
  have identifier := List.all_eq_true.1 h segment inside
  cases segment with
  | nil => cases identifier
  | cons c cs => rfl

theorem directories_inj {package package' : String}
    (h : package = "" ∨ Manifest.isQualifiedName package = true)
    (h' : package' = "" ∨ Manifest.isQualifiedName package' = true)
    (same : directories package = directories package') : package = package' := by
  have none : directories "" = [] := rfl
  rcases h with rfl | qualified <;> rcases h' with rfl | qualified'
  · rfl
  · rw [none, directories_eq_dotSegments qualified'] at same
    exact absurd same.symm (Naming.dotSegments_ne_nil _)
  · rw [none, directories_eq_dotSegments qualified] at same
    exact absurd same (Naming.dotSegments_ne_nil _)
  · rw [directories_eq_dotSegments qualified, directories_eq_dotSegments qualified'] at same
    exact String.toList_inj.1 (Naming.dotSegments_injective same)

variable {file : SourceFile}

theorem IsWellNamed.slash_notMem (h : file.IsWellNamed) :
    '/' ∉ file.package.toList ∧ '/' ∉ file.name.toList := by
  refine ⟨fun slash => ?_, Manifest.slash_notMem_of_isIdentifierText h.name⟩
  rcases h.package with empty | qualified
  · rw [empty] at slash
    cases slash
  · obtain ⟨segment, inside, slash⟩ := Naming.exists_dotSegment (by decide) slash
    exact Manifest.slash_notMem_of_isIdentifierText (List.all_eq_true.1 qualified segment inside) slash

theorem IsWellNamed.parts_relativePath (h : file.IsWellNamed) :
    Path.parts file.relativePath = pathOf (directories file.package, file.name) :=
  SourceFile.parts_relativePath h.slash_notMem.1 h.slash_notMem.2

/-- The path gives back the package and the name. -/
theorem IsWellNamed.relativePath_inj {other : SourceFile} (h : file.IsWellNamed)
    (h' : other.IsWellNamed)
    (same : Path.parts file.relativePath = Path.parts other.relativePath) :
    (file.package, file.name) = (other.package, other.name) := by
  rw [h.parts_relativePath, h'.parts_relativePath] at same
  obtain ⟨directories, name⟩ := Prod.mk.inj (pathOf_injective same)
  rw [directories_inj h.package h'.package directories, name]

end SourceFile

/-- Nothing is lost of a report: every file is at its own path, below the directories of its package,
nothing else has changed, and the record lists all of it. -/
theorem emitReport_lossless (store : FileStore) (indent : String) {files : List SourceFile}
    (wellNamed : ∀ file ∈ files, file.IsWellNamed)
    (different : (files.map fun file => (file.package, file.name)).Nodup) :
    let emitted := store.emitReport indent files
    (files.map fun file => Path.parts file.relativePath).Nodup ∧
      (∀ file ∈ files, ∀ path, Path.same file.relativePath path = true →
        emitted.1.get? path = some (file.render indent)) ∧
      (∀ path, (∀ file ∈ files, ¬ Path.same file.relativePath path = true) →
        emitted.1.get? path = store.get? path) ∧
      emitted.2.files = files.map fun file => ⟨file.relativePath, file.originatingFiles⟩ := by
  intro emitted
  have apart : (files.map fun file => Path.parts file.relativePath).Nodup := by
    refine List.Nodup.map_on ?_ (List.Nodup.of_map _ different)
    intro file inside other inside' same
    exact List.inj_on_of_nodup_map different inside inside'
      ((wellNamed file inside).relativePath_inj (wellNamed other inside') same)
  exact ⟨apart, fun file inside path at_ => store.get?_emitReport_of_nodup indent apart inside at_,
    fun path none => store.get?_emitReport_of_apart indent none, rfl⟩

/-- Two files of one name in different packages, one of which was there before, and a third one that
was there and stays. -/
theorem emitReport_lossless_kept :
    let outer : SourceFile := { name := "Größe_2", originatingFiles := ["a.rs", "b.rs"] }
    let inner : SourceFile := { package := "p.größe", name := "Größe_2" }
    let store : FileStore := ⟨[("Größe.kt", "kept"), ("p//größe/Größe_2.kt", "old")]⟩
    let emitted := store.emitReport "  " [outer, inner]
    emitted.1.get? "Größe_2.kt" = some (outer.render "  ") ∧
      emitted.1.get? "p/größe/Größe_2.kt" = some (inner.render "  ") ∧
      emitted.1.get? "./Größe.kt" = none ∧ emitted.1.get? "Größe.kt" = some "kept" ∧
      emitted.2.files = [⟨"Größe_2.kt", ["a.rs", "b.rs"]⟩, ⟨"p/größe/Größe_2.kt", []⟩] := by
  intro outer inner store emitted
  have wellNamed : ∀ file ∈ [outer, inner], file.IsWellNamed := by
    have name : Manifest.isIdentifier "Größe_2" = true := by decide +kernel
    have package : Manifest.isQualifiedName "p.größe" = true := by decide +kernel
    simp only [List.forall_mem_cons]
    exact ⟨⟨.inl rfl, name⟩, ⟨.inr package, name⟩, nofun⟩
  obtain ⟨apart, own, others, recorded⟩ := emitReport_lossless store "  " wellNamed (by decide)
  refine ⟨own outer (by simp) _ ?_, own inner (by simp) _ ?_, ?_, ?_, ?_⟩
  · decide +kernel
  · decide +kernel
  · rw [others _ (by decide +kernel)]
    decide +kernel
  · rw [others _ (by decide +kernel)]
    decide +kernel
  · rw [recorded]
    decide +kernel

end ModelClasses
