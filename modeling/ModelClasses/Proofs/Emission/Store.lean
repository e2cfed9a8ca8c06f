import ModelClasses.Emission
import ModelClasses.Proofs.Path
import Mathlib.Data.List.Dedup
import Mathlib.Data.List.Perm.Basic

/-! # Files in memory

The files of a store are in the order of their paths, and no two paths are the same. A file that is
put in is read back at its path, in whatever way the path is written, and takes the place of the one
that was there. So of several files with one path the last one stays, and there are as many files as
there are paths. -/

namespace ModelClasses.FileStore

/-- The paths of the files of a store, each as its parts. -/
def paths (store : FileStore) : List (List Path.Part) :=
  store.entries.map fun entry => Path.parts entry.1

/-- Files in the order of their paths. -/
def InOrder (entries : List (String × String)) : Prop :=
  entries.Pairwise fun a b => Path.compare a.1 b.1 = .lt

theorem path_of_mem_insertEntry {path text : String} {entries : List (String × String)}
    {entry : String × String} (h : entry ∈ insertEntry path text entries) :
    entry.1 = path ∨ ∃ old ∈ entries, entry.1 = old.1 := by
  induction entries with
  | nil =>
    rw [insertEntry, List.mem_singleton] at h
    exact .inl (by rw [h])
  | cons first rest ih =>
    obtain ⟨p, t⟩ := first
    rw [insertEntry] at h
    split at h
    · rcases List.mem_cons.1 h with rfl | old
      · exact .inl rfl
      · exact .inr ⟨entry, old, rfl⟩
    · rcases List.mem_cons.1 h with rfl | old
      · exact .inr ⟨(p, t), List.mem_cons_self, rfl⟩
      · exact .inr ⟨entry, List.mem_cons_of_mem _ old, rfl⟩
    · rcases List.mem_cons.1 h with rfl | h
      · exact .inr ⟨(p, t), List.mem_cons_self, rfl⟩
      · exact (ih h).imp_right fun ⟨old, ho, same⟩ => ⟨old, List.mem_cons_of_mem _ ho, same⟩

theorem insertEntry_inOrder (path text : String) {entries : List (String × String)}
    (h : InOrder entries) : InOrder (insertEntry path text entries) := by
  induction entries with
  | nil => exact List.pairwise_singleton _ _
  | cons first rest ih =>
    obtain ⟨p, t⟩ := first
    obtain ⟨above, later⟩ := List.pairwise_cons.1 h
    rw [insertEntry]
    split
    · rename_i before
      refine List.pairwise_cons.2 ⟨?_, h⟩
      intro entry he
      rcases List.mem_cons.1 he with rfl | he
      · exact before
      · exact Path.compare_lt_trans before (above entry he)
    · exact List.pairwise_cons.2 ⟨above, later⟩
    · rename_i after
      refine List.pairwise_cons.2 ⟨?_, ih later⟩
      intro entry he
      rcases path_of_mem_insertEntry he with same | ⟨old, ho, same⟩
      · rw [same]
        exact Path.compare_lt_of_gt after
      · rw [same]
        exact above old ho

theorem mem_paths_insert {store : FileStore} {path text : String} {parts : List Path.Part} :
    parts ∈ (store.insert path text).paths ↔ parts = Path.parts path ∨ parts ∈ store.paths := by
  obtain ⟨entries⟩ := store
  simp only [paths, insert]
  induction entries with
  | nil => simp [insertEntry]
  | cons first rest ih =>
    obtain ⟨p, t⟩ := first
    rw [insertEntry]
    split
    · rw [List.map_cons, List.mem_cons]
    · rename_i same
      rw [Path.compare_eq_iff] at same
      rw [List.map_cons, List.map_cons, List.mem_cons, same, or_self_left]
    · rw [List.map_cons, List.mem_cons, ih, List.map_cons, List.mem_cons, or_left_comm]

theorem get?_insert (store : FileStore) (path text other : String) :
    (store.insert path text).get? other =
      if Path.same path other then some text else store.get? other := by
  obtain ⟨entries⟩ := store
  simp only [get?, insert]
  induction entries with
  | nil => by_cases h : Path.same path other <;> simp [insertEntry, h]
  | cons first rest ih =>
    obtain ⟨p, t⟩ := first
    rw [insertEntry]
    split
    · by_cases h : Path.same path other <;> simp [h]
    · rename_i same
      have alike : Path.same p other = Path.same path other := by
        rw [Path.same, Path.same, Path.compare_eq_iff.1 same]
      by_cases h : Path.same path other <;> simp [alike, h]
    · rename_i after
      by_cases h : Path.same p other
      · have different : ¬ Path.same path other := by
          rw [Path.same_iff, ← Path.same_iff.1 h, ← Path.compare_eq_iff, after]
          exact Ordering.noConfusion
        simp [h, different]
      · simp [h, ih]

theorem nodup_paths {store : FileStore} (h : InOrder store.entries) : store.paths.Nodup := by
  refine List.pairwise_map.2 (List.Pairwise.imp ?_ h)
  intro a b before same
  rw [Path.compare_eq_iff.2 same] at before
  cases before

variable (store : FileStore) (indent : String) (files : List SourceFile)

theorem emitReport_inOrder (h : InOrder store.entries) :
    InOrder (store.emitReport indent files).1.entries := by
  simp only [emitReport]
  induction files generalizing store with
  | nil => exact h
  | cons file files ih => exact ih _ (insertEntry_inOrder _ _ h)

/-- Of several files with one path, the last one is read. -/
theorem get?_emitReport (path : String) :
    (store.emitReport indent files).1.get? path =
      ((files.reverse.find? fun file => Path.same file.relativePath path).map
        (·.render indent)).or (store.get? path) := by
  simp only [emitReport]
  induction files generalizing store with
  | nil => rfl
  | cons file files ih =>
    rw [List.foldl_cons, ih, emit, get?_insert, List.reverse_cons, List.find?_append]
    cases (files.reverse.find? fun file => Path.same file.relativePath path) with
    | some last => rfl
    | none => by_cases h : Path.same file.relativePath path <;> simp [h]

/-- A file whose path no other one has is read back. -/
theorem get?_emitReport_of_nodup {files : List SourceFile}
    (different : (files.map fun file => Path.parts file.relativePath).Nodup) {file : SourceFile}
    (inside : file ∈ files) {path : String} (at_ : Path.same file.relativePath path = true) :
    (store.emitReport indent files).1.get? path = some (file.render indent) := by
  have found : (files.reverse.find? fun other => Path.same other.relativePath path).isSome :=
    List.find?_isSome.2 ⟨file, List.mem_reverse.2 inside, at_⟩
  obtain ⟨last, found⟩ := Option.isSome_iff_exists.1 found
  have same := List.find?_some found
  have inside' := List.mem_reverse.1 (List.mem_of_find?_eq_some found)
  obtain rfl := List.inj_on_of_nodup_map different inside' inside
    ((Path.same_iff.1 same).trans (Path.same_iff.1 at_).symm)
  rw [get?_emitReport, found]
  rfl

theorem get?_emitReport_of_apart {files : List SourceFile} {path : String}
    (apart : ∀ file ∈ files, ¬ Path.same file.relativePath path = true) :
    (store.emitReport indent files).1.get? path = store.get? path := by
  have none : (files.reverse.find? fun file => Path.same file.relativePath path) = none :=
    List.find?_eq_none.2 fun file inside => apart file (List.mem_reverse.1 inside)
  rw [get?_emitReport, none]
  rfl

theorem mem_paths_emitReport {parts : List Path.Part} :
    parts ∈ (store.emitReport indent files).1.paths ↔
      parts ∈ files.map (fun file => Path.parts file.relativePath) ∨ parts ∈ store.paths := by
  simp only [emitReport]
  induction files generalizing store with
  | nil => simp
  | cons file files ih =>
    rw [List.foldl_cons, ih, emit, mem_paths_insert, List.map_cons, List.mem_cons, or_assoc,
      or_left_comm]

/-- There are as many files as there are paths, so all are there if no two paths are the same. -/
theorem length_emitReport_iff :
    (emitReport {} indent files).1.entries.length = files.length ↔
      (files.map fun file => Path.parts file.relativePath).Nodup := by
  have perm : (emitReport {} indent files).1.paths.Perm
      (files.map fun file => Path.parts file.relativePath).dedup := by
    refine (List.perm_ext_iff_of_nodup (nodup_paths ?_) (List.nodup_dedup _)).2 fun parts => ?_
    · exact emitReport_inOrder _ _ _ .nil
    · rw [mem_paths_emitReport, List.mem_dedup]
      exact or_iff_left List.not_mem_nil
  have count := perm.length_eq
  rw [paths, List.length_map] at count
  constructor
  · intro same
    rw [← List.dedup_eq_self]
    exact (List.dedup_sublist _).eq_of_length (by rw [← count, same, List.length_map])
  · intro nodup
    rw [count, nodup.dedup, List.length_map]

end ModelClasses.FileStore
