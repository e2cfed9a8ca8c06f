import ModelClasses.Path
import Mathlib.Data.List.Basic

/-! # Parts of paths

Paths are compared part by part, in an order that tells apart all that are not the same. A name that
is joined to a path is one more part, provided that it is a plain one: it has no slash, and is
neither empty nor made of the dots that stand for a directory itself or the one above it. -/

namespace ModelClasses.Path

/-- The name of a part that has one. -/
def Part.text : Part → String
  | named name => String.ofList name
  | _ => ""

theorem Part.compare_eq :
    Part.compare = compareLex (compareOn Part.rank) (compareOn Part.text) := by
  funext a b
  cases a <;> cases b <;> rfl

instance : Std.TransCmp Part.compare := by
  rw [Part.compare_eq]
  infer_instance

instance : Std.LawfulEqCmp Part.compare where
  compare_self {a} := Std.ReflCmp.compare_self
  eq_of_compare {a b} h := by
    rw [Part.compare_eq, compareLex_eq_eq] at h
    obtain ⟨rank, text⟩ := h
    have sameRank : a.rank = b.rank := Std.LawfulEqCmp.eq_of_compare rank
    have sameText : a.text = b.text := Std.LawfulEqCmp.eq_of_compare text
    -- only names are told apart by their texts
    cases a with
    | named a =>
      cases b with
      | named b => rw [String.ofList_injective sameText]
      | root | current | parent => cases sameRank
    | root | current | parent => cases b <;> first | rfl | cases sameRank

theorem compareParts_eq (a b : List Part) : compareParts a b = List.compareLex Part.compare a b := by
  induction a generalizing b with
  | nil => cases b <;> rfl
  | cons x xs ih =>
    cases b with
    | nil => rfl
    | cons y ys => rw [compareParts, ih, List.compareLex_cons_cons]

theorem compare_eq : compare = fun a b => List.compareLex Part.compare (parts a) (parts b) := by
  funext a b
  exact compareParts_eq (parts a) (parts b)

theorem compare_eq_iff {a b : String} : compare a b = .eq ↔ parts a = parts b := by
  rw [compare_eq]
  exact Std.LawfulEqCmp.compare_eq_iff_eq

theorem same_iff {a b : String} : same a b = true ↔ parts a = parts b :=
  decide_eq_true_iff

theorem compare_lt_trans {a b c : String} (h : compare a b = .lt) (h' : compare b c = .lt) :
    compare a c = .lt := by
  rw [compare_eq] at *
  exact Std.TransCmp.lt_trans h h'

theorem compare_lt_of_gt {a b : String} (h : compare a b = .gt) : compare b a = .lt := by
  rw [compare_eq] at *
  exact Std.OrientedCmp.lt_of_gt h

/-- A name that is one part of a path. -/
def IsPlain (name : List Char) : Prop :=
  '/' ∉ name ∧ name ≠ [] ∧ name ≠ ['.'] ∧ name ≠ ['.', '.']

theorem ofPiece?_plain {name : List Char} (h : IsPlain name) : ofPiece? name = some (.named name) := by
  obtain ⟨-, nonempty, current, parent⟩ := h
  rw [ofPiece?, if_neg (not_or.2 ⟨nonempty, current⟩), if_neg parent]

theorem pieces_ne_nil (cs : List Char) : pieces cs ≠ [] := by
  cases cs with
  | nil => simp [pieces]
  | cons c cs =>
    rw [pieces]
    split
    · simp
    · split <;> simp

theorem pieces_slash (cs : List Char) : pieces ('/' :: cs) = [] :: pieces cs := by
  rw [pieces, if_pos rfl]

theorem pieces_cons {c : Char} (h : c ≠ '/') {cs piece : List Char} {more : List (List Char)}
    (rest : pieces cs = piece :: more) : pieces (c :: cs) = (c :: piece) :: more := by
  rw [pieces, if_neg h, rest]

theorem pieces_plain {cs : List Char} (h : '/' ∉ cs) : pieces cs = [cs] := by
  induction cs with
  | nil => rfl
  | cons c cs ih =>
    rw [List.mem_cons, not_or] at h
    exact pieces_cons (Ne.symm h.1) (ih h.2)

theorem pieces_append_slash (cs rest : List Char) :
    pieces (cs ++ '/' :: rest) = pieces cs ++ pieces rest := by
  induction cs with
  | nil => exact pieces_slash rest
  | cons c cs ih =>
    by_cases slash : c = '/'
    · rw [slash, List.cons_append, pieces_slash, pieces_slash, ih, List.cons_append]
    · obtain ⟨piece, more, split⟩ := List.exists_cons_of_ne_nil (pieces_ne_nil cs)
      rw [split, List.cons_append] at ih
      rw [List.cons_append, pieces_cons slash ih, pieces_cons slash split, List.cons_append]

/-- The part that a path starts with, if something stands behind it. -/
def leadParts (first : List Char) : List Part :=
  if first = [] then [.root] else if first = ['.'] then [.current] else (ofPiece? first).toList

theorem parts_of_pieces {path : String} {first : List Char} {rest : List (List Char)}
    (split : pieces path.toList = first :: rest) (nonempty : first ≠ [] ∨ rest ≠ []) :
    parts path = leadParts first ++ rest.filterMap ofPiece? := by
  rw [parts, split]
  dsimp only
  congr 1
  rw [leadParts]
  by_cases empty : first = []
  · rw [if_pos empty, if_pos empty, if_neg (nonempty.resolve_left (not_not.2 empty))]
  · rw [if_neg empty, if_neg empty]

theorem eq_nil_of_pieces {cs : List Char} (h : pieces cs = [[]]) : cs = [] := by
  cases cs with
  | nil => rfl
  | cons c cs =>
    obtain ⟨piece, more, split⟩ := List.exists_cons_of_ne_nil (pieces_ne_nil cs)
    by_cases slash : c = '/'
    · rw [slash, pieces_slash, split] at h
      cases h
    · rw [pieces_cons slash split] at h
      cases h

theorem parts_plain {name : String} (h : IsPlain name.toList) : parts name = [.named name.toList] := by
  rw [parts_of_pieces (pieces_plain h.1) (.inl h.2.1), leadParts, if_neg h.2.1, if_neg h.2.2.1,
    ofPiece?_plain h]
  rfl

theorem endsWith_slash_iff {path : String} :
    path.endsWith "/" = true ↔ ∃ front, front ++ ['/'] = path.toList := by
  rw [← String.endsWith_toSlice, String.Slice.endsWith_string_iff, String.copy_toSlice]
  rfl

/-- A text that does not start at the root adds its own parts to a path that is there. -/
theorem parts_join_text {base text : String} (relative : ¬ text.startsWith "/" = true)
    (nonempty : base ≠ "") :
    parts (join base text) = parts base ++ (pieces text.toList).filterMap ofPiece? := by
  rw [join, if_neg relative]
  split
  · rename_i direct
    -- the slash is there, and the empty piece behind it is no part
    have ends := direct.resolve_left fun empty => nonempty (String.isEmpty_iff.1 empty)
    obtain ⟨front, split⟩ := endsWith_slash_iff.1 ends
    obtain ⟨first, rest, pieced⟩ := List.exists_cons_of_ne_nil (pieces_ne_nil front)
    have before : pieces base.toList = first :: (rest ++ [[]]) := by
      rw [← split]
      exact (pieces_append_slash front []).trans (by rw [pieced]; rfl)
    have after : pieces (base ++ text).toList = first :: (rest ++ pieces text.toList) := by
      rw [String.toList_append, ← split, List.append_assoc]
      exact (pieces_append_slash front text.toList).trans (by rw [pieced, List.cons_append])
    have noPart : (rest ++ [[]]).filterMap ofPiece? = rest.filterMap ofPiece? := by
      rw [List.filterMap_append]
      exact List.append_nil _
    rw [parts_of_pieces before (.inr (by simp)),
      parts_of_pieces after (.inr (by simp [pieces_ne_nil])), noPart, List.filterMap_append,
      List.append_assoc]
  · obtain ⟨first, rest, pieced⟩ := List.exists_cons_of_ne_nil (pieces_ne_nil base.toList)
    have something : first ≠ [] ∨ rest ≠ [] := by
      by_contra nothing
      obtain ⟨rfl, rfl⟩ := not_or.1 nothing |>.imp not_not.1 not_not.1
      exact nonempty (String.toList_eq_nil_iff.1 (eq_nil_of_pieces pieced))
    have after : pieces (base ++ "/" ++ text).toList = first :: (rest ++ pieces text.toList) := by
      rw [String.toList_append, String.toList_append, List.append_assoc]
      exact (pieces_append_slash base.toList text.toList).trans (by rw [pieced, List.cons_append])
    rw [parts_of_pieces pieced something,
      parts_of_pieces after (.inr (by simp [pieces_ne_nil])), List.filterMap_append,
      List.append_assoc]

theorem join_empty (text : String) : join "" text = text := by
  rw [join]
  split
  · rfl
  · rw [if_pos (.inl rfl), String.empty_append]

theorem startsWith_slash_iff {text : String} :
    text.startsWith "/" = true ↔ text.toList.head? = some '/' := by
  rw [String.startsWith_string_iff]
  constructor
  · rintro ⟨rest, split⟩
    rw [← split]
    rfl
  · intro head
    obtain ⟨rest, split⟩ := List.head?_eq_some_iff.1 head
    exact ⟨rest, by rw [split]; rfl⟩

theorem not_startsWith_slash {text : String} (h : '/' ∉ text.toList) :
    ¬ text.startsWith "/" = true := by
  rw [startsWith_slash_iff]
  exact fun head => h (List.mem_of_mem_head? head)

theorem parts_join (base : String) {name : String} (h : IsPlain name.toList) :
    parts (join base name) = parts base ++ [.named name.toList] := by
  by_cases empty : base = ""
  · rw [empty, join_empty, parts_plain h]
    rfl
  · rw [parts_join_text (not_startsWith_slash h.1) empty, pieces_plain h.1,
      List.filterMap_cons_some (ofPiece?_plain h), List.filterMap_nil]

theorem parts_foldl_join (names : List String) (base : String)
    (h : ∀ name ∈ names, IsPlain name.toList) :
    parts (names.foldl join base) = parts base ++ names.map fun name => .named name.toList := by
  induction names generalizing base with
  | nil => simp
  | cons name names ih =>
    rw [List.foldl_cons, ih _ fun other ho => h other (List.mem_cons_of_mem name ho),
      parts_join base (h name List.mem_cons_self), List.append_assoc]
    rfl

/-- What a relative path without a step upwards has for its parts. -/
def StaysBelow (ps : List Part) : Prop := .root ∉ ps ∧ .parent ∉ ps

/-- A piece has characters of the text, and no slash. -/
theorem mem_of_mem_pieces {cs piece : List Char} (h : piece ∈ pieces cs) :
    ∀ c ∈ piece, c ∈ cs ∧ c ≠ '/' := by
  induction cs generalizing piece with
  | nil =>
    rw [pieces, List.mem_singleton] at h
    simp [h]
  | cons d ds ih =>
    by_cases slash : d = '/'
    · rw [slash, pieces_slash, List.mem_cons] at h
      rcases h with rfl | h
      · simp
      · exact fun c hc => ⟨List.mem_cons_of_mem d (ih h c hc).1, (ih h c hc).2⟩
    · obtain ⟨first, more, split⟩ := List.exists_cons_of_ne_nil (pieces_ne_nil ds)
      rw [pieces_cons slash split, List.mem_cons] at h
      rw [split] at ih
      rcases h with rfl | h
      · intro c hc
        rcases List.mem_cons.1 hc with rfl | hc
        · exact ⟨List.mem_cons_self, slash⟩
        · have inside := ih List.mem_cons_self c hc
          exact ⟨List.mem_cons_of_mem d inside.1, inside.2⟩
      · intro c hc
        have inside := ih (List.mem_cons_of_mem first h) c hc
        exact ⟨List.mem_cons_of_mem d inside.1, inside.2⟩

/-- A text without a slash goes on with the last piece. -/
theorem pieces_append_plain {text : List Char} (h : '/' ∉ text) {cs last : List Char}
    {front : List (List Char)} (split : pieces cs = front ++ [last]) :
    pieces (cs ++ text) = front ++ [last ++ text] := by
  induction cs generalizing front last with
  | nil =>
    obtain ⟨rfl, one⟩ := List.append_eq_singleton_iff.1 split.symm |>.resolve_right (by simp)
    obtain rfl := List.singleton_inj.1 one
    exact pieces_plain h
  | cons c cs ih =>
    by_cases slash : c = '/'
    · rw [slash, pieces_slash] at split
      obtain ⟨rfl, one⟩ | ⟨later, rfl, rest⟩ := List.cons_eq_append_iff.1 split
      · exact absurd (List.cons.inj one).2.symm (pieces_ne_nil cs)
      · rw [slash, List.cons_append, pieces_slash, ih rest, List.cons_append]
    · obtain ⟨first, more, pieced⟩ := List.exists_cons_of_ne_nil (pieces_ne_nil cs)
      rw [pieces_cons slash pieced] at split
      -- The first piece is the last one, or the last one is behind it.
      obtain ⟨rfl, one⟩ | ⟨later, rfl, rest⟩ := List.cons_eq_append_iff.1 split
      · obtain ⟨rfl, rfl⟩ := List.cons.inj one
        have alone : pieces cs = [] ++ [first] := pieced
        exact pieces_cons slash (ih alone)
      · rw [rest, ← List.cons_append] at pieced
        exact pieces_cons slash (ih pieced)

theorem ofPiece?_ne_root (piece : List Char) : ofPiece? piece ≠ some .root := by
  rw [ofPiece?]
  split
  · simp
  · split <;> simp

theorem ofPiece?_eq_parent_iff {piece : List Char} :
    ofPiece? piece = some .parent ↔ piece = ['.', '.'] := by
  rw [ofPiece?]
  split
  · rename_i none
    rcases none with rfl | rfl <;> simp
  · split <;> simp [*]

theorem eq_of_ofPiece?_named {piece name : List Char} (h : ofPiece? piece = some (.named name)) :
    piece = name := by
  rw [ofPiece?] at h
  split at h
  · cases h
  · split at h
    · cases h
    · exact Part.named.inj (Option.some.inj h)

/-- A path with parts has a first piece that stands for the place where it starts. -/
theorem parts_cases (path : String) :
    path = "" ∨ path ≠ "" ∧ ∃ first rest, pieces path.toList = first :: rest ∧
      parts path = leadParts first ++ rest.filterMap ofPiece? := by
  obtain ⟨first, rest, pieced⟩ := List.exists_cons_of_ne_nil (pieces_ne_nil path.toList)
  refine or_iff_not_imp_left.2 fun nonempty => ⟨nonempty, first, rest, pieced, ?_⟩
  refine parts_of_pieces pieced (not_and_or.1 ?_)
  rintro ⟨rfl, rfl⟩
  exact nonempty (String.toList_eq_nil_iff.1 (eq_nil_of_pieces pieced))

theorem head?_pieces_eq_nil_iff {cs : List Char} :
    (pieces cs).head? = some [] ↔ cs = [] ∨ cs.head? = some '/' := by
  cases cs with
  | nil => simp [pieces]
  | cons c cs =>
    by_cases slash : c = '/'
    · simp [slash, pieces_slash]
    · obtain ⟨first, more, split⟩ := List.exists_cons_of_ne_nil (pieces_ne_nil cs)
      simp [pieces_cons slash split, slash]

theorem root_mem_parts_iff {path : String} :
    .root ∈ parts path ↔ path.startsWith "/" = true := by
  rw [startsWith_slash_iff]
  rcases parts_cases path with rfl | ⟨nonempty, first, rest, pieced, partsOf⟩
  · decide
  · have later : .root ∉ rest.filterMap ofPiece? := by
      intro inside
      obtain ⟨piece, -, root⟩ := List.mem_filterMap.1 inside
      exact ofPiece?_ne_root piece root
    have lead : .root ∈ leadParts first ↔ first = [] := by
      rw [leadParts]
      split
      · simp [*]
      · split
        · simp [*]
        · simp [*, ofPiece?_ne_root]
    have start : (pieces path.toList).head? = some [] ↔ _ := head?_pieces_eq_nil_iff
    rw [pieced, List.head?_cons, Option.some_inj] at start
    rw [partsOf, List.mem_append, or_iff_left later, lead, start]
    exact or_iff_right (mt String.toList_eq_nil_iff.1 nonempty)

theorem parent_mem_parts_iff {path : String} :
    .parent ∈ parts path ↔ ['.', '.'] ∈ pieces path.toList := by
  rcases parts_cases path with rfl | ⟨-, first, rest, pieced, partsOf⟩
  · decide
  · have lead : .parent ∈ leadParts first ↔ ['.', '.'] = first := by
      rw [leadParts]
      split
      · simp [*]
      · split
        · simp [*]
        · rw [Option.mem_toList, ofPiece?_eq_parent_iff, eq_comm]
    have later : .parent ∈ rest.filterMap ofPiece? ↔ ['.', '.'] ∈ rest := by
      simp [List.mem_filterMap, ofPiece?_eq_parent_iff]
    rw [partsOf, pieced, List.mem_append, List.mem_cons, lead, later]

/-- The name of a part is a text between slashes. -/
theorem slash_notMem_of_named {path : String} {name : List Char} (h : .named name ∈ parts path) :
    '/' ∉ name := by
  rcases parts_cases path with rfl | ⟨-, first, rest, pieced, partsOf⟩
  · cases h
  · have inside : name ∈ pieces path.toList := by
      rw [partsOf, List.mem_append] at h
      rw [pieced, List.mem_cons]
      rcases h with lead | later
      · left
        rw [leadParts] at lead
        split at lead
        · simp at lead
        · split at lead
          · simp at lead
          · exact (eq_of_ofPiece?_named (Option.mem_toList.1 lead)).symm
      · right
        obtain ⟨piece, hp, named⟩ := List.mem_filterMap.1 later
        exact eq_of_ofPiece?_named named ▸ hp
    exact fun slash => (mem_of_mem_pieces inside '/' slash).2 rfl

theorem root_mem_parts_join_iff {base text : String} :
    .root ∈ parts (join base text) ↔ .root ∈ parts base ∨ text.startsWith "/" = true := by
  by_cases relative : text.startsWith "/" = true
  · rw [join, if_pos relative, root_mem_parts_iff, or_iff_right_of_imp fun _ => relative]
  · by_cases empty : base = ""
    · rw [empty, join_empty, root_mem_parts_iff, or_iff_right (by decide)]
    · have later : .root ∉ (pieces text.toList).filterMap ofPiece? := by
        intro inside
        obtain ⟨piece, -, root⟩ := List.mem_filterMap.1 inside
        exact ofPiece?_ne_root piece root
      rw [parts_join_text relative empty, List.mem_append, or_iff_left later, or_iff_left relative]

theorem parent_mem_parts_join_iff {base text : String} (relative : ¬ text.startsWith "/" = true) :
    .parent ∈ parts (join base text) ↔
      .parent ∈ parts base ∨ ['.', '.'] ∈ pieces text.toList := by
  by_cases empty : base = ""
  · rw [empty, join_empty, parent_mem_parts_iff, or_iff_right (by decide)]
  · rw [parts_join_text relative empty, List.mem_append]
    simp [List.mem_filterMap, ofPiece?_eq_parent_iff]

/-- A path stays below if it did so before and what is joined to it neither starts at the root nor
goes upwards. -/
theorem staysBelow_join_iff {base text : String} :
    StaysBelow (parts (join base text)) ↔
      StaysBelow (parts base) ∧ ¬ text.startsWith "/" = true ∧ ['.', '.'] ∉ pieces text.toList := by
  rw [StaysBelow, StaysBelow, root_mem_parts_join_iff, not_or]
  by_cases relative : text.startsWith "/" = true
  · exact iff_of_false (fun below => below.1.2 relative) fun below => below.2.1 relative
  · rw [parent_mem_parts_join_iff relative, not_or]
    tauto

theorem staysBelow_foldl_join_iff (texts : List String) {base : String} :
    StaysBelow (parts (texts.foldl join base)) ↔
      StaysBelow (parts base) ∧
        ∀ text ∈ texts, ¬ text.startsWith "/" = true ∧ ['.', '.'] ∉ pieces text.toList := by
  induction texts generalizing base with
  | nil => simp
  | cons text texts ih =>
    rw [List.foldl_cons, ih, staysBelow_join_iff, List.forall_mem_cons, and_assoc]

end ModelClasses.Path
