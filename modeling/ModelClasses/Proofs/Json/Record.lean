import Mathlib.Data.List.Forall2
import Mathlib.Data.List.Nodup
import ModelClasses.Proofs.Json.Format

/-! # Records read back

What is read of a record and of a list that have been written, in a document that does not nest deeper
than there is room for. -/

namespace ModelClasses.Json

theorem member?_record (name : String) (members : List (String × Json)) :
    member? name (members.map fun m => (some m.1, m.2)) = members.lookup name := by
  induction members with
  | nil => rfl
  | cons m members ih =>
    obtain ⟨key, v⟩ := m
    rw [member?] at ih ⊢
    rw [List.map_cons]
    by_cases same : key = name
    · rw [List.find?_cons_of_pos (by simpa using same), same, List.lookup_cons_self]
      rfl
    · have other : (name == key) = false := beq_eq_false_iff_ne.2 (Ne.symm same)
      rw [List.find?_cons_of_neg (by simpa using same), ih, List.lookup_cons, other]

/-- A record whose keys differ has the value of every key, and no value for other names. -/
theorem record?_record {members : List (String × Json)} (keys : (members.map (·.1)).Nodup)
    (names : List String) :
    (record members).record? names = some (names.map fun name => members.lookup name) := by
  have texts : (members.map fun m => ((some m.1, m.2) : JsonText × Json)).all (·.1.isSome) := by simp
  have once : names.all (occurrences · (members.map fun m => (some m.1, m.2)) ≤ 1) := by
    rw [List.all_eq_true]
    intro name _
    have counted := List.nodup_iff_count_le_one.1 keys name
    rw [List.count_eq_countP, List.countP_map, List.countP_eq_length_filter] at counted
    rw [decide_eq_true_iff, occurrences, List.filter_map, List.length_map]
    simpa [Function.comp_def] using counted
  rw [record, record?, if_pos (by rw [texts, once]; rfl)]
  simp [member?_record]

theorem mapM_eq_some_iff {α β : Type} {read : α → Option β} {items : List α} {xs : List β} :
    items.mapM read = some xs ↔ List.Forall₂ (fun item x => read item = some x) items xs := by
  induction items generalizing xs with
  | nil => simp [eq_comm]
  | cons item items ih =>
    rw [List.mapM_cons, List.forall₂_cons_left_iff]
    simp only [Option.bind_eq_bind, Option.bind_eq_some_iff, Option.pure_def, Option.some.injEq, ih]
    constructor
    · rintro ⟨x, first, later, rest, rfl⟩
      exact ⟨x, later, first, rest, rfl⟩
    · rintro ⟨x, later, first, rest, rfl⟩
      exact ⟨x, first, later, rest, rfl⟩

theorem mapM_map_eq_some {α : Type} {read : Json → Option α} {write : α → Json} {xs : List α}
    (each : ∀ x ∈ xs, read (write x) = some x) : (xs.map write).mapM read = some xs := by
  rw [mapM_eq_some_iff, List.forall₂_map_left_iff, List.forall₂_same]
  exact each

theorem list?_map {α : Type} {read : Nat → Json → Option α} {write : α → Json} {xs : List α}
    {room : Nat} (shallow : (array (xs.map write)).depth ≤ room)
    (each : ∀ x ∈ xs, ∀ inner, (write x).depth ≤ inner → read inner (write x) = some x) :
    list? read room (.array (xs.map write)) = some xs := by
  obtain ⟨inner, rfl, inside⟩ := depth_array_le_iff.1 shallow
  exact mapM_map_eq_some fun x hx => each x hx inner (inside _ (List.mem_map_of_mem hx))

@[simp] theorem required_some {α : Type} (read : Json → Option α) (j : Json) :
    required read (some j) = read j := rfl

@[simp] theorem optional_some {α : Type} (default : α) (read : Json → Option α) (j : Json) :
    optional default read (some j) = read j := rfl

@[simp] theorem optional_none {α : Type} (default : α) (read : Json → Option α) :
    optional default read none = some default := rfl

/-- The items of a list that is a field of a record. A list that is left out has none. -/
inductive ItemsOf : Option Json → List Json → Prop
  | leftOut : ItemsOf none []
  | array (items : List Json) : ItemsOf (some (.array items)) items

/-- One value is read of every item. -/
theorem optional_list?_eq_some_iff {α : Type} {read : Nat → Json → Option α} {room : Nat}
    {field : Option Json} {xs : List α} :
    optional [] (list? read (room + 1)) field = some xs ↔
      ∃ items, ItemsOf field items ∧ List.Forall₂ (fun item x => read room item = some x) items xs := by
  constructor
  · intro h
    cases field with
    | none =>
      cases h
      exact ⟨[], .leftOut, .nil⟩
    | some value =>
      rw [optional_some] at h
      cases value with
      | array items => exact ⟨items, .array items, mapM_eq_some_iff.1 h⟩
      | _ => cases h
  · rintro ⟨items, fieldItems, each⟩
    cases fieldItems with
    | leftOut =>
      cases each
      rfl
    | array => exact mapM_eq_some_iff.2 each

@[simp] theorem string?_str (s : String) : string? (str s) = some s := rfl

theorem char?_singleton (c : Char) : char? (str (String.singleton c)) = some c := by
  simp [char?, str]

end ModelClasses.Json
