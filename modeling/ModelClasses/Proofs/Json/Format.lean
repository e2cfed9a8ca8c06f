import ModelClasses.Json.Format
import ModelClasses.Json.Record

/-! # Formats that read what they write

What is relied on of a format: the documents that are made of texts, integers and finite numbers are read
as they were written, up to the depth that a document may have, and so are an integer and some finite
numbers in them. -/

namespace ModelClasses.Json

open Decimal

mutual
/-- How many containers lie inside each other. -/
def depth : Json → Nat
  | .array items => itemsDepth items + 1
  | .object members => membersDepth members + 1
  | _ => 0

def itemsDepth : List Json → Nat
  | [] => 0
  | v :: rest => max (depth v) (itemsDepth rest)

def membersDepth : List (JsonText × Json) → Nat
  | [] => 0
  | (_, v) :: rest => max (depth v) (membersDepth rest)
end

theorem itemsDepth_le_iff {items : List Json} {n : Nat} :
    itemsDepth items ≤ n ↔ ∀ v ∈ items, v.depth ≤ n := by
  induction items with
  | nil => simp [itemsDepth]
  | cons v items ih => rw [itemsDepth, Nat.max_le, ih, List.forall_mem_cons]

theorem membersDepth_le_iff {members : List (JsonText × Json)} {n : Nat} :
    membersDepth members ≤ n ↔ ∀ m ∈ members, m.2.depth ≤ n := by
  induction members with
  | nil => simp [membersDepth]
  | cons m members ih => rw [membersDepth, Nat.max_le, ih, List.forall_mem_cons]

/-- A container needs one level, and its contents have those that are left. -/
theorem depth_array_le_iff {items : List Json} {room : Nat} :
    (array items).depth ≤ room ↔ ∃ inner, room = inner + 1 ∧ ∀ v ∈ items, v.depth ≤ inner := by
  rw [depth]
  constructor
  · intro h
    exact ⟨room - 1, by omega, itemsDepth_le_iff.1 (by omega)⟩
  · rintro ⟨inner, rfl, h⟩
    exact Nat.succ_le_succ (itemsDepth_le_iff.2 h)

theorem depth_record_le_iff {members : List (String × Json)} {room : Nat} :
    (record members).depth ≤ room ↔
      ∃ inner, room = inner + 1 ∧ ∀ m ∈ members, m.2.depth ≤ inner := by
  have inside (n : Nat) : membersDepth (members.map fun m => (some m.1, m.2)) ≤ n ↔
      ∀ m ∈ members, m.2.depth ≤ n := by
    rw [membersDepth_le_iff, List.forall_mem_map]
  rw [record, depth]
  constructor
  · intro h
    exact ⟨room - 1, by omega, (inside _).1 (by omega)⟩
  · rintro ⟨inner, rfl, h⟩
    exact Nat.succ_le_succ ((inside _).2 h)

/-- A number of either width. -/
abbrev Number := (w : Width) × Binary w

namespace Format

/-- A document that is made of texts, integers and finite numbers. -/
inductive Plain (format : Format) : Json → Prop
  | bool (b : Bool) : Plain format (.bool b)
  | text (s : String) : Plain format (.str s)
  | integer (i : Int64) : Plain format (format.ofLong i)
  | number {w : Width} {x : Binary w} (finite : x.isFinite) : Plain format (format.ofBinary x)
  | array {items : List Json} (h : ∀ v ∈ items, Plain format v) : Plain format (.array items)
  | record {members : List (String × Json)} (h : ∀ m ∈ members, Plain format m.2) :
      Plain format (.record members)

/-- A finite number that is read as it was written. -/
structure Keeps (format : Format) (x : Number) : Prop where
  finite : x.2.isFinite
  printed : format.binary? x.1 (format.ofBinary x.2) = some x.2

/-- Reading is inverse to writing, for texts and integers, and for the finite ones of some numbers. -/
structure IsInverse (format : Format) (numbers : List Number) : Prop where
  document {j : Json} (plain : format.Plain j) (shallow : j.depth ≤ nestingLimit) :
    format.read? (format.write j) = some j
  integer (i : Int64) : format.long? (format.ofLong i) = some i
  number {x : Number} (inside : x ∈ numbers) (finite : x.2.isFinite) :
    format.binary? x.1 (format.ofBinary x.2) = some x.2

variable {format : Format}

theorem IsInverse.keeps {numbers : List Number} (inverse : format.IsInverse numbers) {x : Number}
    (inside : x ∈ numbers) (finite : x.2.isFinite) : format.Keeps x :=
  ⟨finite, inverse.number inside finite⟩

theorem Plain.list {α : Type} {write : α → Json} {xs : List α}
    (each : ∀ x ∈ xs, format.Plain (write x)) : format.Plain (.array (xs.map write)) :=
  .array (List.forall_mem_map.2 each)

end Format

end ModelClasses.Json
