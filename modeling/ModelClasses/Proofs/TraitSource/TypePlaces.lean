import ModelClasses.Proofs.Outcome
import ModelClasses.TraitSource.TypeUsages

/-! # Types inside types

Wherever a type stands in another one, a reference to it, parentheses around it and a pointer to it are
lowered as the type itself. An optional type is lowered as the type in it, made nullable where it
stands, and what is around it does not change. -/

namespace ModelClasses

namespace TypeUsage

/-- The type at a path: at each step an argument by its position. -/
def at? : TypeUsage → List Nat → Option TypeUsage
  | u, [] => some u
  | u, i :: path => u.arguments[i]?.bind (·.at? path)

/-- The type with the one at a path made nullable. -/
def markNullable : TypeUsage → List Nat → TypeUsage
  | u, [] => { u with nullable := true }
  | u, i :: path => { u with arguments := u.arguments.modify i (·.markNullable path) }

@[simp] theorem at?_nil (u : TypeUsage) : u.at? [] = some u := rfl

@[simp] theorem at?_cons (u : TypeUsage) (i : Nat) (path : List Nat) :
    u.at? (i :: path) = u.arguments[i]?.bind (·.at? path) := rfl

@[simp] theorem markNullable_cons (u : TypeUsage) (i : Nat) (path : List Nat) :
    u.markNullable (i :: path) =
      { u with arguments := u.arguments.modify i (·.markNullable path) } := rfl

/-- Only the type at the path is marked, whatever else is there. -/
theorem map_at?_markNullable (u : TypeUsage) (path place : List Nat) :
    ((u.markNullable path).at? place).map (fun t => (t.name, t.nullable)) =
      (u.at? place).map fun t => (t.name, t.nullable || place == path) := by
  induction path generalizing u place with
  | nil =>
    cases place with
    | nil => simp only [markNullable, at?_nil, Option.map_some, BEq.rfl, Bool.or_true]
    | cons i place =>
      have apart : (i :: place == []) = false := rfl
      simp only [markNullable, at?_cons, apart, Bool.or_false]
  | cons i path ih =>
    cases place with
    | nil =>
      have apart : ([] == i :: path) = false := rfl
      simp only [markNullable_cons, at?_nil, Option.map_some, apart, Bool.or_false]
    | cons j place =>
      rw [markNullable_cons, at?_cons, at?_cons, List.getElem?_modify]
      cases u.arguments[j]? with
      | none => rfl
      | some t =>
        by_cases same : i = j
        · simpa [same] using ih t place
        · have apart : (j :: place == i :: path) = false := by
            simpa using fun hji => absurd hji.symm same
          simp only [if_neg same, apart, Bool.or_false]
          rfl

theorem markNullable_markNullable (u : TypeUsage) (path : List Nat) :
    (u.markNullable path).markNullable path = u.markNullable path := by
  induction path generalizing u with
  | nil => rfl
  | cons i path ih =>
    simp only [markNullable, List.modify_modify_eq]
    congr 2
    funext t
    exact ih t

end TypeUsage

namespace TraitSource

open SourceType

/-- What may stand around a type without a meaning of its own. -/
inductive Wrapper
  | reference
  | parentheses
  | pointer (qualifier : List Identifier) (name : Identifier)
      (known : name.name ∈ ["Box", "Rc", "Arc"])

def Wrapper.around (t : SourceType) : Wrapper → SourceType
  | reference => .reference t
  | parentheses => .parenthesized t
  | pointer qualifier name _ => .named qualifier name [t]

/-- An optional type, by whatever path. -/
def SourceType.optional (qualifier : List Identifier) (raw : Bool) (t : SourceType) : SourceType :=
  .named qualifier ⟨"Option", raw⟩ [t]

theorem SourceType.usage_named_singleton (qualifier : List Identifier) (name : Identifier)
    (t : SourceType) :
    usage (.named qualifier name [t]) = t.usage.map fun u => apply qualifier name [u] := by
  rw [usage, usages, usages]
  cases t.usage <;> rfl

theorem Wrapper.usage_around (w : Wrapper) (t : SourceType) : (w.around t).usage = t.usage := by
  cases w with
  | reference => rw [around, usage]
  | parentheses => rw [around, usage]
  | pointer qualifier name known =>
    have notOptional : name.name ≠ optionalName := by
      rintro same
      rw [same] at known
      exact absurd known (by decide)
    have applied (u : TypeUsage) : apply qualifier name [u] = u := by
      rw [apply, if_neg notOptional, if_pos (by simpa [pointerNames] using known)]
    rw [around, usage_named_singleton]
    simp only [applied]
    cases t.usage <;> rfl

theorem SourceType.usage_optional (qualifier : List Identifier) (raw : Bool) (t : SourceType) :
    (optional qualifier raw t).usage = t.usage.map (·.markNullable []) := by
  rw [optional, usage_named_singleton]
  rfl

/-- A place in a type where a type stands. -/
inductive TypePlace
  | whole
  | reference (place : TypePlace)
  | parenthesized (place : TypePlace)
  | slice (place : TypePlace)
  | argument (qualifier : List Identifier) (name : Identifier) (before : List SourceType)
      (place : TypePlace) (after : List SourceType)

namespace TypePlace

/-- The type that has a type at a place. -/
def fill (t : SourceType) : TypePlace → SourceType
  | whole => t
  | reference place => .reference (place.fill t)
  | parenthesized place => .parenthesized (place.fill t)
  | slice place => .slice (place.fill t)
  | argument qualifier name before place after =>
    .named qualifier name (before ++ place.fill t :: after)

/-- A path with a single argument that is lowered as the argument. -/
def standsForArgument (name : Identifier) (before after : List SourceType) : Bool :=
  before.isEmpty && after.isEmpty && ["Option", "Box", "Rc", "Arc"].contains name.name

/-- Where what stands at a place is in the lowered type. -/
def usagePath : TypePlace → List Nat
  | whole => []
  | reference place | parenthesized place => place.usagePath
  | slice place => 0 :: place.usagePath
  | argument _ name before place after =>
    if standsForArgument name before after then place.usagePath
    else before.length :: place.usagePath

end TypePlace

namespace SourceType

theorem usages_eq_mapM (ts : List SourceType) : usages ts = ts.mapM usage := by
  induction ts with
  | nil => rfl
  | cons t ts ih => rw [usages, List.mapM_cons, ih]

theorem usage_argument (qualifier : List Identifier) (name : Identifier)
    (before : List SourceType) (t : SourceType) (after : List SourceType) :
    usage (.named qualifier name (before ++ t :: after)) = do
      let us ← usages before
      let u ← t.usage
      let vs ← usages after
      return apply qualifier name (us ++ u :: vs) := by
  rw [usage, usages_eq_mapM, List.mapM_append, List.mapM_cons]
  simp only [usages_eq_mapM, bind_assoc, pure_bind]

theorem length_usages {ts : List SourceType} {us : List TypeUsage} (h : usages ts = .ok us) :
    us.length = ts.length := by
  rw [usages_eq_mapM] at h
  exact (mapM_eq_ok_iff.1 h).length_eq.symm

/-- A path with arguments keeps them, unless it has a single one and is optional or a pointer. -/
theorem apply_kept {qualifier : List Identifier} {name : Identifier} {us : List TypeUsage}
    (kept : us.length = 1 → name.name ≠ optionalName ∧ name.name ∉ pointerNames) :
    apply qualifier name us = { name := nameOf qualifier name, arguments := us } := by
  unfold apply
  split
  · obtain ⟨notOptional, notPointer⟩ := kept rfl
    rw [if_neg notOptional, if_neg (by simpa using notPointer)]
  · rfl

end SourceType

namespace TypePlace

/-- What becomes of an argument: it is all, or it is all and nullable, or it is still an argument. -/
theorem apply_argument (qualifier : List Identifier) (name : Identifier)
    {before after : List SourceType} {us vs : List TypeUsage} (front : us.length = before.length)
    (back : vs.length = after.length) (place : TypePlace) :
    let path := (argument qualifier name before place after).usagePath
    (path = place.usagePath ∧ ∀ u, apply qualifier name (us ++ u :: vs) = u) ∨
      (path = place.usagePath ∧ ∀ u, apply qualifier name (us ++ u :: vs) = u.markNullable []) ∨
      (path = us.length :: place.usagePath ∧ ∀ u, apply qualifier name (us ++ u :: vs) =
        { name := nameOf qualifier name, arguments := us ++ u :: vs }) := by
  intro path
  by_cases stands : standsForArgument name before after
  · have here : path = place.usagePath := if_pos stands
    obtain ⟨alone, known⟩ := Bool.and_eq_true_iff.1 stands
    obtain ⟨rfl, rfl⟩ := (Bool.and_eq_true_iff.1 alone).imp List.isEmpty_iff.1 List.isEmpty_iff.1
    obtain rfl := List.eq_nil_of_length_eq_zero front
    obtain rfl := List.eq_nil_of_length_eq_zero back
    by_cases optional : name.name = optionalName
    · exact .inr (.inl ⟨here, fun u => if_pos optional⟩)
    · have pointer : pointerNames.contains name.name = true := by
        simpa [pointerNames, show name.name ≠ "Option" from optional] using known
      refine .inl ⟨here, fun u => ?_⟩
      rw [List.nil_append, apply, if_neg optional, if_pos pointer]
  · refine .inr (.inr ⟨(if_neg stands).trans (by rw [front]), fun u => apply_kept fun one => ?_⟩)
    -- A single argument would be lowered alone under one of the four names.
    have alone : before = [] ∧ after = [] := by
      rw [List.length_append, List.length_cons] at one
      exact ⟨List.eq_nil_of_length_eq_zero (by omega), List.eq_nil_of_length_eq_zero (by omega)⟩
    have unknown : name.name ∉ ["Option", "Box", "Rc", "Arc"] := by
      simpa [standsForArgument, alone] using stands
    rw [List.mem_cons, not_or] at unknown
    exact unknown

theorem markNullable_apply (qualifier : List Identifier) (name : Identifier)
    {before after : List SourceType} {us vs : List TypeUsage} (front : us.length = before.length)
    (back : vs.length = after.length) (place : TypePlace) (u : TypeUsage) :
    apply qualifier name (us ++ u.markNullable place.usagePath :: vs) =
      (apply qualifier name (us ++ u :: vs)).markNullable
        (argument qualifier name before place after).usagePath := by
  rcases apply_argument qualifier name front back place with
    ⟨path, applied⟩ | ⟨path, applied⟩ | ⟨path, applied⟩
  · rw [path, applied, applied]
  · rw [path, applied, applied]
    cases place.usagePath <;> rfl
  · rw [path, applied, applied, TypeUsage.markNullable_cons, List.modify_eq_take_drop,
      List.take_left, List.drop_left, List.modifyHead_cons]

theorem usage_fill_optional (place : TypePlace) (qualifier : List Identifier) (raw : Bool)
    (t : SourceType) :
    (place.fill (optional qualifier raw t)).usage =
      (place.fill t).usage.map (·.markNullable place.usagePath) := by
  induction place with
  | whole => exact usage_optional qualifier raw t
  | reference place ih | parenthesized place ih =>
    rw [fill, fill, usage, usage, ih]
    rfl
  | slice place ih =>
    rw [fill, fill, usage, usage, ih]
    cases (place.fill t).usage <;> rfl
  | argument qualifier name before place after ih =>
    rw [fill, fill, usage_argument, usage_argument, ih]
    cases front : usages before with
    | error e => rfl
    | ok us =>
      cases (place.fill t).usage with
      | error e => rfl
      | ok u =>
        cases back : usages after with
        | error e => rfl
        | ok vs =>
          exact congrArg Except.ok
            (markNullable_apply qualifier name (length_usages front) (length_usages back) place u)

theorem usage_fill_congr {t t' : SourceType} (same : t.usage = t'.usage) (place : TypePlace) :
    (place.fill t).usage = (place.fill t').usage := by
  induction place with
  | whole => exact same
  | reference place ih | parenthesized place ih | slice place ih =>
    rw [fill, fill, usage, usage, ih]
  | argument qualifier name before place after ih =>
    rw [fill, fill, usage_argument, usage_argument, ih]

/-- A type is lowered to what stands at its path, which an optional type around it makes nullable. -/
theorem exists_at?_usagePath {place : TypePlace} {t : SourceType} {u : TypeUsage}
    (h : (place.fill t).usage = .ok u) :
    ∃ own, t.usage = .ok own ∧
      (u.at? place.usagePath = some own ∨ u.at? place.usagePath = some (own.markNullable [])) := by
  induction place generalizing u with
  | whole => exact ⟨u, h, .inl rfl⟩
  | reference place ih | parenthesized place ih =>
    rw [fill, usage] at h
    exact ih h
  | slice place ih =>
    rw [fill, usage] at h
    obtain ⟨element, lowered, h⟩ := bind_eq_ok_iff.1 h
    cases h
    exact ih lowered
  | argument qualifier name before place after ih =>
    rw [fill, usage_argument] at h
    obtain ⟨us, front, h⟩ := bind_eq_ok_iff.1 h
    obtain ⟨inner, lowered, h⟩ := bind_eq_ok_iff.1 h
    obtain ⟨vs, back, h⟩ := bind_eq_ok_iff.1 h
    cases h
    obtain ⟨own, ownLowered, stands⟩ := ih lowered
    refine ⟨own, ownLowered, ?_⟩
    rcases apply_argument qualifier name (length_usages front) (length_usages back) place with
      ⟨path, applied⟩ | ⟨path, applied⟩ | ⟨path, applied⟩
    · rwa [path, applied]
    · rw [path, applied]
      cases whole : place.usagePath with
      | nil =>
        rw [whole] at stands
        rcases stands with same | same
        · cases same
          exact .inr rfl
        · cases same
          exact .inr rfl
      | cons i path => rwa [whole] at stands
    · have inside : (us ++ inner :: vs)[us.length]? = some inner := by simp
      rwa [path, applied, TypeUsage.at?_cons, inside]

end TypePlace

/-- What stands around a type without a meaning of its own makes no difference in any place. An
optional type marks the type in it, once, and all names and marks elsewhere stay as they are. -/
theorem usage_wrapped (place : TypePlace) (t : SourceType) :
    (∀ w : Wrapper, (place.fill (w.around t)).usage = (place.fill t).usage) ∧
    (∀ qualifier raw, let o := optional qualifier raw t
      (place.fill o).usage = (place.fill t).usage.map (·.markNullable place.usagePath) ∧
      (∀ qualifier' raw', (place.fill (optional qualifier' raw' o)).usage = (place.fill o).usage) ∧
      ∀ w : Wrapper, (place.fill (w.around o)).usage =
        (place.fill (optional qualifier raw (w.around t))).usage) ∧
    ∀ u, (place.fill t).usage = .ok u →
      (∃ own, t.usage = .ok own ∧ (u.at? place.usagePath = some own ∨
        u.at? place.usagePath = some { own with nullable := true })) ∧
      ∀ path, ((u.markNullable place.usagePath).at? path).map (fun v => (v.name, v.nullable)) =
        (u.at? path).map fun v => (v.name, v.nullable || path == place.usagePath) := by
  have wrapped (t : SourceType) (w : Wrapper) :
      (place.fill (w.around t)).usage = (place.fill t).usage :=
    place.usage_fill_congr (w.usage_around t)
  refine ⟨wrapped t, fun qualifier raw => ⟨place.usage_fill_optional qualifier raw t, ?_, ?_⟩, ?_⟩
  · intro qualifier' raw'
    rw [place.usage_fill_optional, place.usage_fill_optional]
    cases (place.fill t).usage with
    | error e => rfl
    | ok u => exact congrArg Except.ok (u.markNullable_markNullable place.usagePath)
  · intro w
    rw [wrapped, place.usage_fill_optional, place.usage_fill_optional, wrapped]
  · intro u lowered
    exact ⟨TypePlace.exists_at?_usagePath lowered, u.map_at?_markNullable place.usagePath⟩

/-- A number in a list in an optional list, among the arguments of a map and behind other pointers. -/
theorem usage_wrapped_nested :
    let plain (name : String) : Identifier := ⟨name, false⟩
    let key : SourceType := .reference (.named [] (plain "str") [])
    let place : TypePlace := .argument [plain "std", plain "collections"] (plain "HashMap") [key]
      (.reference (.slice (.argument [] (plain "Option") []
        (.argument [] (plain "Vec") [] .whole []) []))) []
    let number : SourceType := .named [] (plain "u8") []
    let arc : Wrapper := .pointer [plain "std", plain "sync"] ⟨"Arc", true⟩ (by decide)
    let lowered (isNullable : Bool) : TypeUsage := ⟨"Map", [⟨"String", [], false⟩,
      ⟨"List", [⟨"List", [⟨"Short", [], isNullable⟩], true⟩], false⟩], false⟩
    place.usagePath = [1, 0, 0] ∧ (place.fill (arc.around number)).usage = .ok (lowered false) ∧
      (place.fill (optional [plain "core"] false number)).usage = .ok (lowered true) := by
  intro plain key place number arc lowered
  have whole : (place.fill number).usage = .ok (lowered false) := by
    dsimp only [place, number, lowered, key, plain]
    rfl
  obtain ⟨wrapped, marked, -⟩ := usage_wrapped place number
  refine ⟨by decide, (wrapped arc).trans whole, ?_⟩
  rw [(marked [plain "core"] false).1, whole]
  rfl

end TraitSource

end ModelClasses
