import ModelClasses.Outcome
import Mathlib.Data.List.Forall2

/-! # Steps that succeed and steps that fail

A sequence of steps succeeds when each of them does; a step for every item of a list gives one result
for each of them, in their order. What fails first is the failure of the sequence. -/

namespace ModelClasses

variable {ε δ α β γ : Type}

section

variable {r : α → β → Prop}

theorem exists_of_mem_right {xs : List α} {ys : List β} (h : List.Forall₂ r xs ys) {y : β}
    (hy : y ∈ ys) : ∃ x ∈ xs, r x y := by
  induction h with
  | nil => cases hy
  | cons first _ ih =>
    rcases List.mem_cons.1 hy with rfl | hy
    · exact ⟨_, List.mem_cons_self, first⟩
    · obtain ⟨x, hx, related⟩ := ih hy
      exact ⟨x, List.mem_cons_of_mem _ hx, related⟩

theorem exists_of_mem_left {xs : List α} {ys : List β} (h : List.Forall₂ r xs ys) {x : α}
    (hx : x ∈ xs) : ∃ y ∈ ys, r x y :=
  exists_of_mem_right (r := flip r) h.flip hx

theorem rel_of_getElem? {xs : List α} {ys : List β} (h : List.Forall₂ r xs ys) {k : Nat} {x : α}
    {y : β} (hx : xs[k]? = some x) (hy : ys[k]? = some y) : r x y := by
  induction h generalizing k with
  | nil => cases hx
  | cons first _ ih =>
    cases k with
    | zero =>
      cases hx
      cases hy
      exact first
    | succ k => exact ih hx hy

theorem forall₂_trans {t : β → γ → Prop} {xs : List α} {ys : List β} {zs : List γ}
    (h : List.Forall₂ r xs ys) (h' : List.Forall₂ t ys zs) :
    List.Forall₂ (fun x z => ∃ y, r x y ∧ t y z) xs zs := by
  induction h generalizing zs with
  | nil =>
    cases h'
    exact .nil
  | cons first _ ih =>
    cases h' with
    | cons first' rest' => exact .cons ⟨_, first, first'⟩ (ih rest')

theorem exists_append_of_forall₂ {xs xs' : List α} {ys : List β}
    (h : List.Forall₂ r (xs ++ xs') ys) :
    ∃ first later, ys = first ++ later ∧ List.Forall₂ r xs first ∧ List.Forall₂ r xs' later :=
  ⟨ys.take xs.length, ys.drop xs.length, (List.take_append_drop _ _).symm,
    (List.forall₂_take_append ys xs xs' h.flip).flip,
    (List.forall₂_drop_append ys xs xs' h.flip).flip⟩

theorem map_eq_of_forall₂ {f : α → γ} {h : β → γ} (same : ∀ x y, r x y → f x = h y) {xs : List α}
    {ys : List β} (each : List.Forall₂ r xs ys) : xs.map f = ys.map h := by
  induction each with
  | nil => rfl
  | cons first _ ih => rw [List.map_cons, List.map_cons, ih, same _ _ first]

theorem flatMap_eq_of_forall₂ {f : α → List γ} {h : β → List γ} (same : ∀ x y, r x y → f x = h y)
    {xs : List α} {ys : List β} (each : List.Forall₂ r xs ys) : xs.flatMap f = ys.flatMap h := by
  induction each with
  | nil => rfl
  | cons first _ ih => rw [List.flatMap_cons, List.flatMap_cons, ih, same _ _ first]

theorem find?_of_forall₂ {p : α → Bool} {q : β → Bool} (same : ∀ x y, r x y → p x = q y)
    {xs : List α} {ys : List β} (each : List.Forall₂ r xs ys) :
    Option.Rel r (xs.find? p) (ys.find? q) := by
  induction each with
  | nil => exact .none
  | @cons x y xs ys first _ ih =>
    rw [List.find?_cons, List.find?_cons, same x y first]
    cases q y with
    | true => exact .some first
    | false => exact ih

/-- Of lists that correspond, what is selected from both corresponds. -/
theorem forall₂_filterMap {t : α → γ → Prop} {select : α → Bool} {select? : β → Option γ}
    {xs : List α} {ys : List β} (h : List.Forall₂ r xs ys)
    (selected : ∀ x y, r x y → match select? y with
      | some z => select x = true ∧ t x z
      | none => select x = false) :
    List.Forall₂ t (xs.filter select) (ys.filterMap select?) := by
  induction h with
  | nil => exact .nil
  | @cons x y xs ys first _ ih =>
    have this := selected x y first
    cases found : select? y with
    | none =>
      rw [found] at this
      rwa [List.filterMap_cons_none found, List.filter_cons_of_neg (by simp [this])]
    | some z =>
      rw [found] at this
      rw [List.filterMap_cons_some found, List.filter_cons_of_pos this.1]
      exact .cons this.2 ih

end

theorem bind_eq_ok_iff {r : Except ε α} {f : α → Except ε β} {y : β} :
    (r >>= f) = .ok y ↔ ∃ x, r = .ok x ∧ f x = .ok y := by
  cases r with
  | error e => simp [bind, Except.bind]
  | ok x => simp [bind, Except.bind]

/-- What a second step does with results that the first one does not have makes no difference. -/
theorem bind_congr_ok {r : Except ε α} {f f' : α → Except ε β}
    (same : ∀ x, r = .ok x → f x = f' x) : (r >>= f) = (r >>= f') := by
  cases r with
  | error e => rfl
  | ok x => exact same x rfl

theorem map_eq_ok_iff {r : Except ε α} {f : α → β} {y : β} :
    r.map f = .ok y ↔ ∃ x, r = .ok x ∧ f x = y := by
  cases r with
  | error e => simp [Except.map]
  | ok x => simp [Except.map]

theorem map_eq_error_iff {r : Except ε α} {f : α → β} {e : ε} : r.map f = .error e ↔ r = .error e := by
  cases r <;> simp [Except.map]

theorem mapError_eq_ok_iff {r : Except ε α} {f : ε → δ} {x : α} :
    r.mapError f = .ok x ↔ r = .ok x := by
  cases r with
  | error e => simp [Except.mapError]
  | ok y => simp [Except.mapError]

theorem mapM_eq_ok_iff {f : α → Except ε β} {xs : List α} {ys : List β} :
    xs.mapM f = .ok ys ↔ List.Forall₂ (fun x y => f x = .ok y) xs ys := by
  induction xs generalizing ys with
  | nil => cases ys <;> simp [pure, Except.pure]
  | cons x xs ih =>
    rw [List.mapM_cons, bind_eq_ok_iff, List.forall₂_cons_left_iff]
    constructor
    · rintro ⟨y, first, tail⟩
      obtain ⟨others, later, same⟩ := bind_eq_ok_iff.1 tail
      cases same
      exact ⟨y, others, first, ih.1 later, rfl⟩
    · rintro ⟨y, others, first, later, rfl⟩
      exact ⟨y, first, bind_eq_ok_iff.2 ⟨others, ih.2 later, rfl⟩⟩

/-- The failure that a result is, if it is one. -/
def failure? : Except ε α → Option ε
  | .error e => some e
  | .ok _ => none

@[simp] theorem failure?_error (e : ε) : failure? (.error e : Except ε α) = some e := rfl

@[simp] theorem failure?_ok (x : α) : failure? (.ok x : Except ε α) = none := rfl

theorem failure?_eq_some_iff {r : Except ε α} {e : ε} : failure? r = some e ↔ r = .error e := by
  cases r <;> simp

theorem failure?_eq_none_iff {r : Except ε α} : failure? r = none ↔ ∃ x, r = .ok x := by
  cases r <;> simp

@[simp] theorem failure?_map (r : Except ε α) (f : α → β) : failure? (r.map f) = failure? r := by
  cases r <;> rfl

@[simp] theorem failure?_mapError (r : Except ε α) (f : ε → δ) :
    failure? (r.mapError f) = (failure? r).map f := by
  cases r <;> rfl

theorem bind_eq_error_iff {r : Except ε α} {f : α → Except ε β} {e : ε} :
    (r >>= f) = .error e ↔ r = .error e ∨ ∃ x, r = .ok x ∧ f x = .error e := by
  cases r <;> simp [bind, Except.bind]

/-- The failures of a first step come before those of a second one, which is taken if the first one
succeeds. -/
theorem failure?_bind {r : Except ε α} {f : α → Except ε β} {first later : List ε}
    (h : failure? r = first.head?) (h' : ∀ x, r = .ok x → failure? (f x) = later.head?) :
    failure? (r >>= f) = (first ++ later).head? := by
  rw [List.head?_append, ← h]
  cases r with
  | error e => rfl
  | ok x => exact h' x rfl

theorem failure?_mapM (f : α → Except ε β) (xs : List α) :
    failure? (xs.mapM f) = xs.findSome? fun x => failure? (f x) := by
  induction xs with
  | nil => rfl
  | cons x xs ih =>
    rw [List.mapM_cons, List.findSome?_cons, ← ih]
    cases f x with
    | error e => rfl
    | ok y => cases xs.mapM f <;> rfl

namespace Outcome

@[simp] theorem result_liftM (r : Except ε α) : (liftM r : Outcome ε α).result = r := rfl

theorem bind_ok_iff {a : Outcome ε α} {f : α → Outcome ε β} {y : β} :
    (a >>= f).result = .ok y ↔ ∃ x, a.result = .ok x ∧ (f x).result = .ok y := by
  rw [result_bind]
  exact bind_eq_ok_iff

theorem mapError_ok_iff {a : Outcome ε α} {f : ε → δ} {x : α} :
    (a.mapError f).result = .ok x ↔ a.result = .ok x :=
  mapError_eq_ok_iff

theorem forEach_ok_iff {f : α → Outcome ε β} {xs : List α} {ys : List β} :
    (forEach f xs).result = .ok ys ↔ List.Forall₂ (fun x y => (f x).result = .ok y) xs ys := by
  induction xs generalizing ys with
  | nil => cases ys <;> simp [forEach]
  | cons x xs ih =>
    rw [forEach, bind_ok_iff, List.forall₂_cons_left_iff]
    constructor
    · rintro ⟨y, first, tail⟩
      obtain ⟨others, later, same⟩ := bind_ok_iff.1 tail
      cases same
      exact ⟨y, others, first, ih.1 later, rfl⟩
    · rintro ⟨y, others, first, later, rfl⟩
      exact ⟨y, first, bind_ok_iff.2 ⟨others, ih.2 later, rfl⟩⟩

theorem forEach_congr {f f' : α → Outcome ε β} {xs : List α} (same : ∀ x ∈ xs, f x = f' x) :
    forEach f xs = forEach f' xs := by
  induction xs with
  | nil => rfl
  | cons x xs ih =>
    rw [forEach, forEach, same x List.mem_cons_self, ih fun y hy => same y (List.mem_cons_of_mem x hy)]

theorem failure?_result_bind {a : Outcome ε α} {f : α → Outcome ε β} {first later : List ε}
    (h : failure? a.result = first.head?)
    (h' : ∀ x, a.result = .ok x → failure? (f x).result = later.head?) :
    failure? (a >>= f).result = (first ++ later).head? := by
  rw [result_bind]
  exact failure?_bind h h'

theorem failure?_result_mapError (a : Outcome ε α) (f : ε → δ) :
    failure? (a.mapError f).result = (failure? a.result).map f :=
  failure?_mapError a.result f

@[simp] theorem failure?_bind_pure (a : Outcome ε α) (f : α → β) :
    failure? (a >>= fun x => pure (f x)).result = failure? a.result := by
  rw [result_bind]
  cases a.result <;> rfl

theorem failure?_forEach (f : α → Outcome ε β) (xs : List α) :
    failure? (forEach f xs).result = xs.findSome? fun x => failure? (f x).result := by
  induction xs with
  | nil => rfl
  | cons x xs ih =>
    rw [forEach, result_bind, List.findSome?_cons, ← ih]
    cases (f x).result with
    | error e => rfl
    | ok y => exact failure?_bind_pure (forEach f xs) (y :: ·)

theorem forEach_succeeds_iff {f : α → Outcome ε β} {xs : List α} :
    (∃ ys, (forEach f xs).result = .ok ys) ↔ ∀ x ∈ xs, ∃ y, (f x).result = .ok y := by
  rw [← failure?_eq_none_iff, failure?_forEach, List.findSome?_eq_none_iff]
  exact forall₂_congr fun _ _ => failure?_eq_none_iff

/-- All warnings of a step have a property. -/
def Warns (P : Warning → Prop) (a : Outcome ε α) : Prop := ∀ w ∈ a.warnings, P w

theorem warnings_bind_of_ok {a : Outcome ε α} {x : α} (h : a.result = .ok x)
    (f : α → Outcome ε β) : (a >>= f).warnings = a.warnings ++ (f x).warnings := by
  show (a.bind f).warnings = _
  rw [bind, h]

variable {P : Warning → Prop}

theorem warns_pure (x : α) : Warns P (pure x : Outcome ε α) := by simp [Warns]

theorem warns_liftM (r : Except ε α) : Warns P (liftM r : Outcome ε α) :=
  fun _ hw => absurd hw List.not_mem_nil

theorem warns_fail (e : ε) : Warns P (fail e : Outcome ε α) := fun _ hw => absurd hw List.not_mem_nil

theorem Warns.bind {a : Outcome ε α} {f : α → Outcome ε β} (h : Warns P a)
    (h' : ∀ x, Warns P (f x)) : Warns P (a >>= f) := by
  cases result : a.result with
  | error e =>
    have first : (a >>= f).warnings = a.warnings := by
      show (a.bind f).warnings = _
      rw [Outcome.bind, result]
    intro w hw
    exact h w (first ▸ hw)
  | ok x =>
    intro w hw
    rw [warnings_bind_of_ok result] at hw
    exact (List.mem_append.1 hw).elim (h w) (h' x w)

/-- A check that a failure answers gives no warning. -/
theorem Warns.unless {a : Outcome ε α} (h : Warns P a) (c : Prop) [Decidable c] (e : ε) :
    Warns P (if c then (fail e : Outcome ε PUnit) >>= fun _ => a else a) := by
  split
  · exact (warns_fail e).bind fun _ => h
  · exact h

theorem warns_forEach {f : α → Outcome ε β} (each : ∀ x, Warns P (f x)) :
    ∀ xs, Warns P (forEach f xs)
  | [] => warns_pure []
  | x :: rest => (each x).bind fun y => (warns_forEach each rest).bind fun ys => warns_pure (y :: ys)

theorem bind_pure_eq (a : Outcome ε α) : a.bind pure = a := by
  obtain ⟨result, warnings⟩ := a
  cases result <;> simp [bind]

theorem bind_bind_eq (a : Outcome ε α) (f : α → Outcome ε β) (h : β → Outcome ε γ) :
    (a.bind f).bind h = a.bind fun x => (f x).bind h := by
  unfold bind
  cases a.result with
  | error e => rfl
  | ok x => cases later : (f x).result <;> simp [later]

instance : LawfulMonad (Outcome ε) :=
  LawfulMonad.mk' (Outcome ε) bind_pure_eq (fun _ _ => rfl) bind_bind_eq

end Outcome

end ModelClasses
