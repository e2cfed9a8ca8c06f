import ModelClasses.GenerationError
import ModelClasses.Warning

/-! # Outcomes

A step succeeds or fails, and on the way gives warnings, which stay in the order in which they
arose also when a later step fails. -/

namespace ModelClasses

structure Outcome (ε α : Type) where
  result : Except ε α
  warnings : List Warning := []

/-- The outcome of a step of generation. -/
abbrev Attempt := Outcome GenerationError

namespace Outcome

variable {ε δ α β : Type}

def bind (a : Outcome ε α) (f : α → Outcome ε β) : Outcome ε β :=
  match a.result with
  | .error e => ⟨.error e, a.warnings⟩
  | .ok x => ⟨(f x).result, a.warnings ++ (f x).warnings⟩

instance : Monad (Outcome ε) where
  pure x := ⟨.ok x, []⟩
  bind := bind

def warn (w : Warning) : Outcome ε Unit := ⟨.ok (), [w]⟩

def ofExcept (r : Except ε α) : Outcome ε α := ⟨r, []⟩

instance : MonadLift (Except ε) (Outcome ε) := ⟨ofExcept⟩

def fail (e : ε) : Outcome ε α := ⟨.error e, []⟩

def mapError (f : ε → δ) (a : Outcome ε α) : Outcome δ α := ⟨a.result.mapError f, a.warnings⟩

/-- A step for every item in turn, up to the first that fails. -/
def forEach (f : α → Outcome ε β) : List α → Outcome ε (List β)
  | [] => pure []
  | x :: rest => do
    let y ← f x
    let ys ← forEach f rest
    return y :: ys

@[simp] theorem result_pure (x : α) : (pure x : Outcome ε α).result = .ok x := rfl

@[simp] theorem warnings_pure (x : α) : (pure x : Outcome ε α).warnings = [] := rfl

@[simp] theorem result_bind (a : Outcome ε α) (f : α → Outcome ε β) :
    (a >>= f).result = a.result.bind fun x => (f x).result := by
  show (bind a f).result = _
  unfold bind
  cases a.result <;> rfl

end Outcome

end ModelClasses
