import Mathlib.Tactic.Common

/-!
# Computations that can fail

The contexts that turn a missing value or an error into a text, the check of a condition, and the
inversion of a bind in `Except`: a sequence of fallible steps succeeds when each step does, and
fails at the first one that does not.  Proofs about a `do` block take it apart with these lemmas,
one step at a time, and never unfold the monad.
-/

namespace Ovpnlane

@[simp] lemma except_ok_bind {ε : Type*} {α β : Type _} (a : α) (f : α → Except ε β) :
    (Except.ok a >>= f) = f a := rfl

@[simp] lemma except_error_bind {ε : Type*} {α β : Type _} (e : ε) (f : α → Except ε β) :
    ((Except.error e : Except ε α) >>= f) = .error e := rfl

/-- A missing value is an error with this text. -/
def context {α : Type} (value : Option α) (text : String) : Except String α :=
  value.elim (.error text) .ok

/-- Every error is reported as this text. -/
def withContext {ε α : Type} (value : Except ε α) (text : String) : Except String α :=
  value.mapError fun _ => text

/-- An error unless the condition holds. -/
def ensure {ε : Type} {m : Type → Type} [Monad m] [MonadExcept ε m] (condition : Bool) (error : ε) :
    m Unit :=
  if condition then pure () else throw error

lemma bind_eq_ok {ε : Type*} {α β : Type _} {x : Except ε α} {f : α → Except ε β} {b : β} :
    x >>= f = .ok b ↔ ∃ a, x = .ok a ∧ f a = .ok b := by
  cases x <;> simp

lemma bind_eq_error {ε : Type*} {α β : Type _} {x : Except ε α} {f : α → Except ε β} {e : ε} :
    x >>= f = .error e ↔ x = .error e ∨ ∃ a, x = .ok a ∧ f a = .error e := by
  cases x <;> simp

lemma except_map_eq_ok {ε : Type*} {α β : Type _} {x : Except ε α} {f : α → β} {b : β} :
    x.map f = .ok b ↔ ∃ a, x = .ok a ∧ f a = b := by
  cases x <;> simp [Except.map]

lemma context_eq_ok {α : Type} {value : Option α} {text : String} {a : α} :
    context value text = .ok a ↔ value = some a := by
  cases value <;> simp [context]

lemma withContext_eq_ok {ε α : Type} {value : Except ε α} {text : String} {a : α} :
    withContext value text = .ok a ↔ value = .ok a := by
  cases value <;> simp [withContext, Except.mapError]

lemma ensure_eq_ok {ε : Type} {condition : Bool} {e : ε} :
    (ensure condition e : Except ε Unit) = .ok () ↔ condition = true := by
  cases condition with
  | false => exact ⟨(by cases ·), (by cases ·)⟩
  | true => exact ⟨fun _ => rfl, fun _ => rfl⟩

end Ovpnlane
