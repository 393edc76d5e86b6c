import Mathlib.Tactic.Common

/-!
# A watched value

A channel that keeps one value: a sender replaces it, and a receiver looks at it or waits for a
change it has not seen.  `Watch` is the channel of `tokio::sync::watch` with one sender and one
receiver.  Every value that is sent has a version of its own, and `changed` is ready when the
version is not the one last seen, or when the sender is gone; so a value that was sent before the
receiver began to wait is not missed (`changed_of_lt`).
-/

namespace Ovpnlane

structure Watch (α : Type) where
  value : α
  version : ℕ
  /-- The version the receiver has seen. -/
  seen : ℕ
  /-- The sender was dropped. -/
  closed : Bool
  deriving DecidableEq

namespace Watch

variable {α : Type}

/-- `watch::channel`. -/
def channel (value : α) : Watch α := ⟨value, 0, 0, false⟩

/-- `Sender::send`. -/
def send (w : Watch α) (value : α) : Watch α := { w with value := value, version := w.version + 1 }

/-- The sender is dropped. -/
def hangup (w : Watch α) : Watch α := { w with closed := true }

/-- `Receiver::borrow`. -/
def borrow (w : Watch α) : α := w.value

/-- `Receiver::changed`; `none` while it waits.  Whether it returns `Ok` or the error of a channel
without a sender is left out. -/
def changed (w : Watch α) : Option (Watch α) :=
  if w.version ≠ w.seen then some { w with seen := w.version }
  else if w.closed then some w else none

lemma changed_eq_some {w w' : Watch α} (h : w.changed = some w') :
    w'.value = w.value ∧ w'.version = w.version ∧ w'.closed = w.closed ∧ w'.seen = w'.version ∧
      (w.version ≠ w.seen ∨ w.closed = true) := by
  unfold changed at h
  split_ifs at h with hseen hclosed
  · obtain rfl := Option.some.inj h
    exact ⟨rfl, rfl, rfl, rfl, .inl hseen⟩
  · obtain rfl := Option.some.inj h
    exact ⟨rfl, rfl, rfl, (not_ne_iff.mp hseen).symm, .inr hclosed⟩

/-- What has not been seen is ready. -/
lemma changed_of_lt {w : Watch α} (h : w.seen < w.version) : w.changed.isSome = true := by
  rw [changed, if_pos (Nat.ne_of_gt h)]
  rfl

end Watch

end Ovpnlane
