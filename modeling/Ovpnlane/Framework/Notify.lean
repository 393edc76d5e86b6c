import Mathlib.Tactic.Common

/-!
# Waiting for a flag that stays up

A flag that is raised once and for all, a notification sent with every raise, and one waiter that
runs `loop { let n = notified(); if flag { return } n.await }`.  `Notify` is the notification of
`tokio::sync` for one waiter: `notify_one` wakes a registered waiter or stores one permit, and the
next poll of a `notified()` future consumes it.

The waiter may test the flag before it is raised and register afterwards, so the flag alone does
not wake it; the permit does.  `Watched` is the invariant that says so: while the flag is up, a
waiter that has seen it down finds the permit (`tested`), and no waiter is registered
(`parked`).  The invariant is kept by a raise and by every step of the waiter, and under it the
waiter is never stuck (`Watched.enabled`) and returns within three steps (`Watched.progress`).
-/

namespace Ovpnlane

/-- What a notification knows of its waiter. -/
inductive Ticket
  | idle
  /-- A polled future, waiting. -/
  | registered
  /-- A polled future that has been notified. -/
  | woken
  deriving DecidableEq

/-- A notification with at most one waiter. -/
structure Notify where
  permit : Bool
  ticket : Ticket
  deriving DecidableEq

namespace Notify

def new : Notify := ⟨false, .idle⟩

/-- `notify_one`. -/
def notifyOne (n : Notify) : Notify :=
  match n.ticket with
  | .registered => { n with ticket := .woken }
  | _ => { n with permit := true }

/-- A poll of the `notified()` future: whether it is ready. -/
def poll (n : Notify) : Bool × Notify :=
  match n.ticket with
  | .idle => if n.permit then (true, ⟨false, .idle⟩) else (false, ⟨false, .registered⟩)
  | .registered => (false, n)
  | .woken => (true, { n with ticket := .idle })

/-- The future goes out of scope; a notification it has not used is passed on. -/
def drop (n : Notify) : Notify :=
  match n.ticket with
  | .woken => ⟨true, .idle⟩
  | _ => { n with ticket := .idle }

end Notify

/-- Where the waiter is. -/
inductive WaitPoint
  /-- Before `notified()`. -/
  | head
  /-- Before the test of the flag. -/
  | created
  /-- Before the first poll of the future, after the flag was found down. -/
  | tested
  /-- At the future. -/
  | awaiting
  | returned
  deriving DecidableEq

namespace WaitPoint

/-- The next step of the waiter; `none` if it has to wait, or has returned. -/
def step (flag : Bool) (n : Notify) : WaitPoint → Option (Notify × WaitPoint)
  | .head => some (n, .created)
  | .created => some (n, if flag then .returned else .tested)
  | .tested =>
    match n.poll with
    | (true, n) => some (n, .head)
    | (false, n) => some (n, .awaiting)
  | .awaiting =>
    match n.poll with
    | (true, n) => some (n, .head)
    | (false, _) => none
  | .returned => none

/-- The waiter returns only after it has seen the flag up. -/
lemma step_returned {flag : Bool} {n n' : Notify} {point : WaitPoint}
    (h : point.step flag n = some (n', .returned)) : flag = true := by
  cases point with
  | head | returned => simp [step] at h
  | created =>
    cases flag with
    | false => simp [step] at h
    | true => rfl
  | tested =>
    simp only [step] at h
    split at h <;> simp at h
  | awaiting =>
    simp only [step] at h
    split at h <;> simp at h

/-- The steps to the return, once the flag is up. -/
def remaining : WaitPoint → ℕ
  | .returned => 0
  | .created => 1
  | .head => 2
  | .tested | .awaiting => 3

end WaitPoint

/-- No wake-up is lost. -/
structure Watched (flag : Bool) (n : Notify) (point : WaitPoint) : Prop where
  ticket : n.ticket = .idle ↔ point ≠ .awaiting
  /-- A waiter that saw the flag down before the raise finds the permit of the raise. -/
  tested : flag = true → point = .tested → n.permit = true
  parked : flag = true → n.ticket ≠ .registered

namespace Watched

variable {flag : Bool} {n n' : Notify} {point point' : WaitPoint}

/-- A waiter that has not started, whatever was notified before. -/
lemma start (flag : Bool) (h : n.ticket = .idle) : Watched flag n .head where
  ticket := by simp [h]
  tested := by simp
  parked := by simp [h]

/-- The flag is raised, with its notification. -/
lemma raise (h : Watched flag n point) : Watched true n.notifyOne point := by
  obtain ⟨permit, ticket⟩ := n
  have hticket := h.ticket
  cases ticket with
  | idle => exact ⟨hticket, fun _ _ => rfl, by simp [Notify.notifyOne]⟩
  | registered =>
    have hpoint : point = .awaiting := by simpa using hticket
    subst hpoint
    exact ⟨by simp [Notify.notifyOne], by simp, by simp [Notify.notifyOne]⟩
  | woken => exact ⟨hticket, fun _ _ => rfl, by simp [Notify.notifyOne]⟩

/-- A step of the waiter. -/
lemma step (h : Watched flag n point) (hstep : point.step flag n = some (n', point')) :
    Watched flag n' point' := by
  have hidle : point ≠ .awaiting → n.ticket = .idle := h.ticket.mpr
  cases point with
  | head =>
    obtain ⟨rfl, rfl⟩ := Prod.mk.inj (Option.some.inj hstep)
    exact ⟨by simp [hidle], by simp, h.parked⟩
  | created =>
    obtain ⟨rfl, rfl⟩ := Prod.mk.inj (Option.some.inj hstep)
    have hticket := hidle (by simp)
    cases flag with
    | false => exact ⟨by simp [hticket], by simp, by simp⟩
    | true => exact ⟨by simp [hticket], by simp, h.parked⟩
  | tested =>
    obtain ⟨permit, ticket⟩ := n
    obtain rfl : ticket = .idle := hidle (by simp)
    cases permit with
    | true =>
      obtain ⟨rfl, rfl⟩ := Prod.mk.inj (Option.some.inj hstep)
      exact .start flag rfl
    | false =>
      obtain ⟨rfl, rfl⟩ := Prod.mk.inj (Option.some.inj hstep)
      have hdown : flag ≠ true := fun hup => by simpa using h.tested hup rfl
      exact ⟨by simp, fun hup => absurd hup hdown, fun hup => absurd hup hdown⟩
  | awaiting =>
    obtain ⟨permit, ticket⟩ := n
    cases ticket with
    | idle => exact absurd rfl (h.ticket.mp rfl)
    | registered => simp [WaitPoint.step, Notify.poll] at hstep
    | woken =>
      obtain ⟨rfl, rfl⟩ := Prod.mk.inj (Option.some.inj hstep)
      exact .start flag rfl
  | returned => simp [WaitPoint.step] at hstep

/-- The waiter is dropped. -/
lemma drop (flag : Bool) (n : Notify) : Watched flag n.drop .returned := by
  have hidle : n.drop.ticket = .idle := by
    unfold Notify.drop
    split <;> rfl
  exact ⟨by simp [hidle], by simp, by simp [hidle]⟩

/-- Once the flag is up the waiter is never stuck. -/
lemma enabled (h : Watched true n point) (hpoint : point ≠ .returned) :
    ∃ n' point', point.step true n = some (n', point') := by
  obtain ⟨permit, ticket⟩ := n
  cases point with
  | head | created => exact ⟨_, _, rfl⟩
  | tested =>
    obtain rfl : ticket = .idle := h.ticket.mpr (by simp)
    obtain rfl : permit = true := h.tested rfl rfl
    exact ⟨_, _, rfl⟩
  | awaiting =>
    cases ticket with
    | idle => exact absurd rfl (h.ticket.mp rfl)
    | registered => exact absurd rfl (h.parked rfl)
    | woken => exact ⟨_, _, rfl⟩
  | returned => exact absurd rfl hpoint

/-- Once the flag is up every step brings the waiter closer to its return. -/
lemma progress (h : Watched true n point) (hstep : point.step true n = some (n', point')) :
    point'.remaining < point.remaining := by
  obtain ⟨permit, ticket⟩ := n
  cases point with
  | head | created =>
    obtain ⟨-, rfl⟩ := Prod.mk.inj (Option.some.inj hstep)
    decide
  | tested =>
    obtain rfl : ticket = .idle := h.ticket.mpr (by simp)
    obtain rfl : permit = true := h.tested rfl rfl
    obtain ⟨-, rfl⟩ := Prod.mk.inj (Option.some.inj hstep)
    decide
  | awaiting =>
    cases ticket with
    | idle => exact absurd rfl (h.ticket.mp rfl)
    | registered => exact absurd rfl (h.parked rfl)
    | woken =>
      obtain ⟨-, rfl⟩ := Prod.mk.inj (Option.some.inj hstep)
      decide
  | returned => simp [WaitPoint.step] at hstep

end Watched

end Ovpnlane
