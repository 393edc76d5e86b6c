import Mathlib.Data.List.Basic
import Mathlib.Data.List.ReduceOption
import Mathlib.Tactic.Common

/-!
# Labelled transition systems

The run vocabulary every concurrent component is stated in: a `System` is a set of initial
states and a labelled step relation, a `Run` is a finite sequence of steps with the labels it
took, and a state is `Reachable` when some run from an initial state ends there.

* `Run.invariant` is the induction every safety result goes through: a predicate that each step
  preserves holds at the end of every run from a state that has it.  `invariant_of_reachable` is
  the form for an invariant whose step lemma rests on an earlier one.
* `System.guard` restricts a system to the steps that meet a condition on the state before the
  step and the label, so that "every run whose steps all meet the condition" is a run of the
  guarded system (`Run.of_guard` forgets the guard).
* `System.Traces` is a run of a system that has hidden steps, by the labels it shows.
* `System.ofFun` reads a guarded, executable step function as a system; `replay` runs it on an
  explicit list of labels and `Run.of_replay` turns a successful replay into a run, which is how
  a concrete schedule is exhibited.
-/

namespace Ovpnlane

/-- A labelled transition system: its initial states and its step relation. -/
structure System (σ ℓ : Type*) where
  /-- The states a run may start in. -/
  init : σ → Prop
  /-- `step s l t`: the system moves from `s` to `t` taking the action `l`. -/
  step : σ → ℓ → σ → Prop

namespace System

variable {σ ℓ : Type*}

/-- `M.Run s ls t`: the actions `ls`, in order, lead from `s` to `t`. -/
inductive Run (M : System σ ℓ) (s : σ) : List ℓ → σ → Prop
  | nil : Run M s [] s
  | snoc {ls : List ℓ} {t u : σ} {l : ℓ} :
      Run M s ls t → M.step t l u → Run M s (ls ++ [l]) u

/-- The states some run from an initial state ends in. -/
def Reachable (M : System σ ℓ) (t : σ) : Prop := ∃ s ls, M.init s ∧ M.Run s ls t

variable {M : System σ ℓ}

/-! ## Runs -/

namespace Run

lemma single {s t : σ} {l : ℓ} (h : M.step s l t) : M.Run s [l] t := by
  rw [← List.nil_append [l]]
  exact .snoc .nil h

lemma append {s t u : σ} {ls ms : List ℓ} (h : M.Run s ls t) (h' : M.Run t ms u) :
    M.Run s (ls ++ ms) u := by
  induction h' with
  | nil => simpa using h
  | snoc _ hstep ih =>
    rw [← List.append_assoc]
    exact .snoc ih hstep

lemma cons {s t u : σ} {l : ℓ} {ls : List ℓ} (h : M.step s l t) (h' : M.Run t ls u) :
    M.Run s (l :: ls) u := (single h).append h'

/-- A run can be cut anywhere. -/
lemma of_append {s u : σ} {ls ms : List ℓ} (h : M.Run s (ls ++ ms) u) :
    ∃ t, M.Run s ls t ∧ M.Run t ms u := by
  generalize hlms : ls ++ ms = as at h
  induction h generalizing ms with
  | nil =>
    obtain ⟨rfl, rfl⟩ := List.append_eq_nil_iff.mp hlms
    exact ⟨s, .nil, .nil⟩
  | @snoc as t u l hrun hstep ih =>
    rcases ms.eq_nil_or_concat with rfl | ⟨ms, l', rfl⟩
    · rw [List.append_nil] at hlms
      rw [hlms]
      exact ⟨u, hrun.snoc hstep, .nil⟩
    · rw [List.concat_eq_append, ← List.append_assoc] at hlms
      obtain ⟨rfl, hl⟩ := List.append_inj' hlms rfl
      obtain rfl : l' = l := by simpa using hl
      obtain ⟨r, hleft, hright⟩ := ih rfl
      exact ⟨r, hleft, by rw [List.concat_eq_append]; exact hright.snoc hstep⟩

lemma eq_of_nil {s t : σ} (h : M.Run s [] t) : s = t := by
  generalize hls : ([] : List ℓ) = ls at h
  cases h with
  | nil => rfl
  | snoc => simp at hls

/-- The first step of a run. -/
lemma of_cons {s u : σ} {l : ℓ} {ls : List ℓ} (h : M.Run s (l :: ls) u) :
    ∃ t, M.step s l t ∧ M.Run t ls u := by
  obtain ⟨t, hfirst, hrest⟩ := @of_append _ _ M s u [l] ls h
  refine ⟨t, ?_, hrest⟩
  generalize hls : [l] = ks at hfirst
  cases hfirst with
  | nil => simp at hls
  | @snoc ks r _ k hrun hstep =>
    obtain ⟨rfl, hk⟩ : ks = [] ∧ l = k := by
      rcases ks with _ | ⟨k', ks⟩ <;> simp_all
    rw [hrun.eq_of_nil, hk]
    exact hstep

/-- **The invariant rule.**  What each step preserves holds after every run. -/
lemma invariant {I : σ → Prop} (hstep : ∀ s l t, I s → M.step s l t → I t)
    {s t : σ} {ls : List ℓ} (h : M.Run s ls t) (hs : I s) : I t := by
  induction h with
  | nil => exact hs
  | snoc _ hl ih => exact hstep _ _ _ ih hl

end Run

namespace Reachable

lemma of_init {s : σ} (h : M.init s) : M.Reachable s := ⟨s, [], h, .nil⟩

lemma step {s t : σ} {l : ℓ} (h : M.Reachable s) (hl : M.step s l t) : M.Reachable t := by
  obtain ⟨s₀, ls, hinit, hrun⟩ := h
  exact ⟨s₀, ls ++ [l], hinit, hrun.snoc hl⟩

/-- The invariant rule from the initial states on. -/
lemma invariant {I : σ → Prop} (hinit : ∀ s, M.init s → I s)
    (hstep : ∀ s l t, I s → M.step s l t → I t) {t : σ} (h : M.Reachable t) : I t := by
  obtain ⟨s, ls, hs, hrun⟩ := h
  exact hrun.invariant hstep (hinit s hs)

/-- The invariant rule where the step lemma may use what is known of every reachable state. -/
lemma invariant_of_reachable {I : σ → Prop} (hinit : ∀ s, M.init s → I s)
    (hstep : ∀ s l t, M.Reachable s → I s → M.step s l t → I t) {t : σ} (h : M.Reachable t) :
    I t := by
  refine (h.invariant (I := fun s => M.Reachable s ∧ I s) ?_ ?_).2
  · exact fun s hs => ⟨.of_init hs, hinit s hs⟩
  · exact fun s l t hs hl => ⟨hs.1.step hl, hstep s l t hs.1 hs.2 hl⟩

end Reachable

/-! ## Guarded systems -/

/-- The system that takes only the steps meeting `P`, a condition on the state before the step
and the action. -/
def guard (M : System σ ℓ) (P : σ → ℓ → Prop) : System σ ℓ where
  init := M.init
  step s l t := P s l ∧ M.step s l t

lemma Run.of_guard {P : σ → ℓ → Prop} {s t : σ} {ls : List ℓ} (h : (M.guard P).Run s ls t) :
    M.Run s ls t := by
  induction h with
  | nil => exact .nil
  | snoc _ hl ih => exact .snoc ih hl.2

/-- A run whose actions meet the condition in every state. -/
lemma Run.to_guard {P : σ → ℓ → Prop} {s t : σ} {ls : List ℓ} (h : M.Run s ls t)
    (hP : ∀ l ∈ ls, ∀ s, P s l) : (M.guard P).Run s ls t := by
  induction h with
  | nil => exact .nil
  | snoc _ hl ih =>
    exact .snoc (ih fun l hmem => hP l (by simp [hmem])) ⟨hP _ (by simp) _, hl⟩

/-! ## Hidden steps -/

section Traces

variable {κ : Type*} {M : System σ (Option ℓ)} {N : System σ (Option κ)} {s t u : σ}

/-- A run of a system whose hidden steps have no label, by the labels it shows. -/
def Traces (M : System σ (Option ℓ)) (s : σ) (ls : List ℓ) (t : σ) : Prop :=
  ∃ all, M.Run s all t ∧ all.reduceOption = ls

lemma Traces.nil : M.Traces s [] s := ⟨[], .nil, rfl⟩

lemma Traces.hidden (h : M.step s none t) : M.Traces s [] t := ⟨[none], .single h, rfl⟩

lemma Traces.single {l : ℓ} (h : M.step s (some l) t) : M.Traces s [l] t :=
  ⟨[some l], .single h, rfl⟩

lemma Traces.append {ls ms : List ℓ} (h : M.Traces s ls t) (h' : M.Traces t ms u) :
    M.Traces s (ls ++ ms) u := by
  obtain ⟨all, hrun, rfl⟩ := h
  obtain ⟨all', hrun', rfl⟩ := h'
  exact ⟨all ++ all', hrun.append hrun', List.reduceOption_append _ _⟩

/-- A trace of labels that change nothing. -/
lemma Traces.stays {ls : List ℓ} (h : ∀ l ∈ ls, M.step s (some l) s) : M.Traces s ls s := by
  induction ls with
  | nil => exact .nil
  | cons l ls ih =>
    obtain ⟨hl, hls⟩ := List.forall_mem_cons.mp h
    exact (Traces.single hl).append (ih hls)

/-- The steps of one system are steps of another, under other labels. -/
lemma Traces.map {f : ℓ → κ} {ls : List ℓ} (h : M.Traces s ls t)
    (hstep : ∀ s l t, M.step s l t → N.step s (l.map f) t) : N.Traces s (ls.map f) t := by
  obtain ⟨all, hrun, rfl⟩ := h
  refine ⟨all.map (Option.map f), ?_, List.reduceOption_map⟩
  induction hrun with
  | nil => exact .nil
  | snoc _ hl ih =>
    rw [List.map_append]
    exact ih.snoc (hstep _ _ _ hl)

end Traces

/-! ## Executable systems -/

/-- A guarded step function as a system: `none` means that the action is not enabled. -/
def ofFun (init : σ → Prop) (step : σ → ℓ → Option σ) : System σ ℓ where
  init := init
  step s l t := step s l = some t

/-- Replay a list of actions; `none` if one of them is not enabled. -/
def replay (step : σ → ℓ → Option σ) (s : σ) : List ℓ → Option σ
  | [] => some s
  | l :: ls => (step s l).bind fun t => replay step t ls

lemma Run.of_replay {init : σ → Prop} {step : σ → ℓ → Option σ} {ls : List ℓ} {s t : σ}
    (h : replay step s ls = some t) : (ofFun init step).Run s ls t := by
  induction ls generalizing s with
  | nil =>
    cases h
    exact .nil
  | cons l ls ih =>
    obtain ⟨u, hu, hrest⟩ := Option.bind_eq_some_iff.mp h
    exact .cons hu (ih hrest)

end System

end Ovpnlane
