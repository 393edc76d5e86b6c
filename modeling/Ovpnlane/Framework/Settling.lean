import Ovpnlane.Framework.Transition

/-!
# Refinement and settling

Two rules for systems that are built from others or have to come to an end.

* `System.Refines`: a function from the states of one system to those of another one, under which
  every step is a step of the other system or no step at all.  What is reachable in the first is
  reachable in the second (`Refines.reachable`), so an invariant of the second one is an invariant
  of the first.
* `System.reaches`: if from every state that is not done some *own* step uses a measure up, own
  steps alone lead to the end.
* `System.Spends`: a measure that the *own* steps of a system decrease and no other step increases.
  However the other steps are interleaved, a run has at most as many own steps as the measure says
  (`Spends.bound`).  `System.Settles` adds that an own step is enabled until the system is done:
  then a run is done once it has had that many (`Settles.done_of_count`).
-/

namespace Ovpnlane

namespace System

variable {σ τ ℓ κ : Type*} {M : System σ ℓ} {N : System τ κ} {f : σ → τ}

/-! ## Refinement -/

/-- `f` reads the states of `M` as states of `N`, and every step of `M` as a step of `N` or none. -/
structure Refines (M : System σ ℓ) (N : System τ κ) (f : σ → τ) : Prop where
  init : ∀ s, M.init s → N.init (f s)
  step : ∀ s l t, M.Reachable s → M.step s l t → f t = f s ∨ ∃ k, N.step (f s) k (f t)

lemma Refines.reachable (h : M.Refines N f) {s : σ} (hs : M.Reachable s) : N.Reachable (f s) := by
  refine hs.invariant_of_reachable (I := fun s => N.Reachable (f s)) ?_ ?_
  · exact fun s hinit => .of_init (h.init s hinit)
  · intro s l t hs hf hstep
    rcases h.step s l t hs hstep with hsame | ⟨k, hk⟩
    · rwa [hsame]
    · exact hf.step hk

/-! ## Settling -/

variable {I done : σ → Prop} {own : ℓ → Bool} {measure : σ → ℕ} {s t : σ} {ls : List ℓ}

/-- If from every state that is not done some own step uses the measure up, own steps alone lead to
the end. -/
lemma reaches (h : ∀ s, I s → ¬ done s → ∃ l t, own l = true ∧ M.step s l t ∧ I t ∧
    measure t < measure s) (hs : I s) :
    ∃ ls t, M.Run s ls t ∧ I t ∧ done t ∧ (∀ l ∈ ls, own l = true) ∧ ls.length ≤ measure s := by
  induction hn : measure s using Nat.strongRecOn generalizing s with
  | ind n ih =>
    by_cases hdone : done s
    · exact ⟨[], s, .nil, hs, hdone, by simp, by simp⟩
    · obtain ⟨l, t, hown, hstep, ht, hlt⟩ := h s hs hdone
      obtain ⟨ls, u, hrun, hkeep, hu, hall, hlength⟩ := ih _ (hn ▸ hlt) ht rfl
      refine ⟨l :: ls, u, .cons hstep hrun, hkeep, hu, List.forall_mem_cons.mpr ⟨hown, hall⟩, ?_⟩
      rw [List.length_cons]
      omega

/-- From the states that meet `I` on, the steps in `own` use the measure up, and no other step adds
to it. -/
structure Spends (M : System σ ℓ) (I : σ → Prop) (own : ℓ → Bool) (measure : σ → ℕ) : Prop where
  keep : ∀ s l t, I s → M.step s l t → I t
  decrease : ∀ s l t, I s → own l = true → M.step s l t → measure t < measure s
  steady : ∀ s l t, I s → own l = false → M.step s l t → measure t ≤ measure s

lemma Spends.keep_run (h : M.Spends I own measure) (hrun : M.Run s ls t) (hs : I s) : I t :=
  hrun.invariant h.keep hs

/-- A run has at most as many own steps as the measure says. -/
lemma Spends.bound (h : M.Spends I own measure) (hrun : M.Run s ls t) (hs : I s) :
    measure t + ls.countP own ≤ measure s := by
  induction hrun with
  | nil => simp
  | @snoc ls t u l hrun hstep ih =>
    have ht := h.keep_run hrun hs
    rw [List.countP_append, List.countP_singleton]
    cases hown : own l with
    | true =>
      have hlt := h.decrease t l u ht hown hstep
      rw [if_pos rfl]
      omega
    | false =>
      have hle := h.steady t l u ht hown hstep
      rw [if_neg Bool.false_ne_true]
      omega

/-- The steps in `own` bring the system to `done` from every state that meets `I`, whatever steps
come between them. -/
structure Settles (M : System σ ℓ) (I done : σ → Prop) (own : ℓ → Bool) (measure : σ → ℕ) : Prop
    extends M.Spends I own measure where
  enabled : ∀ s, I s → ¬ done s → ∃ l t, own l = true ∧ M.step s l t

namespace Settles

lemma done_of_measure (h : M.Settles I done own measure) (hs : I s) (hzero : measure s = 0) :
    done s := by
  by_contra hnot
  obtain ⟨l, t, hown, hstep⟩ := h.enabled s hs hnot
  have hlt := h.decrease s l t hs hown hstep
  omega

/-- A run that has had as many own steps as the measure says is done. -/
lemma done_of_count (h : M.Settles I done own measure) (hrun : M.Run s ls t) (hs : I s)
    (hcount : measure s ≤ ls.countP own) : done t := by
  have hbound := h.bound hrun hs
  exact h.done_of_measure (h.keep_run hrun hs) (by omega)

/-- Own steps alone lead to the end. -/
lemma reaches (h : M.Settles I done own measure) (hs : I s) :
    ∃ ls t, M.Run s ls t ∧ I t ∧ done t ∧ (∀ l ∈ ls, own l = true) ∧ ls.length ≤ measure s := by
  refine System.reaches (fun s hs hnot => ?_) hs
  obtain ⟨l, t, hown, hstep⟩ := h.enabled s hs hnot
  exact ⟨l, t, hown, hstep, h.keep s l t hs hstep, h.decrease s l t hs hown hstep⟩

end Settles

end System

end Ovpnlane
