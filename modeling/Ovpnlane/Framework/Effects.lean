import Ovpnlane.Framework.Fallible

/-!
# Programs that change a state and can fail

Rules for `EStateM`, whose programs keep what they have done when they fail.  `Ends x s ok error`
says how `x` ends from the state `s`: with a result that meets `ok`, or with an error that meets
`error`, each together with the state that is left.  One rule for each way to build a program: a
bind (`ends_bind`), a value that may be an error (`ends_lift`), a check (`ends_ensure`), a loop over
a list (`ends_foldlM`, from what one iteration keeps) and a program whose leavings are cleared away
however it ends (`ends_clearing`).
-/

namespace Ovpnlane

variable {ε σ α β γ : Type}

instance exceptLift : MonadLift (Except ε) (EStateM ε σ) where
  monadLift x := fun s =>
    match x with
    | .ok a => .ok a s
    | .error e => .error e s

/-- Run a program and then clear up, however the program ends. -/
def clearing (clear : σ → σ) (x : EStateM ε σ α) : EStateM ε σ α := fun s =>
  match x s with
  | .ok a s' => .ok a (clear s')
  | .error e s' => .error e (clear s')

/-- How a program ends. -/
def Ends (x : EStateM ε σ α) (s : σ) (ok : α → σ → Prop) (error : ε → σ → Prop) : Prop :=
  match x s with
  | .ok a s' => ok a s'
  | .error e s' => error e s'

variable {x : EStateM ε σ α} {s : σ} {ok ok' : α → σ → Prop} {error error' : ε → σ → Prop}

/-- The rule of consequence. -/
lemma Ends.mono (h : Ends x s ok error) (hok : ∀ a s', ok a s' → ok' a s')
    (herror : ∀ e s', error e s' → error' e s') : Ends x s ok' error' := by
  unfold Ends at h ⊢
  split at h
  · exact hok _ _ h
  · exact herror _ _ h

/-- Two things that are said of one program. -/
lemma Ends.and (h : Ends x s ok error) (h' : Ends x s ok' error') :
    Ends x s (fun a s' => ok a s' ∧ ok' a s') (fun e s' => error e s' ∧ error' e s') := by
  unfold Ends at h h' ⊢
  generalize x s = result at h h' ⊢
  cases result <;> exact ⟨h, h'⟩

@[simp] lemma ends_pure {a : α} : Ends (pure a) s ok error ↔ ok a s := Iff.rfl

@[simp] lemma ends_throw {e : ε} : Ends (throw e) s ok error ↔ error e s := Iff.rfl

@[simp] lemma ends_get {ok : σ → σ → Prop} : Ends get s ok error ↔ ok s s := Iff.rfl

@[simp] lemma ends_set {s' : σ} {ok : PUnit → σ → Prop} :
    Ends (set s') s ok error ↔ ok ⟨⟩ s' := Iff.rfl

@[simp] lemma ends_lift {y : Except ε α} : Ends (liftM y) s ok error ↔
    (∀ a, y = .ok a → ok a s) ∧ ∀ e, y = .error e → error e s := by
  cases y with
  | ok a => exact ⟨fun h => ⟨fun b hb => by cases hb; exact h, by simp⟩, fun h => h.1 a rfl⟩
  | error e => exact ⟨fun h => ⟨by simp, fun e' he => by cases he; exact h⟩, fun h => h.2 e rfl⟩

@[simp] lemma ends_ensure {condition : Bool} {e : ε} {ok : Unit → σ → Prop} :
    Ends (ensure condition e : EStateM ε σ Unit) s ok error ↔
      (condition = true → ok () s) ∧ (condition = false → error e s) := by
  cases condition <;> simp [ensure]

/-- A value that is no error. -/
lemma ends_lift_ok {y : Except ε α} {a : α} (h : y = .ok a) :
    Ends (liftM y) s ok error ↔ ok a s := by
  subst h
  exact Iff.rfl

lemma ends_bind {f : α → EStateM ε σ β} {ok : β → σ → Prop} :
    Ends (x >>= f) s ok error ↔ Ends x s (fun a s' => Ends (f a) s' ok error) error := by
  have hbind : (x >>= f) s = match x s with
      | .ok a s' => f a s'
      | .error e s' => .error e s' := rfl
  unfold Ends
  rw [hbind]
  cases x s <;> rfl

/-- A program that clears up ends as the program does, in the cleared state. -/
lemma ends_clearing {clear : σ → σ} : Ends (clearing clear x) s ok error ↔
    Ends x s (fun a s' => ok a (clear s')) (fun e s' => error e (clear s')) := by
  unfold Ends clearing
  cases x s <;> rfl

/-- A loop over a list: `I done b s` says what holds after the elements `done`. -/
lemma ends_foldlM {f : β → γ → EStateM ε σ β} {I : List γ → β → σ → Prop}
    (hstep : ∀ done b c s, I done b s → Ends (f b c) s (I (done ++ [c])) error)
    {l done : List γ} {b : β} (h : I done b s) :
    Ends (l.foldlM f b) s (I (done ++ l)) error := by
  induction l generalizing done b s with
  | nil => simpa using h
  | cons c l ih =>
    rw [List.foldlM_cons, ends_bind]
    refine (hstep done b c s h).mono (fun b' s' hnext => ?_) fun _ _ herror => herror
    have hrest := ih hnext
    rwa [List.append_assoc, List.singleton_append] at hrest

end Ovpnlane
