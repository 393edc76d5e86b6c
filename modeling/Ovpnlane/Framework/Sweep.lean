import Mathlib.Data.List.Perm.Basic
import Mathlib.Algebra.GroupWithZero.Nat
import Mathlib.Algebra.BigOperators.Group.List.Basic
import Mathlib.Algebra.Order.BigOperators.Group.List
import Mathlib.Tactic.Common

/-!
# Sweeping a vector that shrinks and grows under the index

A `while i < v.len()` loop with a manual index visits the elements of a vector and, for each
one, keeps it and advances, removes it with `swap_remove(i)` (the last element takes the hole,
and the index stays), or removes it and pushes a replacement at the end.  `sweep` is that loop,
with a state threaded through the visits.

The reading that makes it tractable: the vector is always `visited ++ pending`, the index is
`visited.length`, and `swap_remove` permutes `pending` (`swapRemove_append_cons`).  An invariant
`I state visited pending` therefore needs one obligation a verdict (`Verdict.After`).  The loop ends
when a replacement is strictly lighter than the element it replaces, which bounds the visits by
`fuelFor`.  `sweep_total` is the rule: it carries the invariant to the end of the loop, where
nothing is pending.
-/

namespace Ovpnlane

variable {α σ ε : Type*}

/-! ## Removal by swapping -/

/-- `Vec::swap_remove`: the last element takes the place of the removed one. -/
def swapRemove (l : List α) (i : ℕ) : List α :=
  match l.getLast? with
  | none => []
  | some z => (l.set i z).dropLast

lemma swapRemove_append_cons (v : List α) (a : α) (r : List α) :
    ∃ r', r'.Perm r ∧ swapRemove (v ++ a :: r) v.length = v ++ r' := by
  rcases r.eq_nil_or_concat with rfl | ⟨r₀, z, rfl⟩
  · exact ⟨[], .refl _, by simp [swapRemove]⟩
  · rw [List.concat_eq_append]
    refine ⟨z :: r₀, (List.perm_append_singleton z r₀).symm, ?_⟩
    have hlast : (v ++ a :: (r₀ ++ [z])).getLast? = some z := by
      rw [← List.cons_append, ← List.append_assoc, List.getLast?_append]
      simp
    have hset : (v ++ a :: (r₀ ++ [z])).set v.length z = (v ++ z :: r₀) ++ [z] := by
      simp [List.set_append_right]
    rw [swapRemove, hlast]
    simp only [hset, List.dropLast_concat]

/-! ## The loop -/

/-- What one visit decides about the element it visited. -/
inductive Verdict (α : Type*)
  /-- Keep it, possibly updated in place, and go to the next index. -/
  | keep (a : α)
  /-- `swap_remove` it; the index stays. -/
  | remove
  /-- `swap_remove` it and push a replacement; the index stays. -/
  | requeue (a : α)

/-- `let mut i = 0; while i < v.len() { … }`, one unit of fuel an iteration; a loop that runs out
of fuel reports `stuck`. -/
def sweep (body : σ → α → Except ε (σ × Verdict α)) (stuck : ε) :
    ℕ → ℕ → σ → List α → Except ε (σ × List α)
  | 0, _, _, _ => .error stuck
  | fuel + 1, i, s, l =>
    match l[i]? with
    | none => .ok (s, l)
    | some a =>
      match body s a with
      | .error e => .error e
      | .ok (s, .keep a') => sweep body stuck fuel (i + 1) s (l.set i a')
      | .ok (s, .remove) => sweep body stuck fuel i s (swapRemove l i)
      | .ok (s, .requeue a') => sweep body stuck fuel i s (swapRemove l i ++ [a'])

/-- The fuel a sweep of `l` needs when a replacement is strictly lighter than what it replaces:
one iteration for the element, one for each replacement it can have, and the final test. -/
def fuelFor (weight : α → ℕ) (l : List α) : ℕ := (l.map fun a => weight a + 1).sum + 1

/-- The obligation a verdict leaves on an invariant of the visited and the pending elements. -/
def Verdict.After (I : List α → List α → Prop) (v r : List α) : Verdict α → Prop
  | .keep a => I (v ++ [a]) r
  | .remove => ∀ r', r'.Perm r → I v r'
  | .requeue a => ∀ r', r'.Perm r → I v (r' ++ [a])

lemma Verdict.After.and {I J : List α → List α → Prop} {v r : List α} {w : Verdict α}
    (hI : w.After I v r) (hJ : w.After J v r) : w.After (fun v r => I v r ∧ J v r) v r := by
  cases w with
  | keep a => exact ⟨hI, hJ⟩
  | remove | requeue => exact fun r' hr => ⟨hI r' hr, hJ r' hr⟩

/-- An invariant that does not look at the vector. -/
lemma Verdict.after_of_forall {I : List α → List α → Prop} (h : ∀ v r, I v r) {v r : List α}
    (w : Verdict α) : w.After I v r := by
  cases w with
  | keep a => exact h _ _
  | remove | requeue => exact fun _ _ => h _ _

/-- What a verdict leaves of its element. -/
def Verdict.rest : Verdict α → List α
  | .keep a | .requeue a => [a]
  | .remove => []

/-- The obligation on an invariant of the vector as a whole, whatever its order. -/
lemma Verdict.after_of_rest {J : List α → Prop} (hJ : ∀ l l', l.Perm l' → J l → J l')
    {v r : List α} {w : Verdict α} (h : J (w.rest ++ (v ++ r))) :
    w.After (fun v r => J (v ++ r)) v r := by
  cases w with
  | keep a => exact hJ _ _ (by simpa [Verdict.rest] using List.perm_middle.symm) h
  | remove => exact fun r' hr => hJ _ _ (hr.symm.append_left v) h
  | requeue a =>
    intro r' hr
    have hperm : (a :: (v ++ r)).Perm (v ++ r' ++ [a]) :=
      ((hr.symm.append_left v).cons a).trans (List.perm_append_singleton a _).symm
    rw [List.append_assoc] at hperm
    exact hJ _ _ hperm h

/-- Where every element has a key of its own, nothing else has the key of the one being visited. -/
lemma key_ne_of_nodup {κ : Type*} {key : α → κ} {v r : List α} {a : α}
    (h : ((v ++ a :: r).map key).Nodup) : ∀ b ∈ v ++ r, key b ≠ key a := by
  have hkeys := (List.perm_middle.map key).nodup_iff.mp h
  rw [List.map_cons, List.nodup_cons] at hkeys
  exact fun b hb heq => hkeys.1 (List.mem_map.mpr ⟨b, hb, heq⟩)

/-- A replacement is strictly lighter than the element it replaces. -/
def Verdict.Lighter (weight : α → ℕ) (a : α) : Verdict α → Prop
  | .requeue a' => weight a' < weight a
  | _ => True

variable (body : σ → α → Except ε (σ × Verdict α)) (stuck : ε)

/-- The four ways one iteration goes, in the `visited ++ pending` reading.  Every rule below is
an induction over this. -/
lemma sweep_succ (fuel : ℕ) (s : σ) (v r : List α) :
    (r = [] ∧ sweep body stuck (fuel + 1) v.length s (v ++ r) = .ok (s, v)) ∨
    ∃ a r₀, r = a :: r₀ ∧
      ((∃ e, body s a = .error e ∧
          sweep body stuck (fuel + 1) v.length s (v ++ r) = .error e) ∨
        (∃ s' a', body s a = .ok (s', .keep a') ∧
          sweep body stuck (fuel + 1) v.length s (v ++ r) =
            sweep body stuck fuel (v ++ [a']).length s' ((v ++ [a']) ++ r₀)) ∨
        (∃ s' r', body s a = .ok (s', .remove) ∧ r'.Perm r₀ ∧
          sweep body stuck (fuel + 1) v.length s (v ++ r) =
            sweep body stuck fuel v.length s' (v ++ r')) ∨
        (∃ s' a' r', body s a = .ok (s', .requeue a') ∧ r'.Perm r₀ ∧
          sweep body stuck (fuel + 1) v.length s (v ++ r) =
            sweep body stuck fuel v.length s' (v ++ (r' ++ [a'])))) := by
  cases r with
  | nil => exact .inl ⟨rfl, by simp [sweep]⟩
  | cons a r₀ =>
    refine .inr ⟨a, r₀, rfl, ?_⟩
    obtain ⟨r', hperm, hswap⟩ := swapRemove_append_cons v a r₀
    have hget : (v ++ a :: r₀)[v.length]? = some a := by simp
    rcases hb : body s a with e | ⟨s', w⟩
    · exact .inl ⟨e, rfl, by simp only [sweep, hget, hb]⟩
    · right
      cases w with
      | keep a' =>
        refine .inl ⟨s', a', rfl, ?_⟩
        simp only [sweep, hget, hb]
        simp [List.set_append_right]
      | remove =>
        refine .inr (.inl ⟨s', r', rfl, hperm, ?_⟩)
        simp only [sweep, hget, hb, hswap]
      | requeue a' =>
        refine .inr (.inr ⟨s', a', r', rfl, hperm, ?_⟩)
        simp only [sweep, hget, hb, hswap, List.append_assoc]

/-- What every visit does to the state, a sweep that ends does. -/
lemma sweep_trans {body : σ → α → Except ε (σ × Verdict α)} {stuck : ε} {R : σ → σ → Prop}
    (hrefl : ∀ s, R s s) (htrans : ∀ s t u, R s t → R t u → R s u)
    (hbody : ∀ s a t w, body s a = .ok (t, w) → R s t) {fuel i : ℕ} {s t : σ} {l l' : List α}
    (h : sweep body stuck fuel i s l = .ok (t, l')) : R s t := by
  induction fuel generalizing i s l with
  | zero => simp [sweep] at h
  | succ fuel ih =>
    rw [sweep] at h
    split at h
    · obtain ⟨rfl, -⟩ : s = t ∧ l = l' := by simpa using h
      exact hrefl s
    · next a _ =>
      split at h
      · simp at h
      all_goals
        next u _ hu => exact htrans _ _ _ (hbody _ _ _ _ hu) (ih h)

/-! ## Fuel -/

lemma fuelFor_perm {weight : α → ℕ} {l l' : List α} (h : l.Perm l') :
    fuelFor weight l = fuelFor weight l' := by
  rw [fuelFor, fuelFor, (h.map _).sum_eq]

lemma fuelFor_cons (weight : α → ℕ) (a : α) (l : List α) :
    fuelFor weight (a :: l) = weight a + 1 + fuelFor weight l := by
  simp [fuelFor, Nat.add_assoc]

lemma fuelFor_concat (weight : α → ℕ) (l : List α) (a : α) :
    fuelFor weight (l ++ [a]) = weight a + 1 + fuelFor weight l := by
  rw [fuelFor_perm (List.perm_append_singleton a l), fuelFor_cons]

lemma one_le_fuelFor (weight : α → ℕ) (l : List α) : 1 ≤ fuelFor weight l := by
  simp [fuelFor]

/-! ## The rule -/

variable {body : σ → α → Except ε (σ × Verdict α)} {stuck : ε}

/-- **Total correctness of a sweep.**  When every visit the invariant allows succeeds, keeps the
invariant and replaces an element only by a lighter one, the sweep ends, with nothing pending. -/
theorem sweep_total {I : σ → List α → List α → Prop} {weight : α → ℕ}
    (hbody : ∀ s v a r, I s v (a :: r) →
      ∃ s' w, body s a = .ok (s', w) ∧ w.After (I s') v r ∧ w.Lighter weight a)
    {fuel : ℕ} {s : σ} {l : List α} (hfuel : fuelFor weight l ≤ fuel) (h₀ : I s [] l) :
    ∃ s' l', sweep body stuck fuel 0 s l = .ok (s', l') ∧ I s' l' [] := by
  suffices key : ∀ (fuel : ℕ) (s : σ) (v r : List α), fuelFor weight r ≤ fuel → I s v r →
      ∃ s' l', sweep body stuck fuel v.length s (v ++ r) = .ok (s', l') ∧ I s' l' [] from
    key fuel s [] l hfuel h₀
  intro fuel
  induction fuel with
  | zero =>
    intro s v r hr _
    have := one_le_fuelFor weight r
    omega
  | succ fuel ih =>
    intro s v r hr hI
    rcases sweep_succ body stuck fuel s v r with ⟨rfl, heq⟩ | ⟨a, r₀, rfl, hcases⟩
    · exact ⟨s, v, heq, hI⟩
    obtain ⟨s₁, w, hb, hafter, hlight⟩ := hbody s v a r₀ hI
    rw [fuelFor_cons] at hr
    rcases hcases with ⟨e, hb', -⟩ | ⟨s₂, a', hb', heq⟩ | ⟨s₂, r', hb', hperm, heq⟩ |
      ⟨s₂, a', r', hb', hperm, heq⟩ <;> rw [hb] at hb'
    · simp at hb'
    · obtain ⟨rfl, rfl⟩ : s₁ = s₂ ∧ w = .keep a' := by simpa using hb'
      rw [heq]
      exact ih _ _ _ (by omega) hafter
    · obtain ⟨rfl, rfl⟩ : s₁ = s₂ ∧ w = .remove := by simpa using hb'
      rw [heq]
      exact ih _ _ _ (by rw [fuelFor_perm hperm]; omega) (hafter r' hperm)
    · obtain ⟨rfl, rfl⟩ : s₁ = s₂ ∧ w = .requeue a' := by simpa using hb'
      rw [heq]
      have hlt : weight a' < weight a := hlight
      exact ih _ _ _ (by rw [fuelFor_concat, fuelFor_perm hperm]; omega) (hafter r' hperm)

end Ovpnlane
