import Mathlib.Data.Nat.ModEq
import Mathlib.Logic.Function.Iterate
import Mathlib.Order.Interval.Finset.Nat
import Mathlib.Tactic.Common

/-!
# Search in a cycle of numbers

A counter that runs through `lo, lo + 1, …, hi` and then starts again at `lo` is used to pick a
number that is not taken.  `cyclicNext_iterate` is its closed form; from it, a search that tries the
numbers in turn tries none of them twice within one round, so that it succeeds whenever fewer
numbers are taken than the cycle has (`exists_first_not_mem`).
-/

namespace Ovpnlane

variable {lo hi x : ℕ}

/-- The number after `x`. -/
def cyclicNext (lo hi x : ℕ) : ℕ := if x = hi then lo else x + 1

lemma cyclicNext_mem (hx : x ∈ Finset.Icc lo hi) : cyclicNext lo hi x ∈ Finset.Icc lo hi := by
  rw [Finset.mem_Icc] at hx ⊢
  unfold cyclicNext
  split_ifs <;> omega

lemma cyclicNext_iterate (hx : x ∈ Finset.Icc lo hi) (i : ℕ) :
    (cyclicNext lo hi)^[i] x = lo + (x - lo + i) % (hi - lo + 1) := by
  rw [Finset.mem_Icc] at hx
  induction i with
  | zero => rw [Function.iterate_zero_apply, Nat.mod_eq_of_lt] <;> omega
  | succ i ih =>
    have hlt : (x - lo + i) % (hi - lo + 1) < hi - lo + 1 := Nat.mod_lt _ (by omega)
    rw [Function.iterate_succ_apply', ih, ← Nat.add_assoc, ← Nat.mod_add_mod (x - lo + i)]
    generalize (x - lo + i) % (hi - lo + 1) = r at hlt
    unfold cyclicNext
    split_ifs with hlast
    · rw [show r + 1 = hi - lo + 1 by omega, Nat.mod_self]
      omega
    · rw [Nat.mod_eq_of_lt] <;> omega

/-- Nothing is tried twice within one round. -/
lemma cyclicNext_iterate_injOn (hx : x ∈ Finset.Icc lo hi) :
    Set.InjOn (fun i => (cyclicNext lo hi)^[i] x) (Finset.range (hi - lo + 1)) := by
  intro i hi' j hj heq
  have hlt : i < hi - lo + 1 := by simpa using hi'
  have hlt' : j < hi - lo + 1 := by simpa using hj
  have hmod : (x - lo + i) % (hi - lo + 1) = (x - lo + j) % (hi - lo + 1) := by
    simpa [cyclicNext_iterate hx] using heq
  have hcancel : i ≡ j [MOD hi - lo + 1] := Nat.ModEq.add_left_cancel' (x - lo) hmod
  exact hcancel.eq_of_lt_of_lt hlt hlt'

/-- **A search succeeds** after as many failures as numbers are taken, at most, when fewer numbers
are taken than the cycle has. -/
theorem exists_first_not_mem {taken : List ℕ} (hx : x ∈ Finset.Icc lo hi)
    (hlen : taken.length < hi - lo + 1) :
    ∃ i ≤ taken.length, (cyclicNext lo hi)^[i] x ∉ taken ∧
      ∀ j < i, (cyclicNext lo hi)^[j] x ∈ taken := by
  have hfree : ∃ i, i ≤ taken.length ∧ (cyclicNext lo hi)^[i] x ∉ taken := by
    by_contra hall
    push Not at hall
    -- the first `taken.length + 1` numbers of the search are distinct
    have hinj := (cyclicNext_iterate_injOn hx).mono
      (Finset.coe_subset.mpr (Finset.range_subset_range.mpr (Nat.succ_le_of_lt hlen)))
    have hsub : (Finset.range (taken.length + 1)).image (fun i => (cyclicNext lo hi)^[i] x) ⊆
        taken.toFinset := by
      intro y hy
      obtain ⟨i, hi', rfl⟩ := Finset.mem_image.mp hy
      exact List.mem_toFinset.mpr (hall i (Nat.lt_succ_iff.mp (Finset.mem_range.mp hi')))
    have hcard := (Finset.card_le_card hsub).trans taken.toFinset_card_le
    rw [Finset.card_image_of_injOn hinj, Finset.card_range] at hcard
    omega
  classical
  refine ⟨Nat.find hfree, (Nat.find_spec hfree).1, (Nat.find_spec hfree).2, fun j hj => ?_⟩
  have hle := hj.le.trans (Nat.find_spec hfree).1
  by_contra hnot
  exact Nat.find_min hfree hj ⟨hle, hnot⟩

end Ovpnlane
