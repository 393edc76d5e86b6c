import Mathlib.Data.List.Destutter

/-!
# Removing repetitions

Two ways to drop the repetitions of a list: `List.destutter (· ≠ ·)` compares neighbours only,
`List.eraseDups` keeps the first occurrence of every element.  They agree exactly on the lists in
which equal elements stand together.

* `Grouped`: no element comes back after a different one.
* `nodup_destutter_iff`: comparing neighbours leaves no repetition exactly on grouped lists.
* `nodup_and_destutter_eq_eraseDups_iff`: and there it yields the list of first occurrences.
-/

namespace Ovpnlane

variable {α : Type*} [DecidableEq α]

/-- Equal elements stand together: once the run of an element is over, it does not come back. -/
def Grouped : List α → Prop
  | [] => True
  | a :: l => a ∉ l.dropWhile (· = a) ∧ Grouped l

instance Grouped.decidable : (l : List α) → Decidable (Grouped l)
  | [] => .isTrue trivial
  | _ :: l => @instDecidableAnd _ _ _ (Grouped.decidable l)

namespace Grouped

lemma cons_self {a : α} {l : List α} : Grouped (a :: a :: l) ↔ Grouped (a :: l) := by
  simp only [Grouped, List.dropWhile_cons, decide_true, if_true]
  exact ⟨And.right, fun h => ⟨h.1, h⟩⟩

lemma cons_of_ne {a b : α} {l : List α} (h : a ≠ b) :
    Grouped (a :: b :: l) ↔ a ∉ b :: l ∧ Grouped (b :: l) := by
  have hkept : (b :: l).dropWhile (· = a) = b :: l := by simp [h.symm]
  rw [Grouped, hkept]

end Grouped

/-! ## Comparing neighbours -/

lemma destutter_cons_self (a : α) (l : List α) :
    (a :: a :: l).destutter (· ≠ ·) = (a :: l).destutter (· ≠ ·) := by
  rw [List.destutter_cons_cons, if_neg (not_not.mpr rfl), List.destutter_cons']

lemma destutter_cons_of_ne {a b : α} (h : a ≠ b) (l : List α) :
    (a :: b :: l).destutter (· ≠ ·) = a :: (b :: l).destutter (· ≠ ·) := by
  rw [List.destutter_cons_cons, if_pos h, List.destutter_cons']

/-- Comparing neighbours loses no element. -/
lemma mem_destutter {x : α} {l : List α} : x ∈ l.destutter (· ≠ ·) ↔ x ∈ l := by
  refine ⟨fun h => (List.destutter_sublist _ l).subset h, fun h => ?_⟩
  induction l with
  | nil => exact h
  | cons a l ih =>
    rcases l with _ | ⟨b, l⟩
    · exact h
    · by_cases hab : a = b
      · subst hab
        rw [destutter_cons_self]
        exact ih (by simpa using h)
      · rw [destutter_cons_of_ne hab]
        rcases List.mem_cons.mp h with rfl | hrest
        · exact List.mem_cons_self
        · exact List.mem_cons_of_mem _ (ih hrest)

/-- **Comparing neighbours leaves no repetition exactly on grouped lists.** -/
theorem nodup_destutter_iff {l : List α} : (l.destutter (· ≠ ·)).Nodup ↔ Grouped l := by
  induction l with
  | nil => simp [Grouped]
  | cons a l ih =>
    rcases l with _ | ⟨b, l⟩
    · simp [Grouped]
    · by_cases hab : a = b
      · subst hab
        rw [destutter_cons_self, Grouped.cons_self, ih]
      · rw [destutter_cons_of_ne hab, Grouped.cons_of_ne hab, List.nodup_cons, mem_destutter, ih]

/-! ## Keeping first occurrences -/

lemma eraseDups_cons_self (a : α) (l : List α) : (a :: a :: l).eraseDups = (a :: l).eraseDups := by
  rw [List.eraseDups_cons, List.eraseDups_cons]
  simp

lemma eraseDups_cons_of_notMem {a : α} {l : List α} (h : a ∉ l) :
    (a :: l).eraseDups = a :: l.eraseDups := by
  have hkept : l.filter (fun b => !b == a) = l := by
    rw [List.filter_eq_self]
    intro b hb
    have hne : b ≠ a := fun heq => h (heq ▸ hb)
    simpa using hne
  rw [List.eraseDups_cons, hkept]

lemma destutter_eq_eraseDups {l : List α} (h : Grouped l) :
    l.destutter (· ≠ ·) = l.eraseDups := by
  induction l with
  | nil => rfl
  | cons a l ih =>
    rcases l with _ | ⟨b, l⟩
    · rfl
    · by_cases hab : a = b
      · subst hab
        rw [destutter_cons_self, eraseDups_cons_self]
        exact ih (Grouped.cons_self.mp h)
      · obtain ⟨hnot, hrest⟩ := (Grouped.cons_of_ne hab).mp h
        rw [destutter_cons_of_ne hab, eraseDups_cons_of_notMem hnot, ih hrest]

/-- **The two agree exactly on grouped lists.** -/
theorem nodup_and_destutter_eq_eraseDups_iff {l : List α} :
    (l.destutter (· ≠ ·)).Nodup ∧ l.destutter (· ≠ ·) = l.eraseDups ↔ Grouped l :=
  ⟨fun h => nodup_destutter_iff.mp h.1,
    fun h => ⟨nodup_destutter_iff.mpr h, destutter_eq_eraseDups h⟩⟩

end Ovpnlane
