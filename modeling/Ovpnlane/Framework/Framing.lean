import Mathlib.Data.List.Basic
import Mathlib.Tactic.Common

/-!
# Framing of texts

When a text that was put together from parts can be taken apart again.  Two parts joined by a
separator can be recovered only if the separator is not in them; `append_cons_eq_append_cons_iff`
says what else can have happened.  A code whose words can be told apart at the front of a text
(`PrefixCode`) makes the concatenation of any number of code words unambiguous
(`PrefixCode.flatMap_injective`).
-/

namespace Ovpnlane

variable {α β : Type*}

/-! ## A separator -/

/-- Two readings of a text with a separator: the same, or one cuts the text at a later separator
than the other. -/
lemma append_cons_eq_append_cons_iff {sep : α} {xs ys xs' ys' : List α} :
    xs ++ sep :: ys = xs' ++ sep :: ys' ↔
      (xs = xs' ∧ ys = ys') ∨ (∃ w, xs' = xs ++ sep :: w ∧ ys = w ++ sep :: ys') ∨
        ∃ w, xs = xs' ++ sep :: w ∧ ys' = w ++ sep :: ys := by
  constructor
  · intro h
    rcases List.append_eq_append_iff.mp h with ⟨w, hxs, hys⟩ | ⟨w, hxs, hys⟩
    · cases w with
      | nil => exact .inl ⟨by simpa using hxs.symm, by simpa using hys⟩
      | cons c w =>
        obtain ⟨rfl, hrest⟩ := List.cons_eq_cons.mp hys
        exact .inr (.inl ⟨w, hxs, hrest⟩)
    · cases w with
      | nil => exact .inl ⟨by simpa using hxs, by simpa using hys.symm⟩
      | cons c w =>
        obtain ⟨rfl, hrest⟩ := List.cons_eq_cons.mp hys
        exact .inr (.inr ⟨w, hxs, hrest⟩)
  · rintro (⟨rfl, rfl⟩ | ⟨w, rfl, rfl⟩ | ⟨w, rfl, rfl⟩) <;> simp

/-- What stands before the first separator, and what stands after it. -/
lemma append_cons_inj {sep : α} {xs ys xs' ys' : List α} (hxs : sep ∉ xs) (hxs' : sep ∉ xs')
    (h : xs ++ sep :: ys = xs' ++ sep :: ys') : xs = xs' ∧ ys = ys' := by
  rcases append_cons_eq_append_cons_iff.mp h with hsame | ⟨w, rfl, -⟩ | ⟨w, rfl, -⟩
  · exact hsame
  · simp at hxs'
  · simp at hxs

/-! ## Prefix codes -/

/-- The first code word of a text is known whatever follows it. -/
def PrefixCode (code : α → List β) : Prop := ∀ a b r s, code a ++ r = code b ++ s → a = b

/-- **A text of code words is read in one way.** -/
theorem PrefixCode.flatMap_injective {code : α → List β} (h : PrefixCode code)
    (hne : ∀ a, code a ≠ []) : Function.Injective (List.flatMap code) := by
  intro as
  induction as with
  | nil =>
    rintro (_ | ⟨b, bs⟩) heq
    · rfl
    · exact absurd (List.append_eq_nil_iff.mp heq.symm).1 (hne b)
  | cons a as ih =>
    rintro (_ | ⟨b, bs⟩) heq
    · exact absurd (List.append_eq_nil_iff.mp heq).1 (hne a)
    · simp only [List.flatMap_cons] at heq
      obtain rfl := h a b _ _ heq
      rw [ih (List.append_cancel_left heq)]

end Ovpnlane
