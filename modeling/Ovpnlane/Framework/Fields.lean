import Mathlib.Data.List.Basic
import Mathlib.Tactic.Common

/-!
# Fields

The fields of a text are the runs of characters between separators: `fields sep` is `List.splitOnP`
without the empty pieces.  Put together they are the text without its separators
(`flatten_fields`).

The last part compares two ways of separating, of which one has fewer separators than the other:
they agree on a text if the fields of the first have no separators of the second
(`fields_eq_of_forall`), and the fields of the second are what those of the first leave
(`filter_flatten_fields`).
-/

namespace Ovpnlane

variable {α : Type*} {sep : α → Bool}

/-- The maximal runs of characters that are not separators. -/
def fields (sep : α → Bool) (cs : List α) : List (List α) :=
  (cs.splitOnP sep).filter (!·.isEmpty)

/-- A separator ends a field. -/
lemma fields_append_cons {c : α} (hc : sep c = true) (cs cs' : List α) :
    fields sep (cs ++ c :: cs') = fields sep cs ++ fields sep cs' := by
  rw [fields, List.splitOnP_append_cons cs cs' hc, List.filter_append]
  rfl

lemma fields_of_forall {cs : List α} (h : ∀ c ∈ cs, sep c = false) (hne : cs ≠ []) :
    fields sep cs = [cs] := by
  rw [fields, List.splitOnP_eq_singleton h]
  simp [hne]

/-- Two ways of separating that agree on the text give the same fields. -/
lemma fields_congr {sep' : α → Bool} {cs : List α} (h : ∀ c ∈ cs, sep c = sep' c) :
    fields sep cs = fields sep' cs := by
  have hsplit : cs.splitOnP sep = cs.splitOnP sep' := by
    induction cs with
    | nil => rfl
    | cons c cs ih =>
      rw [List.forall_mem_cons] at h
      rw [List.splitOnP_cons_eq_if_modifyHead, List.splitOnP_cons_eq_if_modifyHead, h.1, ih h.2]
  rw [fields, fields, hsplit]

/-- The fields hold everything but the separators. -/
lemma flatten_fields (cs : List α) : (fields sep cs).flatten = cs.filter (!sep ·) := by
  have hempty : ∀ pieces : List (List α),
      (pieces.filter (!·.isEmpty)).flatten = pieces.flatten := by
    intro pieces
    induction pieces with
    | nil => rfl
    | cons piece pieces ih => cases piece <;> simp [ih]
  rw [fields, hempty]
  induction cs with
  | nil => rfl
  | cons c cs ih =>
    rw [List.splitOnP_cons_eq_if_modifyHead, List.filter_cons]
    cases hc : sep c with
    | true => simpa using ih
    | false =>
      obtain ⟨piece, pieces, hsplit⟩ := List.exists_cons_of_ne_nil (List.splitOnP_ne_nil sep cs)
      rw [hsplit] at ih ⊢
      simpa using ih

/-- No field has a separator. -/
lemma sep_of_mem_fields {cs field : List α} {c : α} (hfield : field ∈ fields sep cs)
    (hc : c ∈ field) : sep c = false := by
  have hmem : c ∈ (fields sep cs).flatten := List.mem_flatten.mpr ⟨field, hfield, hc⟩
  rw [flatten_fields, List.mem_filter] at hmem
  simpa using hmem.2

/-! ## Fewer separators -/

variable {sep' : α → Bool}

lemma fields_eq_of_forall {cs : List α} (hsep : ∀ c, sep c = true → sep' c = true)
    (hnone : ∀ field ∈ fields sep cs, ∀ c ∈ field, sep' c = false) :
    fields sep' cs = fields sep cs := by
  refine fields_congr fun c hc => ?_
  cases hc' : sep c with
  | true => exact hsep c hc'
  | false =>
    have hmem : c ∈ (fields sep cs).flatten := by
      rw [flatten_fields, List.mem_filter]
      exact ⟨hc, by rw [hc']; rfl⟩
    obtain ⟨field, hfield, hcfield⟩ := List.mem_flatten.mp hmem
    exact hnone field hfield c hcfield

lemma filter_flatten_fields (hsep : ∀ c, sep c = true → sep' c = true) (cs : List α) :
    (fields sep cs).flatten.filter (!sep' ·) = (fields sep' cs).flatten := by
  rw [flatten_fields, flatten_fields, List.filter_filter]
  refine List.filter_congr fun c _ => ?_
  cases hc : sep c with
  | true => rw [hsep c hc]; rfl
  | false => rw [Bool.not_false, Bool.and_true]

end Ovpnlane
