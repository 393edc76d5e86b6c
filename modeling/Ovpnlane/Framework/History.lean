import Mathlib.Data.List.Induction
import Mathlib.Tactic.Common

/-!
# Logs whose entries heed what came before

A component that keeps a log of what it did is specified by saying, for each entry, what the log
must have been when the entry was written: a stream is closed only after its end was read, nothing
is sent after it was closed, a reply is answered only once.  `Each P log` says that every entry of
`log` meets `P`, a condition on the entries before it and the entry itself.

The log grows at its end, so the proof obligation of a step is `each_concat`: the new entry meets
`P` of the whole log.  A reader of `Each` splits the log anywhere (`Each.at`, `Each.later`).

A component that summarises its log in a few flags is specified by the part that still counts:
`sinceLast` is the log from the last entry of a kind on, `LastOf` names the last entry of a kind
with what came before it.  Both are computed from the end (`sinceLast_concat`, `lastOf_concat`).
-/

namespace Ovpnlane

variable {α β : Type*} {P Q : List α → α → Prop}

/-- Every entry of the log meets `P`, a condition on the log before it. -/
def Each (P : List α → α → Prop) (log : List α) : Prop :=
  ∀ pre a post, log = pre ++ a :: post → P pre a

lemma each_nil : Each P [] := by
  intro pre a post h
  simp at h

lemma each_concat {log : List α} {a : α} : Each P (log ++ [a]) ↔ Each P log ∧ P log a := by
  constructor
  · intro h
    refine ⟨fun pre b post hb => h pre b (post ++ [a]) (by simp [hb]), h log a [] rfl⟩
  · rintro ⟨hlog, ha⟩ pre b post h
    rcases post.eq_nil_or_concat with rfl | ⟨post, c, rfl⟩
    · obtain ⟨rfl, rfl⟩ : log = pre ∧ a = b := by simpa using h
      exact ha
    · rw [List.concat_eq_append, ← List.cons_append, ← List.append_assoc] at h
      exact hlog pre b post (List.append_inj_left' h rfl)

lemma each_append {log more : List α} :
    Each P (log ++ more) ↔ Each P log ∧ Each (fun pre a => P (log ++ pre) a) more := by
  induction more using List.reverseRecOn with
  | nil => simp [each_nil]
  | append_singleton more a ih => rw [← List.append_assoc, each_concat, each_concat, ih, and_assoc]

lemma each_cons {log : List α} {a : α} :
    Each P (a :: log) ↔ P [] a ∧ Each (fun pre b => P (a :: pre) b) log := by
  rw [← List.singleton_append, each_append, ← List.nil_append [a], each_concat]
  simp [each_nil]

lemma each_map {f : β → α} {log : List β} :
    Each P (log.map f) ↔ Each (fun pre b => P (pre.map f) (f b)) log := by
  induction log using List.reverseRecOn with
  | nil => simp [each_nil]
  | append_singleton log b ih =>
      rw [List.map_append, List.map_singleton, each_concat, each_concat, ih]

/-- What an entry meets. -/
lemma Each.at {pre post : List α} {a : α} (h : Each P (pre ++ a :: post)) : P pre a :=
  h pre a post rfl

/-- What a later entry meets. -/
lemma Each.later {pre post : List α} {a b : α} (h : Each P (pre ++ a :: post)) (hb : b ∈ post) :
    ∃ mid, P (pre ++ a :: mid) b := by
  obtain ⟨mid, rest, rfl⟩ := List.append_of_mem hb
  exact ⟨mid, h (pre ++ a :: mid) b rest (by simp)⟩

lemma Each.of_mem {log : List α} {a : α} (h : Each P log) (ha : a ∈ log) : ∃ pre, P pre a := by
  obtain ⟨pre, post, rfl⟩ := List.append_of_mem ha
  exact ⟨pre, h.at⟩

lemma Each.mono {log : List α} (h : Each P log) (hPQ : ∀ pre a, P pre a → Q pre a) :
    Each Q log :=
  fun pre a post hlog => hPQ pre a (h pre a post hlog)

/-! ## The last entry of a kind -/

/-- The log from the last entry that meets `p` on; all of it when there is none. -/
def sinceLast (p : α → Bool) : List α → List α
  | [] => []
  | a :: log => if log.any p then sinceLast p log else a :: log

/-- `a` is the last entry of the log that meets `p`, and `pre` the log before it. -/
def LastOf (p : α → Bool) (log pre : List α) (a : α) : Prop :=
  ∃ post, log = pre ++ a :: post ∧ p a = true ∧ ∀ b ∈ post, p b = false

variable {p : α → Bool}

lemma sinceLast_concat {log : List α} {a : α} :
    sinceLast p (log ++ [a]) = if p a then [a] else sinceLast p log ++ [a] := by
  induction log with
  | nil => simp [sinceLast]
  | cons b log ih =>
    rw [List.cons_append, sinceLast, sinceLast, List.any_append, ih]
    by_cases ha : p a = true
    · simp [ha]
    · by_cases hlog : log.any p = true <;> simp [ha, hlog]

lemma sinceLast_suffix (log : List α) : sinceLast p log <:+ log := by
  induction log with
  | nil => exact List.suffix_refl []
  | cons a log ih =>
    rw [sinceLast]
    split
    · exact ih.trans (List.suffix_cons a log)
    · exact List.suffix_refl _

lemma not_lastOf_nil {pre : List α} {a : α} : ¬ LastOf p [] pre a := by
  rintro ⟨post, h, -⟩
  simp at h

lemma lastOf_concat {log pre : List α} {a b : α} :
    LastOf p (log ++ [b]) pre a ↔
      (p b = true ∧ pre = log ∧ a = b) ∨ (p b = false ∧ LastOf p log pre a) := by
  constructor
  · rintro ⟨post, hsplit, ha, hpost⟩
    rcases post.eq_nil_or_concat with rfl | ⟨post, c, rfl⟩
    · obtain ⟨rfl, rfl⟩ : log = pre ∧ b = a := by simpa using hsplit
      exact .inl ⟨ha, rfl, rfl⟩
    · rw [List.concat_eq_append, ← List.cons_append, ← List.append_assoc] at hsplit
      obtain ⟨rfl, hbc⟩ := List.append_inj' hsplit rfl
      obtain rfl : b = c := by simpa using hbc
      exact .inr ⟨hpost b (by simp), post, rfl, ha, fun d hd => hpost d (by simp [hd])⟩
  · rintro (⟨hb, rfl, rfl⟩ | ⟨hb, post, rfl, ha, hpost⟩)
    · exact ⟨[], rfl, hb, by simp⟩
    · refine ⟨post ++ [b], by simp, ha, fun c hc => ?_⟩
      rcases List.mem_append.mp hc with hc | hc
      · exact hpost c hc
      · rw [List.mem_singleton.mp hc]
        exact hb

lemma exists_lastOf {log : List α} (h : ∃ a ∈ log, p a = true) : ∃ pre a, LastOf p log pre a := by
  induction log using List.reverseRecOn with
  | nil => simp at h
  | append_singleton log b ih =>
    by_cases hb : p b = true
    · exact ⟨log, b, lastOf_concat.mpr (.inl ⟨hb, rfl, rfl⟩)⟩
    · rw [Bool.not_eq_true] at hb
      obtain ⟨a, ha, hpa⟩ := h
      rcases List.mem_append.mp ha with ha | ha
      · obtain ⟨pre, a, hlast⟩ := ih ⟨a, ha, hpa⟩
        exact ⟨pre, a, lastOf_concat.mpr (.inr ⟨hb, hlast⟩)⟩
      · rw [List.mem_singleton.mp ha, hb] at hpa
        contradiction

/-- Entries of another kind come after it. -/
lemma LastOf.append {log more pre : List α} {a : α} (h : LastOf p log pre a)
    (hmore : ∀ b ∈ more, p b = false) : LastOf p (log ++ more) pre a := by
  obtain ⟨post, rfl, ha, hpost⟩ := h
  refine ⟨post ++ more, by simp, ha, fun b hb => ?_⟩
  rcases List.mem_append.mp hb with hb | hb
  · exact hpost b hb
  · exact hmore b hb

lemma LastOf.holds {log pre : List α} {a : α} (h : LastOf p log pre a) : p a = true :=
  h.choose_spec.2.1

end Ovpnlane
