import Mathlib.Data.List.Perm.Basic
import Mathlib.Tactic.Common

/-!
# Tokens that are spent once

A linear value (a reply that must be sent, a permit that must be returned) is held by one party at a
time until it is spent.  A log records the spending: `spent e` are the tokens an entry spends.
`Accounts spent before es after` says that the entries `es` account for every token: what was held
before is, as a multiset, what is held after together with what the entries spent.

Accounts compose (`Accounts.trans`), hold beside tokens nobody touches (`Accounts.frame`), and do
not depend on the order tokens are listed in (`Accounts.perm`).  When the tokens are distinct, no
token is held twice, spent twice, or held after it was spent (`Accounts.nodup`).
-/

namespace Ovpnlane

variable {τ ε : Type*} {spent : ε → List τ} {before mid after rest : List τ} {es es' : List ε}

/-- What was held before is held after or was spent. -/
def Accounts (spent : ε → List τ) (before : List τ) (es : List ε) (after : List τ) : Prop :=
  before.Perm (after ++ es.flatMap spent)

namespace Accounts

lemma refl (held : List τ) : Accounts spent held [] held := by
  simp [Accounts]

/-- Entries that spend nothing. -/
lemma idle (h : es.flatMap spent = []) : Accounts spent before es before := by
  simp [Accounts, h]

lemma trans (h : Accounts spent before es mid) (h' : Accounts spent mid es' after) :
    Accounts spent before (es ++ es') after := by
  have hmid : (mid ++ es.flatMap spent).Perm (after ++ es'.flatMap spent ++ es.flatMap spent) :=
    h'.append_right _
  apply (List.Perm.trans h hmid).trans
  rw [List.flatMap_append, List.append_assoc]
  exact List.perm_append_comm.append_left _

lemma perm {before' after' : List τ} (h : Accounts spent before es after)
    (hb : before'.Perm before) (ha : after.Perm after') : Accounts spent before' es after' :=
  (hb.trans h).trans (ha.append_right _)

/-- Beside tokens nobody touches. -/
lemma frame (h : Accounts spent before es after) (rest : List τ) :
    Accounts spent (before ++ rest) es (after ++ rest) := by
  apply (h.append_right rest).trans
  rw [List.append_assoc, List.append_assoc]
  exact List.perm_append_comm.append_left _

/-- Distinct tokens are held or spent, not both, and once. -/
lemma nodup (h : Accounts spent before es after) (hb : before.Nodup) :
    (after ++ es.flatMap spent).Nodup :=
  (List.Perm.nodup_iff h).mp hb

/-- What was spent is not held. -/
lemma not_mem_of_spent {t : τ} (h : Accounts spent before es after) (hb : before.Nodup)
    (ht : t ∈ es.flatMap spent) : t ∉ after :=
  fun hmem => (List.nodup_append.mp (h.nodup hb)).2.2 t hmem t ht rfl

end Accounts

end Ovpnlane
