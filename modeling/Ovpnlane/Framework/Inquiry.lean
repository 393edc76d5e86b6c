import Ovpnlane.Framework.Fallible

/-!
# Programs that ask

A program that gets all it knows of the world by asking: an `Inquiry` asks a question of `Q`, goes
on with an answer of the type that belongs to it, and ends with a value or an error.

`After p log q` says that `p` has come to `q` when its questions so far, with their answers, are
`log`.  Nothing is assumed of the answers, so what holds of every log holds whatever the world does,
and also when the program is stopped at a question.  `Obeys` checks a program against `Terms`, which
say what may be asked after a log and what has to hold at the end; there is one rule for each way to
build a program, and `Obeys.after` is what it says of logs.
-/

namespace Ovpnlane

/-- A program that asks questions; `R q` are the answers to `q`. -/
inductive Inquiry (Q : Type) (R : Q → Type) (ε α : Type)
  | done (a : α)
  | failed (e : ε)
  | ask (q : Q) (next : R q → Inquiry Q R ε α)

namespace Inquiry

variable {Q : Type} {R : Q → Type} {ε α β : Type}

def bind : Inquiry Q R ε α → (α → Inquiry Q R ε β) → Inquiry Q R ε β
  | .done a, f => f a
  | .failed e, _ => .failed e
  | .ask q next, f => .ask q fun r => (next r).bind f

/-- What is done with an error. -/
def recover : Inquiry Q R ε α → (ε → Inquiry Q R ε α) → Inquiry Q R ε α
  | .done a, _ => .done a
  | .failed e, f => f e
  | .ask q next, f => .ask q fun r => (next r).recover f

instance : Monad (Inquiry Q R ε) where
  pure := .done
  bind := bind

instance : MonadExceptOf ε (Inquiry Q R ε) where
  throw := .failed
  tryCatch := recover

instance : MonadLift (Except ε) (Inquiry Q R ε) where
  monadLift x :=
    match x with
    | .ok a => .done a
    | .error e => .failed e

/-- A question. -/
def question (q : Q) : Inquiry Q R ε (R q) := .ask q .done

/-- Questions with their answers, in order. -/
abbrev Log (R : Q → Type) := List ((q : Q) × R q)

/-- Where a program is after a log. -/
inductive After (p : Inquiry Q R ε α) : Log R → Inquiry Q R ε α → Prop
  | start : After p [] p
  | answer {log : Log R} {q : Q} {next : R q → Inquiry Q R ε α} (h : After p log (.ask q next))
      (r : R q) : After p (log ++ [⟨q, r⟩]) (next r)

/-- A question that a program asks after a log. -/
def Asks (p : Inquiry Q R ε α) (log : Log R) (q : Q) : Prop := ∃ next, p.After log (.ask q next)

/-- What is asked of a program. -/
structure Terms (R : Q → Type) (ε α : Type) where
  asks : Log R → Q → Prop
  done : Log R → α → Prop
  failed : Log R → ε → Prop

/-- Whether a program keeps the terms after a log, whatever it is answered. -/
def Obeys (T : Terms R ε α) : Inquiry Q R ε α → Log R → Prop
  | .done a, log => T.done log a
  | .failed e, log => T.failed log e
  | .ask q next, log => T.asks log q ∧ ∀ r, (next r).Obeys T (log ++ [⟨q, r⟩])

variable {p p' : Inquiry Q R ε α} {log log' : Log R} {T : Terms R ε α}

lemma Obeys.after (h : p.Obeys T log) (hafter : p.After log' p') : p'.Obeys T (log ++ log') := by
  induction hafter with
  | start => simpa using h
  | answer hbefore r ih =>
    have hnext := ih.2 r
    rwa [List.append_assoc] at hnext

/-- The terms hold of every question. -/
lemma Obeys.asks (h : p.Obeys T []) {q : Q} (hasks : p.Asks log q) : T.asks log q := by
  obtain ⟨next, hafter⟩ := hasks
  exact (h.after hafter).1

/-- What has been answered was asked, after the log before it. -/
lemma After.asked (h : p.After log p') {entry : (q : Q) × R q} (hmem : entry ∈ log) :
    ∃ before, before ++ [entry] <+: log ∧ p.Asks before entry.1 := by
  induction h with
  | start => cases hmem
  | @answer log q next hbefore r ih =>
    rcases List.mem_append.mp hmem with hmem | hmem
    · obtain ⟨before, hprefix, hasks⟩ := ih hmem
      exact ⟨before, hprefix.trans (List.prefix_append _ _), hasks⟩
    · obtain rfl := List.mem_singleton.mp hmem
      exact ⟨log, List.prefix_rfl, next, hbefore⟩

/-- And of every end. -/
lemma Obeys.done (h : p.Obeys T []) {a : α} (hafter : p.After log (.done a)) : T.done log a :=
  h.after hafter

/-! ## Rules -/

lemma obeys_lift {x : Except ε α} : (liftM x : Inquiry Q R ε α).Obeys T log ↔
    (∀ a, x = .ok a → T.done log a) ∧ ∀ e, x = .error e → T.failed log e := by
  cases x with
  | ok a => exact ⟨fun h => ⟨fun b hb => by cases hb; exact h, by simp⟩, fun h => h.1 a rfl⟩
  | error e => exact ⟨fun h => ⟨by simp, fun e' he => by cases he; exact h⟩, fun h => h.2 e rfl⟩

lemma obeys_ensure {condition : Bool} {e : ε} {T : Terms R ε Unit} :
    (ensure condition e : Inquiry Q R ε Unit).Obeys T log ↔
      (condition = true → T.done log ()) ∧ (condition = false → T.failed log e) := by
  cases condition with
  | true => exact ⟨fun h => ⟨fun _ => h, by simp⟩, fun h => h.1 rfl⟩
  | false => exact ⟨fun h => ⟨by simp, fun _ => h⟩, fun h => h.2 rfl⟩

/-- One program after the other. -/
lemma obeys_bind {f : α → Inquiry Q R ε β} {T : Terms R ε β} :
    (p >>= f).Obeys T log ↔
      p.Obeys ⟨T.asks, fun log a => (f a).Obeys T log, T.failed⟩ log := by
  induction p generalizing log with
  | done a => exact Iff.rfl
  | failed e => exact Iff.rfl
  | ask q next ih => exact and_congr_right fun _ => forall_congr' fun r => ih r

lemma Obeys.mono {T' : Terms R ε α} (h : p.Obeys T log)
    (hasks : ∀ log q, T.asks log q → T'.asks log q)
    (hdone : ∀ log a, T.done log a → T'.done log a)
    (hfailed : ∀ log e, T.failed log e → T'.failed log e) : p.Obeys T' log := by
  induction p generalizing log with
  | done a => exact hdone _ _ h
  | failed e => exact hfailed _ _ h
  | ask q next ih => exact ⟨hasks _ _ h.1, fun r => ih r (h.2 r)⟩

/-- What is in the log stays there. -/
lemma Obeys.extends (h : p.Obeys T log) :
    p.Obeys ⟨T.asks, fun log' a => log <+: log' ∧ T.done log' a, T.failed⟩ log := by
  induction p generalizing log with
  | done a => exact ⟨List.prefix_rfl, h⟩
  | failed e => exact h
  | ask q next ih =>
    refine ⟨h.1, fun r => (ih r (h.2 r)).mono (fun _ _ => id) ?_ fun _ _ => id⟩
    exact fun _ _ ⟨hbefore, hdone⟩ => ⟨(List.prefix_append _ _).trans hbefore, hdone⟩

/-- One program after the other, from what the first one leaves. -/
lemma obeys_then {f : α → Inquiry Q R ε β} (mid : Log R → α → Prop) {T : Terms R ε β}
    (hp : p.Obeys ⟨T.asks, mid, T.failed⟩ log)
    (hf : ∀ log' a, log <+: log' → mid log' a → (f a).Obeys T log') : (p >>= f).Obeys T log :=
  obeys_bind.mpr (hp.extends.mono (fun _ _ => id) (fun _ _ ⟨hbefore, hmid⟩ => hf _ _ hbefore hmid)
    fun _ _ => id)

/-! ## Logs of a part -/

/-- A program keeps to its own logs. -/
lemma obeys_self (p : Inquiry Q R ε α) (log : Log R) :
    p.Obeys ⟨fun _ _ => True, fun whole a => ∃ log', whole = log ++ log' ∧ p.After log' (.done a),
      fun _ _ => True⟩ log := by
  suffices h : ∀ (p' : Inquiry Q R ε α) log', p.After log' p' → p'.Obeys
      ⟨fun _ _ => True, fun whole a => ∃ log', whole = log ++ log' ∧ p.After log' (.done a),
        fun _ _ => True⟩ (log ++ log') by
    simpa using h p [] .start
  intro p'
  induction p' with
  | done a => exact fun log' h => ⟨log', rfl, h⟩
  | failed e => exact fun _ _ => trivial
  | ask q next ih =>
    refine fun log' h => ⟨trivial, fun r => ?_⟩
    have hnext := ih r (log' ++ [⟨q, r⟩]) (h.answer r)
    rwa [← List.append_assoc] at hnext

/-- The log of two programs in a row. -/
lemma After.bind {f : α → Inquiry Q R ε β} {b : β} (h : (p >>= f).After log (.done b)) :
    ∃ first second a, log = first ++ second ∧ p.After first (.done a) ∧
      (f a).After second (.done b) := by
  have hobeys : (p >>= f).Obeys ⟨fun _ _ => True, fun whole b => ∃ first second a,
      whole = first ++ second ∧ p.After first (.done a) ∧ (f a).After second (.done b),
      fun _ _ => True⟩ [] := by
    refine obeys_then _ (obeys_self p []) fun first a _ ⟨first', hfirst, hp⟩ => ?_
    obtain rfl : first = first' := hfirst
    exact (obeys_self (f a) first).mono (fun _ _ => id)
      (fun _ b ⟨second, hwhole, hf⟩ => ⟨first, second, a, hwhole, hp, hf⟩) fun _ _ => id
  exact hobeys.done h

lemma After.ensure {condition : Bool} {e : ε}
    (h : (ensure condition e : Inquiry Q R ε Unit).After log (.done ())) :
    log = [] ∧ condition = true := by
  have hobeys : (Ovpnlane.ensure condition e : Inquiry Q R ε Unit).Obeys
      ⟨fun _ _ => True, fun log _ => log = [] ∧ condition = true, fun _ _ => True⟩ [] :=
    obeys_ensure.mpr ⟨fun hcondition => ⟨rfl, hcondition⟩, fun _ => trivial⟩
  exact hobeys.done h

/-! ## A world that answers alike -/

/-- The log in such a world, from a log on, and how the program ends. -/
def meet (world : (q : Q) → R q) : Inquiry Q R ε α → Log R → Log R × Except ε α
  | .done a, log => (log, .ok a)
  | .failed e, log => (log, .error e)
  | .ask q next, log => (next (world q)).meet world (log ++ [⟨q, world q⟩])

variable {world : (q : Q) → R q}

lemma After.meet (h : p.After log p') {a : α} (hdone : (p'.meet world log).2 = .ok a) :
    p.After (p'.meet world log).1 (.done a) := by
  induction p' generalizing log with
  | done b =>
    obtain rfl : b = a := Except.ok.inj hdone
    exact h
  | failed e => cases hdone
  | ask q next ih => exact ih (world q) (h.answer (world q)) hdone

/-- Each answer is that of the world. -/
lemma answer_of_meet {entry : (q : Q) × R q} (h : entry ∈ (p.meet world log).1) :
    entry ∈ log ∨ entry.2 = world entry.1 := by
  induction p generalizing log with
  | done a => exact .inl h
  | failed e => exact .inl h
  | ask q next ih =>
    rcases ih _ h with hmem | hworld
    · rcases List.mem_append.mp hmem with hmem | hmem
      · exact .inl hmem
      · obtain rfl := List.mem_singleton.mp hmem
        exact .inr rfl
    · exact .inr hworld

end Inquiry

end Ovpnlane
