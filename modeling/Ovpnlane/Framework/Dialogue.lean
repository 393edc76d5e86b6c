import Mathlib.Tactic.Common

/-!
# Dialogues over a byte stream

A program that reads exact counts of bytes from a peer and writes bytes back.  The peer's side is
a `Wire`: the fragments in which its bytes are delivered, one a poll, whether it has closed its
half after them, and how many bytes it is still willing to take.  A `Dialogue` is a function of
the wire; it ends with a value or an error, or it is `waiting` for bytes that have not come.
A prefix of a stream is a stream, so what a dialogue has written when it is waiting is what it
writes before the next byte.

`readExact_spec` and `writeAll_open` say all there is to know of the two operations.  Both are
about the bytes that are `unread`, never about the fragments: a proof that uses nothing else holds
for every fragmentation.
-/

namespace Ovpnlane

/-- The peer's side of a connection. -/
structure Wire where
  /-- What each delivery brings; an empty one is a wake-up without bytes. -/
  fragments : List (List UInt8)
  /-- Whether the peer shuts its half down after the last fragment. -/
  closed : Bool
  /-- The number of bytes the peer still takes, `none` if it takes them all. -/
  room : Option ℕ
  written : List UInt8
  deriving DecidableEq

/-- How a dialogue ends. -/
inductive Outcome (ε α : Type)
  | done (a : α)
  | failed (error : ε)
  | waiting
  deriving DecidableEq

/-- A program that talks to a peer. -/
def Dialogue (ε α : Type) := Wire → Outcome ε α × Wire

namespace Wire

/-- A new connection to a peer that takes whatever is written. -/
def connect (fragments : List (List UInt8)) (closed : Bool) : Wire := ⟨fragments, closed, none, []⟩

/-- The bytes the peer sends from here on. -/
def unread (w : Wire) : List UInt8 := w.fragments.flatten

/-- The outcome of a read that finds too few bytes. -/
def starved {ε α : Type} (w : Wire) (eof : ε) : Outcome ε α :=
  if w.closed then .failed eof else .waiting

/-- From one wire to a later one, to a peer that takes everything: the bytes that were read and
the bytes that were written. -/
structure Moves (w w' : Wire) (read wrote : List UInt8) : Prop where
  open_ : w.room = none
  room : w'.room = none
  closed : w'.closed = w.closed
  unread : w.unread = read ++ w'.unread
  written : w'.written = w.written ++ wrote

variable {w w' w'' : Wire} {read read' wrote wrote' : List UInt8}

lemma Moves.refl (h : w.room = none) : w.Moves w [] [] := ⟨h, h, rfl, rfl, by simp⟩

lemma Moves.trans (h : w.Moves w' read wrote) (h' : w'.Moves w'' read' wrote') :
    w.Moves w'' (read ++ read') (wrote ++ wrote') where
  open_ := h.open_
  room := h'.room
  closed := h'.closed.trans h.closed
  unread := by rw [h.unread, h'.unread, List.append_assoc]
  written := by rw [h'.written, h.written, List.append_assoc]

lemma starved_ne_done {ε α : Type} (w : Wire) (eof : ε) (a : α) : w.starved eof ≠ .done a := by
  unfold starved
  split_ifs <;> simp

end Wire

namespace Dialogue

variable {ε α β : Type}

instance : Monad (Dialogue ε) where
  pure a := fun w => (.done a, w)
  bind x f := fun w =>
    match x w with
    | (.done a, w') => f a w'
    | (.failed error, w') => (.failed error, w')
    | (.waiting, w') => (.waiting, w')

/-- `return Err(error)`. -/
def fail (error : ε) : Dialogue ε α := fun w => (.failed error, w)

/-- The bytes a loop of `poll_read` fills a buffer of `n` bytes with, `none` if they run out first;
one fragment a round, of which a longer one keeps what the buffer had no room for. -/
def fill : (n : ℕ) → List (List UInt8) → Option { bytes : List UInt8 // bytes.length = n } ×
    List (List UInt8)
  | 0, fragments => (some ⟨[], rfl⟩, fragments)
  | _ + 1, [] => (none, [])
  | n + 1, fragment :: rest =>
    if h : n + 1 < fragment.length then
      (some ⟨fragment.take (n + 1), by simp; omega⟩, fragment.drop (n + 1) :: rest)
    else
      let (got, rest) := fill (n + 1 - fragment.length) rest
      (got.map fun got => ⟨fragment ++ got.1, by have := got.2; simp; omega⟩, rest)

/-- `read_exact` into a buffer of `n` bytes; `eof` is the error of a stream that ends first. -/
def readExact (eof : ε) (n : ℕ) : Dialogue ε { bytes : List UInt8 // bytes.length = n } := fun w =>
  match fill n w.fragments with
  | (some bytes, fragments) => (.done bytes, { w with fragments := fragments })
  | (none, fragments) => (w.starved eof, { w with fragments := fragments })

/-- `write_all`, with the error of a peer that stops taking bytes. -/
def writeAll (broken : ε) (bytes : List UInt8) : Dialogue ε Unit := fun w =>
  match w.room with
  | none => (.done (), { w with written := w.written ++ bytes })
  | some room =>
    let w' := { w with
      room := some (room - bytes.length), written := w.written ++ bytes.take room }
    if bytes.length ≤ room then (.done (), w') else (.failed broken, w')

/-- A dialogue under a time limit, which it exceeds exactly when it is left waiting. -/
def timeout (late : ε) (x : Dialogue ε α) : Dialogue ε α := fun w =>
  match x w with
  | (.waiting, w') => (.failed late, w')
  | result => result

/-! ## The rules -/

variable {w w' : Wire} {x : Dialogue ε α} {f : α → Dialogue ε β}

lemma bind_done {a : α} (h : x w = (.done a, w')) : (x >>= f) w = f a w' := by
  show (match x w with
    | (.done a, w') => f a w'
    | (.failed error, w') => (.failed error, w')
    | (.waiting, w') => (.waiting, w')) = _
  rw [h]

lemma bind_failed {error : ε} (h : x w = (.failed error, w')) :
    (x >>= f) w = (.failed error, w') := by
  show (match x w with
    | (.done a, w') => f a w'
    | (.failed error, w') => (.failed error, w')
    | (.waiting, w') => (.waiting, w')) = _
  rw [h]

lemma bind_starved {eof : ε} (h : x w = (w.starved eof, w')) :
    (x >>= f) w = (w.starved eof, w') := by
  show (match x w with
    | (.done a, w') => f a w'
    | (.failed error, w') => (.failed error, w')
    | (.waiting, w') => (.waiting, w')) = _
  rw [h]
  cases hclosed : w.closed <;> simp [Wire.starved, hclosed]

/-- A bind whose first part does not end with a value ends there. -/
lemma bind_stopped {o : Outcome ε α} (h : x w = (o, w')) (hstops : ∀ a, o ≠ .done a) :
    ∃ o' : Outcome ε β, (x >>= f) w = (o', w') ∧ ∀ b, o' ≠ .done b := by
  cases o with
  | done a => exact absurd rfl (hstops a)
  | failed error => exact ⟨_, bind_failed h, by simp⟩
  | waiting =>
    refine ⟨.waiting, ?_, by simp⟩
    show (match x w with
      | (.done a, w') => f a w'
      | (.failed error, w') => (.failed error, w')
      | (.waiting, w') => (.waiting, w')) = _
    rw [h]

lemma timeout_done {late : ε} {a : α} (h : x w = (.done a, w')) :
    timeout late x w = (.done a, w') := by
  unfold timeout
  rw [h]

/-- Under a time limit, a dialogue that does not end with a value fails. -/
lemma timeout_stopped {late : ε} {o : Outcome ε α} (h : x w = (o, w'))
    (hstops : ∀ a, o ≠ .done a) : ∃ error, timeout late x w = (.failed error, w') := by
  unfold timeout
  rw [h]
  cases o with
  | done a => exact absurd rfl (hstops a)
  | failed error => exact ⟨error, rfl⟩
  | waiting => exact ⟨late, rfl⟩

lemma fill_spec (n : ℕ) (fragments : List (List UInt8)) :
    (∃ bytes rest, fill n fragments = (some bytes, rest) ∧
        fragments.flatten = bytes.1 ++ rest.flatten) ∨
      fragments.flatten.length < n ∧ fill n fragments = (none, []) := by
  induction fragments generalizing n with
  | nil =>
    rcases n with _ | n
    · exact .inl ⟨_, _, rfl, rfl⟩
    · exact .inr ⟨by simp, rfl⟩
  | cons fragment rest ih =>
    rcases n with _ | n
    · exact .inl ⟨_, _, rfl, rfl⟩
    · by_cases hlong : n + 1 < fragment.length
      · left
        refine ⟨_, _, dif_pos hlong, ?_⟩
        rw [List.flatten_cons, List.flatten_cons, ← List.append_assoc, List.take_append_drop]
      · rcases ih (n + 1 - fragment.length) with ⟨bytes, rest', hfill, hrest⟩ | ⟨hshort, hfill⟩
        · left
          refine ⟨⟨fragment ++ bytes.1, by have := bytes.2; simp; omega⟩, rest', ?_, ?_⟩
          · simp only [fill, hlong, dif_neg, not_false_eq_true, hfill]
            rfl
          · rw [List.flatten_cons, hrest, List.append_assoc]
        · right
          refine ⟨by simp only [List.flatten_cons, List.length_append]; omega, ?_⟩
          simp only [fill, hlong, dif_neg, not_false_eq_true, hfill]
          rfl

/-- **Reading**, whatever the fragments: the next `n` bytes, or all there are when they are too
few. -/
theorem readExact_spec (eof : ε) (n : ℕ) (h : w.room = none) :
    (∃ bytes w', readExact eof n w = (.done bytes, w') ∧ w.Moves w' bytes.1 []) ∨
      w.unread.length < n ∧
        ∃ w', readExact eof n w = (w.starved eof, w') ∧ w.Moves w' w.unread [] := by
  unfold readExact
  rcases fill_spec n w.fragments with ⟨bytes, rest, hfill, hrest⟩ | ⟨hshort, hfill⟩
  · left
    rw [hfill]
    exact ⟨bytes, _, rfl, h, h, rfl, hrest, (List.append_nil _).symm⟩
  · right
    rw [hfill]
    exact ⟨hshort, _, rfl, h, h, rfl, (List.append_nil _).symm, (List.append_nil _).symm⟩

/-- Reading a count of bytes that are there. -/
lemma readExact_append {eof : ε} {n : ℕ} {bytes rest : List UInt8} (h : w.room = none)
    (hunread : w.unread = bytes ++ rest) (hlength : bytes.length = n) :
    ∃ w', readExact eof n w = (.done ⟨bytes, hlength⟩, w') ∧ w'.unread = rest ∧
      w.Moves w' bytes [] := by
  rcases readExact_spec eof n h with ⟨got, w', hread, hmoves⟩ | ⟨hshort, -⟩
  · obtain ⟨rfl, hrest⟩ := List.append_inj (hunread.symm.trans hmoves.unread)
      (hlength.trans got.2.symm)
    exact ⟨w', hread, hrest.symm, hmoves⟩
  · rw [hunread, List.length_append] at hshort
    omega

/-- **Writing** to a peer that takes everything. -/
theorem writeAll_open (broken : ε) (bytes : List UInt8) (h : w.room = none) :
    ∃ w', writeAll broken bytes w = (.done (), w') ∧ w'.unread = w.unread ∧
      w.Moves w' [] bytes := by
  refine ⟨{ w with written := w.written ++ bytes }, ?_, rfl, h, h, rfl, rfl, rfl⟩
  unfold writeAll
  rw [h]

end Dialogue

end Ovpnlane
