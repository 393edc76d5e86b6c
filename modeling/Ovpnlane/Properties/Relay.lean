import Ovpnlane.Construction.Netstack.Flow
import Ovpnlane.Framework.Transition
import Ovpnlane.Framework.Fallible
import Mathlib.Logic.Relation

/-!
# A flow as a relay

What a flow is for, without its rounds, timeouts and early returns: it answers one request, carries
bytes from a socket to a bridge and from the bridge to the socket, and ends each direction once.
`Relay` is the state that statement needs (the socket, the bridge, the open request, and how far
each direction has come) and `Relay.Step` says which call is possible in which state and what it
does.  A call carries the socket it was made on, so a run of `relaySystem` is a trace whose calls
follow from each other.

The refinement is `Polling.poll_leads`: the calls of every `Flow::poll` are a run of the relay from
the flow's state before the poll to its state after it.  It is assembled from one lemma a part of
the poll; whatever is stated about the calls of a flow goes through the relay and never through the
code of the poll again.
-/

namespace Ovpnlane

variable {B : Backend}

/-! ## The abstract machine -/

/-- How far the direction from the client to the remote has come. -/
inductive Upstream
  /-- The bridge may have more. -/
  | flowing
  /-- The bridge has reported its end. -/
  | ended
  /-- The socket has been closed for sending. -/
  | closed
  deriving DecidableEq, Repr

/-- The state of a relay; `shut` says that the bridge's write half has been shut down. -/
structure Relay (B : Backend) where
  socket : B.Socket
  bridge : B.Stream
  reply : Option Reply
  upstream : Upstream
  shut : Bool

/-- A shutdown that is complete. -/
def Poll.isDone : Poll (Except IoError Unit) → Bool
  | .ready (.ok _) => true
  | _ => false

/-- A read into a buffer that returned without filling a byte of it: the end of the stream. -/
def Poll.isEnd : Poll (Except IoError (List UInt8)) → Bool
  | .ready (.ok []) => true
  | _ => false

/-- Which calls a relay makes, and what they do. -/
def Relay.Step (r : Relay B) : FlowCall B → Relay B → Prop
  | .isClosed reply _, r' => r.reply = some reply ∧ r' = r
  | .sendReply s reply answer _, r' =>
    s = r.socket ∧ r.reply = some reply ∧ (∀ c, answer = .ok c → B.state s = .established) ∧
      r' = { r with reply := none }
  | .recv s data wrote count, r' =>
    s = r.socket ∧ r.reply = none ∧ r.shut = false ∧ B.canRecv s = true ∧
      B.recvSlice s = some data ∧ wrote = (B.pollWrite r.bridge data).1 ∧
      count = (Polling.writeOutcome wrote).1 ∧
      r' = { r with socket := B.dequeue s count, bridge := (B.pollWrite r.bridge data).2 }
  | .recvError s, r' =>
    s = r.socket ∧ B.canRecv s = true ∧ B.recvSlice s = none ∧ r' = r
  | .shutdown s result, r' =>
    s = r.socket ∧ r.reply = none ∧ r.shut = false ∧ B.mayRecv s = false ∧
      result = (B.pollShutdown r.bridge).1 ∧
      r' = { r with bridge := (B.pollShutdown r.bridge).2, shut := result.isDone }
  | .send s room read count, r' =>
    s = r.socket ∧ r.reply = none ∧ r.upstream = .flowing ∧ B.canSend s = true ∧
      B.sendSlice s = some room ∧ read = (B.pollRead r.bridge room).1 ∧
      count = (Polling.readOutcome read).1 ∧
      r' = { r with
        socket := B.enqueue s ((Polling.readOutcome read).2.1.take count)
        bridge := (B.pollRead r.bridge room).2
        upstream := if read.isEnd then .ended else .flowing }
  | .sendError s, r' =>
    s = r.socket ∧ B.canSend s = true ∧ B.sendSlice s = none ∧ r' = r
  | .close s, r' =>
    s = r.socket ∧ r.upstream = .ended ∧
      r' = { r with socket := B.close s, upstream := .closed }
  | .abort s, r' => s = r.socket ∧ r' = { r with socket := B.abort s }

/-- The relay as a system. -/
def relaySystem (B : Backend) : System (Relay B) (FlowCall B) where
  init _ := True
  step := Relay.Step

/-! ## A poll is a run of the relay -/

namespace Polling

/-- The relay a poll is at. -/
def relay (p : Polling B) : Relay B where
  socket := p.socket
  bridge := p.flow.bridge
  reply := p.flow.reply
  upstream := if p.flow.readClosed then .closed else .flowing
  shut := p.flow.writeClosed

@[simp] lemma shutdown_relay (p : Polling B) :
    p.shutdown.relay = { p.relay with bridge := (B.pollShutdown p.flow.bridge).2 } := rfl

@[simp] lemma setWriteClosed_relay (p : Polling B) :
    p.setWriteClosed.relay = { p.relay with shut := true } := rfl

@[simp] lemma send_relay (p : Polling B) (room : ℕ) :
    (p.send room).2.relay = { p.relay with
      socket := B.enqueue p.socket ((readOutcome (B.pollRead p.flow.bridge room).1).2.1.take
        (readOutcome (B.pollRead p.flow.bridge room).1).1)
      bridge := (B.pollRead p.flow.bridge room).2 } := rfl

lemma upstream_of_open {p : Polling B} (h : p.flow.readClosed = false) :
    p.relay.upstream = .flowing := by simp [relay, h]

/-- The calls from `p` to `p'` are a run of the relay. -/
def Leads (p p' : Polling B) : Prop :=
  ∃ cs, p'.calls = p.calls ++ cs ∧ (relaySystem B).Run p.relay cs p'.relay

lemma Leads.refl (p : Polling B) : p.Leads p := ⟨[], by simp, .nil⟩

lemma Leads.trans {p q r : Polling B} (h : p.Leads q) (h' : q.Leads r) : p.Leads r := by
  obtain ⟨cs, hcs, hrun⟩ := h
  obtain ⟨ds, hds, hrun'⟩ := h'
  exact ⟨cs ++ ds, by rw [hds, hcs, List.append_assoc], hrun.append hrun'⟩

/-- One call. -/
lemma Leads.one {p p' : Polling B} {c : FlowCall B} (hcalls : p'.calls = p.calls ++ [c])
    (hstep : p.relay.Step c p'.relay) : p.Leads p' :=
  ⟨[c], hcalls, .single hstep⟩

/-- What the relay does not see. -/
lemma Leads.of_eq {p p' : Polling B} (hcalls : p'.calls = p.calls) (hrelay : p'.relay = p.relay) :
    p.Leads p' :=
  ⟨[], by simp [hcalls], hrelay ▸ .nil⟩

lemma abort_leads (p : Polling B) : p.Leads p.abort :=
  Leads.one (c := .abort p.socket) rfl ⟨rfl, rfl⟩

lemma isClosed_leads {p : Polling B} {reply : Reply} (h : p.flow.reply = some reply) :
    p.Leads (p.isClosed reply).2 :=
  Leads.one (c := .isClosed reply (p.isClosed reply).1) rfl ⟨h, rfl⟩

/-- Inversion of `sendReply`: the request was open and is not any more. -/
lemma sendReply_eq_ok {p q : Polling B} {answer : B.Answer} {delivered : Bool}
    (h : p.sendReply answer = .ok (delivered, q)) :
    ∃ reply, p.flow.reply = some reply ∧ delivered = (B.sendReply reply answer p.world).1 ∧
      q = { p.note (.sendReply p.socket reply answer delivered) with
        flow := { p.flow with reply := none }, world := (B.sendReply reply answer p.world).2 } := by
  unfold sendReply at h
  split at h
  · simp at h
  · next reply hreply =>
    obtain ⟨hd, hq⟩ : _ ∧ _ = q := by simpa using h
    exact ⟨reply, hreply, hd.symm, by rw [← hq, ← hd]⟩

lemma sendReply_leads {p q : Polling B} {answer : B.Answer} {delivered : Bool}
    (hok : ∀ c, answer = .ok c → B.state p.socket = .established)
    (h : p.sendReply answer = .ok (delivered, q)) : p.Leads q := by
  obtain ⟨reply, hreply, -, rfl⟩ := sendReply_eq_ok h
  exact Leads.one (c := .sendReply p.socket reply answer delivered) rfl ⟨rfl, hreply, hok, rfl⟩

/-- What `pollReply` can do.  The request was answered before (`idle`), its receiver is gone
(`gone`), it has failed (`failed`), it is answered with the connection (`answered`, `refused`), or
it waits (`waits`). -/
inductive ReplyStep (p : Polling B) (now : Instant) : Polling B → Option Bool → Prop
  | idle (hreply : p.flow.reply = none) : ReplyStep p now p none
  | gone (reply : Reply) (hreply : p.flow.reply = some reply)
      (hclosed : (p.isClosed reply).1 = true) :
      ReplyStep p now (p.isClosed reply).2.abort (some false)
  | failed (reply : Reply) (kind : ErrorKind) (delivered : Bool) (q : Polling B)
      (hreply : p.flow.reply = some reply) (hclosed : (p.isClosed reply).1 = false)
      (hsend : (p.isClosed reply).2.sendReply (.error ⟨kind, "VPN TCP connection failed"⟩) =
        .ok (delivered, q)) :
      ReplyStep p now q.abort (some false)
  | answered (reply : Reply) (client : B.Stream) (q : Polling B)
      (hreply : p.flow.reply = some reply) (hclosed : (p.isClosed reply).1 = false)
      (hestablished : B.state p.socket = .established) (hclient : p.flow.client = some client)
      (hsend : (p.isClosed reply).2.takeClient.sendReply (.ok ⟨client, p.flow.localAddr⟩) =
        .ok (true, q)) :
      ReplyStep p now (q.touch now) none
  | refused (reply : Reply) (client : B.Stream) (q : Polling B)
      (hreply : p.flow.reply = some reply) (hclosed : (p.isClosed reply).1 = false)
      (hestablished : B.state p.socket = .established) (hclient : p.flow.client = some client)
      (hsend : (p.isClosed reply).2.takeClient.sendReply (.ok ⟨client, p.flow.localAddr⟩) =
        .ok (false, q)) :
      ReplyStep p now q.abort (some false)
  | waits (reply : Reply) (hreply : p.flow.reply = some reply)
      (hclosed : (p.isClosed reply).1 = false) (hnow : now < p.flow.deadline) :
      ReplyStep p now (p.isClosed reply).2 (some true)

/-- The inversion of `pollReply`. -/
lemma pollReply_step {p p' : Polling B} {now : Instant} {result : Option Bool}
    (h : p.pollReply now = .ok (p', result)) : ReplyStep p now p' result := by
  unfold pollReply at h
  rcases hreply : p.flow.reply with _ | reply
  · obtain ⟨rfl, rfl⟩ : p = p' ∧ none = result := by simpa [hreply] using h
    exact .idle hreply
  simp only [hreply] at h
  rcases hclosed : (p.isClosed reply).1
  case true =>
    obtain ⟨rfl, rfl⟩ : _ = p' ∧ some false = result := by simpa [hclosed] using h
    exact .gone reply hreply hclosed
  simp only [hclosed, Bool.false_eq_true, if_false] at h
  rcases hfail : (p.isClosed reply).2.failure now with _ | kind
  case some =>
    simp only [hfail, bind_eq_ok] at h
    obtain ⟨⟨delivered, q⟩, hsend, h⟩ := h
    obtain ⟨rfl, rfl⟩ : _ = p' ∧ some false = result := by simpa using h
    exact .failed reply kind delivered q hreply hclosed hsend
  have hflow : (p.isClosed reply).2.flow = p.flow := rfl
  have hsocket : (p.isClosed reply).2.socket = p.socket := rfl
  simp only [hfail, hflow, hsocket] at h
  by_cases hest : B.state p.socket = .established
  · rcases hclient : p.flow.client with _ | client
    · simp [hest, hclient] at h
    simp only [hest, if_true, hclient, bind_eq_ok] at h
    obtain ⟨⟨delivered, q⟩, hsend, h⟩ := h
    cases delivered
    · obtain ⟨rfl, rfl⟩ : _ = p' ∧ some false = result := by simpa using h
      exact .refused reply client q hreply hclosed hest hclient hsend
    · obtain ⟨rfl, rfl⟩ : _ = p' ∧ none = result := by simpa using h
      exact .answered reply client q hreply hclosed hest hclient hsend
  · obtain ⟨rfl, rfl⟩ : _ = p' ∧ some true = result := by simpa [hest] using h
    have hnow : now < p.flow.deadline := by
      by_contra hle
      simp [failure, hflow, Nat.le_of_not_lt hle] at hfail
    exact .waits reply hreply hclosed hnow

lemma ReplyStep.leads {p p' : Polling B} {now : Instant} {result : Option Bool}
    (h : ReplyStep p now p' result) : p.Leads p' := by
  have hanswer : ∀ {reply client delivered q}, p.flow.reply = some reply →
      B.state p.socket = .established →
      (p.isClosed reply).2.takeClient.sendReply (.ok ⟨client, p.flow.localAddr⟩) =
        .ok (delivered, q) → p.Leads q := by
    intro reply client delivered q hreply hest hsend
    have htake : (p.isClosed reply).2.Leads (p.isClosed reply).2.takeClient := .of_eq rfl rfl
    exact ((isClosed_leads hreply).trans htake).trans (sendReply_leads (fun _ _ => hest) hsend)
  cases h with
  | idle => exact .refl _
  | gone reply hreply => exact (isClosed_leads hreply).trans (abort_leads _)
  | failed reply kind delivered q hreply _ hsend =>
    exact ((isClosed_leads hreply).trans (sendReply_leads (by simp) hsend)).trans (abort_leads _)
  | answered reply client q hreply _ hest _ hsend =>
    exact (hanswer hreply hest hsend).trans (.of_eq rfl rfl)
  | refused reply client q hreply _ hest _ hsend =>
    exact (hanswer hreply hest hsend).trans (abort_leads q)
  | waits reply hreply => exact isClosed_leads hreply

/-- A poll goes on only when the request has been answered. -/
lemma ReplyStep.answered_of_none {p p' : Polling B} {now : Instant}
    (h : ReplyStep p now p' none) : p'.flow.reply = none := by
  cases h with
  | idle hreply => exact hreply
  | answered reply client q _ _ _ _ hsend =>
    obtain ⟨_, _, _, rfl⟩ := sendReply_eq_ok hsend
    rfl

/-! ### The rest of a poll

Once the request is answered, a poll is a sequence of moves: the bodies of its two loops, the
shutdown of the bridge, and the abort that ends a poll early.  What holds of each move holds of the
three parts, which are `ReflTransGen` of it. -/

/-- One move of an answered flow. -/
inductive Move (now : Instant) (p : Polling B) : Polling B → Prop
  | touch : Move now p (p.touch now)
  | abort : Move now p p.abort
  | recv (data : List UInt8) (hcan : B.canRecv p.socket = true)
      (hopen : p.flow.writeClosed = false) (hslice : B.recvSlice p.socket = some data) :
      Move now p (p.recv data).2
  | recvError (hcan : B.canRecv p.socket = true) (hslice : B.recvSlice p.socket = none) :
      Move now p (p.note (.recvError p.socket))
  | shutdown (hmay : B.mayRecv p.socket = false) (hopen : p.flow.writeClosed = false) :
      Move now p (if (B.pollShutdown p.flow.bridge).1.isDone then p.shutdown.setWriteClosed
        else p.shutdown)
  | send (room : ℕ) (hcan : B.canSend p.socket = true) (hopen : p.flow.readClosed = false)
      (hslice : B.sendSlice p.socket = some room)
      (hmore : (B.pollRead p.flow.bridge room).1.isEnd = false) : Move now p (p.send room).2
  | finish (room : ℕ) (hcan : B.canSend p.socket = true) (hopen : p.flow.readClosed = false)
      (hslice : B.sendSlice p.socket = some room)
      (hend : (B.pollRead p.flow.bridge room).1.isEnd = true) :
      Move now p (p.send room).2.closeSocket
  | sendError (hcan : B.canSend p.socket = true) (hslice : B.sendSlice p.socket = none) :
      Move now p (p.note (.sendError p.socket))

/-- The moves of the socket-to-bridge loop, the shutdown and the bridge-to-socket loop. -/
abbrev Moves (now : Instant) : Polling B → Polling B → Prop := Relation.ReflTransGen (Move now)

lemma Move.leads {now : Instant} {p q : Polling B} (h : Move now p q)
    (hreply : p.flow.reply = none) : p.Leads q := by
  cases h with
  | touch => exact .of_eq rfl rfl
  | abort => exact abort_leads p
  | recv data hcan hopen hslice =>
    exact .one (c := .recv p.socket data (B.pollWrite p.flow.bridge data).1 _) rfl
      ⟨rfl, hreply, hopen, hcan, hslice, rfl, rfl, rfl⟩
  | recvError hcan hslice =>
    exact .one (c := .recvError p.socket) rfl ⟨rfl, hcan, hslice, rfl⟩
  | shutdown hmay hopen =>
    refine .one (c := .shutdown p.socket (B.pollShutdown p.flow.bridge).1) ?_
      ⟨rfl, hreply, hopen, hmay, rfl, ?_⟩
    · split_ifs <;> rfl
    · have hshut : p.relay.shut = false := hopen
      split_ifs with hdone
      · simp only [setWriteClosed_relay, shutdown_relay, hdone]
        rfl
      · simp only [shutdown_relay, hdone, ← hshut]
        rfl
  | send room hcan hopen hslice hmore =>
    refine .one (c := .send p.socket room (B.pollRead p.flow.bridge room).1 _) rfl
      ⟨rfl, hreply, upstream_of_open hopen, hcan, hslice, rfl, rfl, ?_⟩
    simp only [send_relay, hmore, Bool.false_eq_true, if_false, ← upstream_of_open hopen]
    rfl
  | finish room hcan hopen hslice hend =>
    refine ⟨[.send p.socket room (B.pollRead p.flow.bridge room).1 _,
      .close (p.send room).2.socket], List.append_assoc ..,
      .snoc (t := { (p.send room).2.relay with upstream := .ended }) (.single ?_) ?_⟩
    · refine ⟨rfl, hreply, upstream_of_open hopen, hcan, hslice, rfl, rfl, ?_⟩
      simp only [send_relay, hend, if_true]
      rfl
    · exact ⟨rfl, rfl, rfl⟩
  | sendError hcan hslice =>
    exact .one (c := .sendError p.socket) rfl ⟨rfl, hcan, hslice, rfl⟩

/-- A move leaves the request, the address and the socket's handle as they are. -/
lemma Move.frame {now : Instant} {p q : Polling B} (h : Move now p q) :
    ∃ bridge activity readClosed writeClosed,
      q.flow = { p.flow with bridge, activity, readClosed, writeClosed } := by
  cases h with
  | shutdown => split_ifs <;> exact ⟨_, _, _, _, rfl⟩
  | _ => exact ⟨_, _, _, _, rfl⟩

lemma Moves.frame {now : Instant} {p q : Polling B} (h : Moves now p q) :
    ∃ bridge activity readClosed writeClosed,
      q.flow = { p.flow with bridge, activity, readClosed, writeClosed } := by
  induction h with
  | refl => exact ⟨_, _, _, _, rfl⟩
  | tail _ hmove ih =>
    obtain ⟨_, _, _, _, hq⟩ := ih
    obtain ⟨_, _, _, _, hr⟩ := hmove.frame
    exact ⟨_, _, _, _, by rw [hr, hq]⟩

lemma Moves.reply {now : Instant} {p q : Polling B} (h : Moves now p q) :
    q.flow.reply = p.flow.reply := by
  obtain ⟨_, _, _, _, hq⟩ := h.frame
  rw [hq]

lemma Moves.leads {now : Instant} {p q : Polling B} (h : Moves now p q)
    (hreply : p.flow.reply = none) : p.Leads q := by
  induction h with
  | refl => exact .refl p
  | tail hmoves hmove ih => exact ih.trans (hmove.leads ((Moves.reply hmoves).trans hreply))

/-- What a part of a poll does: it goes through, or it ends the poll with an abort. -/
inductive Outcome (now : Instant) (p : Polling B) : Polling B × Bool → Prop
  | through {q : Polling B} (h : Moves now p q) : Outcome now p (q, true)
  | aborted {q : Polling B} (h : Moves now p q) : Outcome now p (q.abort, false)

lemma Outcome.after {now : Instant} {p q : Polling B} {out : Polling B × Bool}
    (h : Outcome now q out) (hpq : Moves now p q) : Outcome now p out := by
  cases h with
  | through h => exact .through (hpq.trans h)
  | aborted h => exact .aborted (hpq.trans h)

lemma socketToBridge_outcome (now : Instant) (rounds : ℕ) (p : Polling B) :
    Outcome now p (p.socketToBridge now rounds) := by
  induction rounds generalizing p with
  | zero => exact .through .refl
  | succ rounds ih =>
    unfold socketToBridge
    split_ifs with hguard
    · exact .through .refl
    obtain ⟨hcan, hopen⟩ : B.canRecv p.socket = true ∧ p.flow.writeClosed = false := by
      simpa using hguard
    split
    · next hslice => exact .aborted (.single (.recvError hcan hslice))
    · next data hslice =>
      have hrecv : Moves now p (p.recv data).2 := .single (.recv data hcan hopen hslice)
      rcases hout : p.recv data with ⟨_ | _ | count, q⟩ <;> rw [hout] at hrecv
      · exact .aborted hrecv
      · exact .through hrecv
      · exact (ih _).after (hrecv.tail .touch)

lemma shutdownBridge_outcome (now : Instant) (p : Polling B) :
    Outcome now p p.shutdownBridge := by
  unfold shutdownBridge
  split_ifs with hguard
  · obtain ⟨hmay, hopen⟩ : B.mayRecv p.socket = false ∧ p.flow.writeClosed = false := by
      simpa using hguard
    have hmove : Move now p _ := .shutdown hmay hopen
    rcases hout : (B.pollShutdown p.flow.bridge).1 with (_ | _) | _ <;>
      simp only [hout, Poll.isDone] at hmove
    · exact .aborted (.single hmove)
    · exact .through (.single hmove)
    · exact .through (.single hmove)
  · exact .through .refl

lemma bridgeToSocket_outcome (now : Instant) (rounds : ℕ) (p : Polling B) :
    Outcome now p (p.bridgeToSocket now rounds) := by
  induction rounds generalizing p with
  | zero => exact .through .refl
  | succ rounds ih =>
    unfold bridgeToSocket
    split_ifs with hguard
    · exact .through .refl
    obtain ⟨hcan, hopen⟩ : B.canSend p.socket = true ∧ p.flow.readClosed = false := by
      simpa using hguard
    split
    · next hslice => exact .aborted (.single (.sendError hcan hslice))
    · next room hslice =>
      have hfst : (p.send room).1 = (readOutcome (B.pollRead p.flow.bridge room).1).2.2 := rfl
      have hsend := @Move.send B now p room hcan hopen hslice
      have hfinish := @Move.finish B now p room hcan hopen hslice
      rcases hout : p.send room with ⟨result, q⟩
      rw [hout] at hfst hsend hfinish
      rcases hread : (B.pollRead p.flow.bridge room).1 with (_ | _ | _) | _ <;>
        simp only [hread, Poll.isEnd, readOutcome, forall_true_left] at hfst hsend hfinish <;>
        subst hfst
      · exact .aborted (.single hsend)
      · exact .through (.single hfinish)
      · exact (ih _).after (.tail (.single hsend) .touch)
      · exact .through (.single hsend)

/-! ### The whole poll -/

/-- What a poll can do: the open request decides; or, with the request answered, the poll is ended
by an abort; or it goes through its three parts and asks whether the socket is closed. -/
inductive PollStep (p : Polling B) (now : Instant) : Polling B → Bool → Prop
  | reply {p' : Polling B} {keep : Bool} (h : ReplyStep p now p' (some keep)) :
      PollStep p now p' keep
  | aborted {q r : Polling B} (hq : ReplyStep p now q none) (hmoves : Moves now q r) :
      PollStep p now r.abort false
  | moved {q p' : Polling B} (hq : ReplyStep p now q none)
      (hfirst : (q.socketToBridge now 64).2 = true)
      (hmoves : Moves now (q.socketToBridge now 64).1 p') :
      PollStep p now p' (B.state p'.socket != .closed)

/-- What is left of a poll once the request is answered. -/
inductive Rest (now : Instant) (q : Polling B) : Polling B → Bool → Prop
  | aborted {r : Polling B} (hmoves : Moves now q r) : Rest now q r.abort false
  | moved {p' : Polling B} (hfirst : (q.socketToBridge now 64).2 = true)
      (hmoves : Moves now (q.socketToBridge now 64).1 p') :
      Rest now q p' (B.state p'.socket != .closed)

/-- A poll is its reply part, which decides or leaves the rest to be done. -/
lemma poll_rest {p p' : Polling B} {now idleTimeout : Instant} {keep : Bool}
    (h : p.poll now idleTimeout = .ok (p', keep)) :
    ∃ q result, p.pollReply now = .ok (q, result) ∧
      (result = some keep ∧ p' = q ∨ result = none ∧ Rest now q p' keep) := by
  unfold poll at h
  simp only [bind_eq_ok] at h
  obtain ⟨⟨q, result⟩, hreply, h⟩ := h
  refine ⟨q, result, hreply, ?_⟩
  cases result with
  | some k =>
    obtain ⟨rfl, rfl⟩ : q = p' ∧ k = keep := by simpa using h
    exact .inl ⟨rfl, rfl⟩
  | none =>
    refine .inr ⟨rfl, ?_⟩
    simp only at h
    split_ifs at h with hidle
    · obtain ⟨rfl, rfl⟩ : _ = p' ∧ false = keep := by simpa using h
      exact .aborted .refl
    have hfirst := socketToBridge_outcome now 64 q
    have hmoved := @Rest.moved B now q
    generalize q.socketToBridge now 64 = out at h hfirst hmoved
    cases hfirst with
    | aborted hfirst =>
      obtain ⟨rfl, rfl⟩ : _ = p' ∧ false = keep := by simpa using h
      exact .aborted hfirst
    | @through q₁ hfirst =>
      have hsecond := shutdownBridge_outcome now q₁
      simp only at h
      generalize q₁.shutdownBridge = out at h hsecond
      cases hsecond with
      | aborted hsecond =>
        obtain ⟨rfl, rfl⟩ : _ = p' ∧ false = keep := by simpa using h
        exact .aborted (hfirst.trans hsecond)
      | @through q₂ hsecond =>
        have hthird := bridgeToSocket_outcome now 64 q₂
        simp only at h
        generalize q₂.bridgeToSocket now 64 = out at h hthird
        cases hthird with
        | aborted hthird =>
          obtain ⟨rfl, rfl⟩ : _ = p' ∧ false = keep := by simpa using h
          exact .aborted ((hfirst.trans hsecond).trans hthird)
        | @through q₃ hthird =>
          simp only [Except.ok.injEq, Prod.mk.injEq] at h
          obtain ⟨rfl, rfl⟩ := h
          exact hmoved rfl (hsecond.trans hthird)

/-- **The inversion of a poll.** -/
lemma poll_step {p p' : Polling B} {now idleTimeout : Instant} {keep : Bool}
    (h : p.poll now idleTimeout = .ok (p', keep)) : PollStep p now p' keep := by
  obtain ⟨q, result, hq, ⟨rfl, rfl⟩ | ⟨rfl, hrest⟩⟩ := poll_rest h
  · exact .reply (pollReply_step hq)
  · cases hrest with
    | aborted hmoves => exact .aborted (pollReply_step hq) hmoves
    | moved hfirst hmoves => exact .moved (pollReply_step hq) hfirst hmoves

/-- The rest of a poll is moves. -/
lemma Rest.moves {q p' : Polling B} {now : Instant} {keep : Bool} (h : Rest now q p' keep) :
    Moves now q p' := by
  cases h with
  | aborted hmoves => exact hmoves.tail .abort
  | moved hfirst hmoves =>
    have hout := socketToBridge_outcome now 64 q
    generalize q.socketToBridge now 64 = out at hfirst hmoves hout
    cases hout with
    | through hq => exact hq.trans hmoves
    | aborted => simp at hfirst

/-- Once the request is answered, the rest of a poll is moves. -/
lemma PollStep.moves {p p' : Polling B} {now : Instant} {keep : Bool}
    (h : PollStep p now p' keep) :
    ReplyStep p now p' (some keep) ∨ ∃ q, ReplyStep p now q none ∧ Moves now q p' := by
  cases h with
  | reply h => exact .inl h
  | @aborted q _ hq hmoves => exact .inr ⟨q, hq, (Rest.aborted hmoves).moves⟩
  | @moved q _ hq hfirst hmoves => exact .inr ⟨q, hq, (Rest.moved hfirst hmoves).moves⟩

/-- A poll leaves the flow's socket handle, address, deadline and request as they are. -/
lemma PollStep.frame {p p' : Polling B} {now : Instant} {keep : Bool}
    (h : PollStep p now p' keep) :
    p'.flow.socket = p.flow.socket ∧ p'.flow.localAddr = p.flow.localAddr ∧
      p'.flow.deadline = p.flow.deadline ∧ p'.flow.request = p.flow.request := by
  have hreply : ∀ {q : Polling B} {result : Option Bool}, ReplyStep p now q result →
      q.flow.socket = p.flow.socket ∧ q.flow.localAddr = p.flow.localAddr ∧
        q.flow.deadline = p.flow.deadline ∧ q.flow.request = p.flow.request := by
    intro q result hq
    cases hq with
    | idle | gone | waits => exact ⟨rfl, rfl, rfl, rfl⟩
    | failed _ _ _ _ _ _ hsend | answered _ _ _ _ _ _ _ hsend | refused _ _ _ _ _ _ _ hsend =>
      obtain ⟨_, _, _, rfl⟩ := sendReply_eq_ok hsend
      exact ⟨rfl, rfl, rfl, rfl⟩
  rcases h.moves with hq | ⟨q, hq, hmoves⟩
  · exact hreply hq
  · obtain ⟨_, _, _, _, hflow⟩ := Moves.frame hmoves
    rw [hflow]
    exact hreply hq

/-- **A poll is a run of the relay.** -/
theorem poll_leads {p p' : Polling B} {now idleTimeout : Instant} {keep : Bool}
    (h : p.poll now idleTimeout = .ok (p', keep)) : p.Leads p' := by
  rcases (poll_step h).moves with hstep | ⟨q, hstep, hmoves⟩
  · exact hstep.leads
  · exact hstep.leads.trans (Moves.leads hmoves hstep.answered_of_none)

end Polling

end Ovpnlane
