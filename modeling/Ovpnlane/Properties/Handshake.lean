import Ovpnlane.Properties.EndOfStream
import Ovpnlane.Properties.EngineSteps

/-!
# The end of a handshake

Between two polls of a flow the network may deliver any number of segments, so a poll need not find
the socket in the state a handshake ends in: with the SYN-ACK and the remote's FIN in one batch, the
first poll after the handshake finds CLOSE-WAIT.  The subject is a flow from `connect_ip` on
(`openingSystem`): the segments of the handshake, those of an orderly connection, a reset, anything
the client does, and polls, in any order.

`handshake_reported_iff` says of the first poll after the handshake, with the request still waiting
and the connection not reset, that it answers the request with the connection, and that all bytes
received are delivered from then on, exactly if it still finds ESTABLISHED.  Otherwise it finds
CLOSE-WAIT, and the request waits until it is too late: `handshake_unreported`.
-/

namespace Ovpnlane

variable {B : Backend}

/-! ## A flow whose connection opens -/

/-- A flow, and whether its handshake has completed since the last poll. -/
structure Opening (B : Backend) where
  flow : Downstream B
  completed : Bool

/-- What happens to it. -/
inductive OpeningAct (B : Backend)
  /-- The remote's SYN without an acknowledgement. -/
  | syn (socket : B.Socket)
  /-- The segment that completes the handshake, with the data it carries. -/
  | complete (bytes : List UInt8) (socket : B.Socket)
  /-- The connection is reset. -/
  | reset (socket : B.Socket)
  /-- What may happen to an established flow. -/
  | flow (a : DownstreamAct B)

namespace Opening

def life (o : Opening B) : Life B := o.flow.life

def socket (o : Opening B) : B.Socket := o.life.socket

/-- The socket has received the bytes. -/
def receive (o : Opening B) (bytes : List UInt8) (socket : B.Socket) : Downstream B :=
  ⟨{ o.life with socket := socket }, o.flow.received ++ bytes⟩

def Step (C : SocketContract B) (o : Opening B) : OpeningAct B → Opening B → Prop
  | .syn socket, o' =>
    B.state o.socket = .synSent ∧ B.state socket = .synReceived ∧ C.rx socket = C.rx o.socket ∧
      o' = ⟨o.receive [] socket, o.completed⟩
  | .complete bytes socket, o' =>
    (B.state o.socket = .synSent ∨ B.state o.socket = .synReceived) ∧
      B.state socket = .established ∧ C.rx socket = C.rx o.socket ++ bytes ∧
      o' = ⟨o.receive bytes socket, true⟩
  | .reset socket, o' => B.state socket = .closed ∧ o' = ⟨o.receive [] socket, o.completed⟩
  | .flow (.poll now idleTimeout), o' =>
    o.flow.Step C (.poll now idleTimeout) o'.flow ∧ o'.completed = false
  | .flow a, o' => o.flow.Step C a o'.flow ∧ o'.completed = o.completed

/-- A flow as `connect_ip` opens it. -/
def Init (C : SocketContract B) (o : Opening B) : Prop :=
  o.life.Fresh ∧ o.life.flow.reply.isSome = true ∧ o.life.flow.client.isSome = true ∧
    B.state o.socket = .synSent ∧ C.rx o.socket = [] ∧ o.flow.received = [] ∧ o.completed = false

end Opening

/-- Flows from `connect_ip` on. -/
def openingSystem (C : SocketContract B) : System (Opening B) (OpeningAct B) where
  init := Opening.Init C
  step := Opening.Step C

/-! ## What is promised -/

/-- From here on nothing that was received is lost, as long as no poll aborts the connection or
drops it over data the client has not taken: a poll that finds a bridge with room for the receive
buffer delivers all of it, and all of it is delivered when the client's stream ends. -/
def Downstream.Delivers (C : SocketContract B) (d : Downstream B) : Prop :=
  ∀ acts d', ((downstreamSystem C).guard (Lossless C)).Run d acts d' → d'.NoAbort →
    (d'.Eof → d'.delivered = d'.received) ∧
      ∀ now idleTimeout d'', d'.Step C (.poll now idleTimeout) d'' → d''.NoAbort →
        Drains C 64 d'.life.socket d'.life.flow.bridge → d''.delivered = d''.received

/-- The poll answers the request with the connection, and delivers from then on. -/
def Downstream.Reports (C : SocketContract B) (d : Downstream B) (now idleTimeout : Instant) :
    Prop :=
  ∃ d', d.Step C (.poll now idleTimeout) d' ∧
    (∃ calls s reply client delivered, d'.life.trace = d.life.trace ++ calls ∧
      d.life.flow.reply = some reply ∧
      FlowCall.sendReply s reply (.ok ⟨client, d.life.flow.localAddr⟩) delivered ∈ calls) ∧
    d'.Delivers C

/-! ## The reply part of a poll -/

namespace Polling

variable {p p' : Polling B} {now idleTimeout : Instant} {reply : Reply} {client : B.Stream}

/-- A request that is not late, on a connection that was not reset. -/
lemma failure_eq_none (hnow : now < p.flow.deadline) (hstate : B.state p.socket ≠ .closed) :
    p.failure now = none := by
  rw [failure, if_neg (Nat.not_le_of_lt hnow), if_neg hstate]

/-- The socket is established: the request is answered. -/
lemma pollReply_established (hreply : p.flow.reply = some reply)
    (hclosed : (p.isClosed reply).1 = false) (hnow : now < p.flow.deadline)
    (hstate : B.state p.socket = .established) (hclient : p.flow.client = some client) :
    ∃ q delivered result, p.pollReply now = .ok (q, result) ∧ q.flow.reply = none ∧ (p.calls ++
      [.isClosed reply false, .sendReply p.socket reply (.ok ⟨client, p.flow.localAddr⟩) delivered])
        <+: q.calls := by
  have hfailure : (p.isClosed reply).2.failure now = none :=
    failure_eq_none hnow
      (by rw [show (p.isClosed reply).2.socket = p.socket from rfl, hstate]; simp)
  obtain ⟨⟨delivered, q⟩, hsend⟩ := @sendReply_ok B (p.isClosed reply).2.takeClient reply
    (.ok ⟨client, p.flow.localAddr⟩) hreply
  obtain ⟨hreply', hcalls⟩ : q.flow.reply = none ∧ q.calls = p.calls ++ [.isClosed reply false,
      .sendReply p.socket reply (.ok ⟨client, p.flow.localAddr⟩) delivered] := by
    obtain ⟨reply', hreply', -, rfl⟩ := sendReply_eq_ok hsend
    obtain rfl : reply = reply' := Option.some.inj (hreply.symm.trans hreply')
    rw [← hclosed]
    exact ⟨rfl, List.append_assoc ..⟩
  unfold pollReply
  simp only [hreply, hclosed, hfailure, Bool.false_eq_true, if_false]
  rw [show (p.isClosed reply).2.socket = p.socket from rfl, if_pos hstate,
    show (p.isClosed reply).2.flow = p.flow from rfl, hclient]
  simp only [hsend, except_ok_bind]
  cases delivered with
  | true => exact ⟨_, true, _, rfl, hreply', by rw [← hcalls]; exact List.prefix_rfl⟩
  | false => exact ⟨_, false, _, rfl, hreply', by rw [← hcalls]; exact List.prefix_append ..⟩

/-- The socket is neither established nor closed: the poll leaves the request alone. -/
lemma poll_waits (hreply : p.flow.reply = some reply) (hclosed : (p.isClosed reply).1 = false)
    (hnow : now < p.flow.deadline) (hstate : B.state p.socket ≠ .closed)
    (hstate' : B.state p.socket ≠ .established) :
    p.poll now idleTimeout = .ok ((p.isClosed reply).2, true) := by
  have hfailure : (p.isClosed reply).2.failure now = none := failure_eq_none hnow hstate
  have hwaits : p.pollReply now = .ok ((p.isClosed reply).2, some true) := by
    unfold pollReply
    simp only [hreply, hclosed, hfailure, Bool.false_eq_true, if_false]
    rw [show (p.isClosed reply).2.socket = p.socket from rfl, if_neg hstate']
  rw [poll, hwaits, except_ok_bind]

/-- A poll after which the request is still open did nothing else. -/
lemma PollStep.waited (h : PollStep p now p' true) (hopen : p'.flow.reply.isSome = true) :
    ∃ reply, p' = (p.isClosed reply).2 := by
  rcases h.moves with hq | ⟨q, hq, hmoves⟩
  · cases hq with
    | waits reply => exact ⟨reply, rfl⟩
  · rw [Moves.reply hmoves, hq.answered_of_none] at hopen
    simp at hopen

/-- A request that has been answered stays so. -/
lemma PollStep.reply_eq_none {keep : Bool} (h : PollStep p now p' keep)
    (hreply : p.flow.reply = none) : p'.flow.reply = none := by
  rcases h.moves with hq | ⟨q, hq, hmoves⟩
  · cases hq <;> simp_all
  · rw [Moves.reply hmoves, hq.answered_of_none]

/-- A poll goes on from its reply part. -/
lemma after_pollReply {q : Polling B} {result : Option Bool} {keep : Bool}
    (hq : p.pollReply now = .ok (q, result)) (h : p.poll now idleTimeout = .ok (p', keep)) :
    q.calls <+: p'.calls ∧ p'.flow.reply = q.flow.reply := by
  obtain ⟨q', result', hq', hcases⟩ := poll_rest h
  obtain ⟨rfl, rfl⟩ : q = q' ∧ result = result' := by simpa [hq] using hq'
  rcases hcases with ⟨-, rfl⟩ | ⟨rfl, hrest⟩
  · exact ⟨List.prefix_rfl, rfl⟩
  · obtain ⟨cs, hcalls, -⟩ := Moves.leads hrest.moves (pollReply_step hq).answered_of_none
    exact ⟨⟨cs, hcalls.symm⟩, Moves.reply hrest.moves⟩

end Polling

/-! ## A flow whose request is open -/

/-- The states in which a flow can have an open request. -/
def TcpState.opening : TcpState → Bool
  | .synSent | .synReceived | .established | .closeWait | .closed => true
  | _ => false

lemma TcpState.Advance.opening {s t : TcpState} (h : Advance s t) (hs : s.opening = true) :
    t.opening = true ∧ (s = .closed → t = .closed) := by
  cases h <;> simp_all [TcpState.opening]

namespace Opening

variable {C : SocketContract B} {o o' : Opening B}

/-- What holds of a flow whose request is open: none of its bytes has moved. -/
structure Pending (C : SocketContract B) (o : Opening B) : Prop where
  client : o.life.flow.client.isSome = true
  writeOpen : o.life.flow.writeClosed = false
  state : (B.state o.socket).opening = true
  completed : o.completed = true → (B.state o.socket).synchronized = true
  bytes : B.state o.socket ≠ .closed → o.flow.received = o.flow.delivered ++ C.rx o.socket

/-- The request is open, and the engine still has the flow. -/
def Open (o : Opening B) : Prop := o.life.live = true ∧ o.life.flow.reply.isSome = true

/-- The flow has got another socket, with `bytes` more in its receive buffer. -/
lemma Pending.receive {bytes : List UInt8} {socket : B.Socket} {completed : Bool}
    (h : Pending C o) (hstate : (B.state socket).opening = true)
    (hcompleted : completed = true → (B.state socket).synchronized = true)
    (hbytes : B.state socket ≠ .closed →
      B.state o.socket ≠ .closed ∧ C.rx socket = C.rx o.socket ++ bytes) :
    Pending C ⟨o.receive bytes socket, completed⟩ := by
  refine ⟨h.client, h.writeOpen, hstate, hcompleted, fun hne => ?_⟩
  obtain ⟨hne', hrx⟩ := hbytes hne
  have hbefore := h.bytes hne'
  change o.flow.received ++ bytes = o.flow.delivered ++ C.rx socket
  rw [hbefore, hrx, List.append_assoc]

/-- A poll that leaves the request open leaves everything else. -/
lemma Pending.poll {now idleTimeout : Instant} (h : o.Open → Pending C o)
    (hstep : o.flow.Step C (.poll now idleTimeout) o'.flow) (hcompleted : o'.completed = false)
    (hopen : o'.Open) : Pending C o' := by
  obtain ⟨hpoll, hreceived⟩ := hstep
  obtain ⟨hlive, p, keep, hflow, hlife⟩ := Life.poll_eq_some hpoll
  obtain ⟨hlive', hreply'⟩ := hopen
  rw [life, hlife] at hlive' hreply'
  obtain rfl : keep = true := hlive'
  obtain ⟨reply, rfl⟩ := (Polling.poll_step hflow).waited hreply'
  have hpending := h ⟨hlive, hreply'⟩
  have hdelivered : o'.flow.delivered = o.flow.delivered := by
    simp [Downstream.delivered, hlife, Polling.isClosed, Polling.note, FlowCall.written]
  have hsame : o'.life.flow = o.life.flow ∧ o'.socket = o.socket := by
    rw [socket, life, hlife]
    exact ⟨rfl, rfl⟩
  refine ⟨?_, ?_, ?_, by simp [hcompleted], fun hne => ?_⟩
  · rw [hsame.1]
    exact hpending.client
  · rw [hsame.1]
    exact hpending.writeOpen
  · rw [hsame.2]
    exact hpending.state
  · rw [hsame.2] at hne ⊢
    rw [hreceived, hdelivered]
    exact hpending.bytes hne

/-- **One step keeps the invariant.** -/
lemma Pending.step {a : OpeningAct B} (h : o.Open → Pending C o) (hstep : Step C o a o')
    (hopen : o'.Open) : Pending C o' := by
  cases a with
  | syn socket =>
    obtain ⟨hsent, hreceived, hrx, rfl⟩ := hstep
    have hpending := h hopen
    refine hpending.receive (by simp [hreceived, TcpState.opening]) (fun hdone => ?_) fun _ => ?_
    · have hsync := hpending.completed hdone
      simp [hsent, TcpState.synchronized] at hsync
    · simp [hsent, hrx]
  | complete bytes socket =>
    obtain ⟨hhalf, hestablished, hrx, rfl⟩ := hstep
    refine (h hopen).receive (by simp [hestablished, TcpState.opening])
      (fun _ => by simp [hestablished, TcpState.synchronized]) fun _ => ⟨?_, hrx⟩
    rcases hhalf with hstate | hstate <;> simp [hstate]
  | reset socket =>
    obtain ⟨hclosed, rfl⟩ := hstep
    refine (h hopen).receive (by simp [hclosed, TcpState.opening])
      (fun _ => by simp [hclosed, TcpState.synchronized]) fun hne => absurd hclosed hne
  | flow a =>
    cases a with
    | poll now idleTimeout => exact Pending.poll h hstep.1 hstep.2 hopen
    | network bytes socket =>
      obtain ⟨⟨hlive, horderly, hflow⟩, hcompleted⟩ := hstep
      obtain rfl : o' = ⟨o.receive bytes socket, o.completed⟩ := by
        rw [← hcompleted, Opening.receive, life, ← hflow]
      have hpending := h hopen
      have hstate : (B.state o.socket).opening = true := hpending.state
      cases horderly with
      | segment hadvance hbytes hrx =>
        obtain ⟨hopening, hstays⟩ := hadvance.opening hstate
        refine hpending.receive hopening (fun hdone => ?_) fun hne => ⟨fun hclosed => ?_, hrx⟩
        · exact (hadvance.synchronized (hpending.completed hdone)).1
        · exact hne (hstays hclosed)
      | expire hwait =>
        have hwait' : B.state o.socket = .timeWait := hwait
        simp [hwait', TcpState.opening] at hstate
    | client bridge =>
      obtain ⟨flow, completed⟩ := o'
      obtain ⟨rfl, rfl⟩ := hstep
      have hpending := h hopen
      exact ⟨hpending.client, hpending.writeOpen, hpending.state, hpending.completed,
        hpending.bytes⟩
    | world world =>
      obtain ⟨flow, completed⟩ := o'
      obtain ⟨rfl, rfl⟩ := hstep
      have hpending := h hopen
      exact ⟨hpending.client, hpending.writeOpen, hpending.state, hpending.completed,
        hpending.bytes⟩

end Opening

/-- The run lemma. -/
lemma opening_pending {C : SocketContract B} {o : Opening B}
    (h : (openingSystem C).Reachable o) (hopen : o.Open) : o.Pending C := by
  refine h.invariant (I := fun o => o.Open → o.Pending C) ?_
    (fun o a o' => Opening.Pending.step) hopen
  rintro o ⟨⟨-, hwrite, htrace, -⟩, -, hclient, hstate, hrx, hreceived, hcompleted⟩ -
  refine ⟨hclient, hwrite, by simp [hstate, TcpState.opening], by simp [hcompleted], fun _ => ?_⟩
  rw [hrx, hreceived, Downstream.delivered]
  simp [show o.flow.life.trace = [] from htrace]

/-! ## Delivery -/

namespace Downstream

variable {C : SocketContract B} {d d' : Downstream B}

lemma reply_eq_none_of_step {a : DownstreamAct B} (h : Step C d a d')
    (hreply : d.life.flow.reply = none) : d'.life.flow.reply = none := by
  cases a with
  | poll now idleTimeout =>
    obtain ⟨-, p, keep, hflow, hlife⟩ := Life.poll_eq_some h.1
    rw [hlife]
    exact (Polling.poll_step hflow).reply_eq_none hreply
  | network bytes socket => obtain ⟨-, -, rfl⟩ := h; exact hreply
  | client bridge => obtain rfl := h; exact hreply
  | world world => obtain rfl := h; exact hreply

/-- An answered flow from which nothing is missing loses nothing later. -/
lemma Complete.delivers (hstream : StreamContract B) (h : d.NoAbort → d.Complete C)
    (hreply : d.life.flow.reply = none) : d.Delivers C := by
  intro acts d₁ hrun hno
  have hcomplete := Complete.run hstream h hrun hno
  have hreply₁ : d₁.life.flow.reply = none :=
    hrun.of_guard.invariant (I := fun d => d.life.flow.reply = none)
      (fun _ _ _ hnone hstep => reply_eq_none_of_step hstep hnone) hreply
  refine ⟨hcomplete.eof, fun now idleTimeout d₂ hstep hno₂ hdrains => ?_⟩
  have hcomplete₂ : d₂.Complete C := hcomplete.poll hstream hstep (fun _ _ => hdrains) hno₂
  by_cases hlive : d₂.life.live = true
  · obtain ⟨-, p, keep, hflow, hlife⟩ := Life.poll_eq_some hstep.1
    have hempty : C.rx d₂.life.socket = [] := by
      rw [hlife]
      refine Polling.rx_eq_nil_of_drains hstream hflow hcomplete.settled (fun c hc => ?_) hreply₁
        hdrains
      exact hno₂ c (by simp [hlife, hc])
    rw [hcomplete₂.live hlive, hempty, List.append_nil]
  · exact (hcomplete₂.dropped (by simpa using hlive)).symm

end Downstream

/-! ## The first poll after the handshake -/

namespace Opening

variable {C : SocketContract B} {o : Opening B} {now idleTimeout : Instant} {reply : Reply}

/-- After the handshake, until it is answered or reset, the socket is in one of two states. -/
lemma Pending.established_or_closeWait (h : Pending C o) (hcompleted : o.completed = true)
    (hreset : B.state o.socket ≠ .closed) :
    B.state o.socket = .established ∨ B.state o.socket = .closeWait := by
  have hsync := h.completed hcompleted
  have hopening := h.state
  cases hstate : B.state o.socket <;> simp_all [TcpState.opening, TcpState.synchronized]

/-- The poll finds ESTABLISHED: it reports the connection. -/
lemma Pending.reports (hstream : StreamContract B) (h : Pending C o) (hlive : o.life.live = true)
    (hopen : o.life.flow.reply = some reply)
    (hclosed : (B.isClosed reply o.life.world).1 = false) (hnow : now < o.life.flow.deadline)
    (hstate : B.state o.socket = .established) : o.flow.Reports C now idleTimeout := by
  obtain ⟨client, hclient⟩ := Option.isSome_iff_exists.mp h.client
  let p : Polling B := ⟨o.life.flow, o.socket, o.life.world, []⟩
  obtain ⟨p', keep, hpoll⟩ := @Polling.poll_ok B p now idleTimeout fun _ => h.client
  obtain ⟨q, delivered, result, hq, hnone, hcalls⟩ :=
    @Polling.pollReply_established B p now reply client hopen hclosed hnow hstate hclient
  obtain ⟨hafter, hreply⟩ := Polling.after_pollReply hq hpoll
  let d' : Downstream B :=
    ⟨⟨p'.flow, p'.socket, p'.world, o.life.trace ++ p'.calls, keep⟩, o.flow.received⟩
  have hstep : o.flow.Step C (.poll now idleTimeout) d' := by
    refine ⟨?_, rfl⟩
    have hpoll' : o.life.flow.poll o.life.socket o.life.world now idleTimeout =
      .ok (p', keep) := hpoll
    change o.life.poll now idleTimeout = _
    rw [Life.poll, if_pos hlive, hpoll']
  have hcomplete : o.flow.Complete C := by
    have hstate' : B.state o.flow.life.socket = .established := hstate
    refine ⟨⟨?_, fun hshut => ?_⟩, fun _ => h.bytes (by simp [hstate]), fun hdead => ?_⟩
    · simp [Life.relay, Polling.relay, hstate', TcpState.synchronized]
    · have hshut' : o.life.flow.writeClosed = true := hshut
      simp [h.writeOpen] at hshut'
    · have hdead' : o.life.live = false := hdead
      simp [hlive] at hdead'
  have hlossless : Lossless C o.flow (.poll now idleTimeout) := by
    intro hnone'
    have hnone'' : o.life.flow.reply = none := hnone'
    simp [hopen] at hnone''
  refine ⟨d', hstep, ⟨p'.calls, o.socket, reply, client, delivered, rfl, hopen, ?_⟩, ?_⟩
  · exact (hcalls.trans hafter).subset (by simp [p, life])
  · exact Downstream.Complete.delivers hstream
      (fun hno => hcomplete.step hstream hstep hlossless hno) (hreply.trans hnone)

/-- The poll finds neither ESTABLISHED nor CLOSED: it answers nothing. -/
lemma not_reports (hopen : o.life.flow.reply = some reply)
    (hclosed : (B.isClosed reply o.life.world).1 = false) (hnow : now < o.life.flow.deadline)
    (hreset : B.state o.socket ≠ .closed) (hstate : B.state o.socket ≠ .established) :
    ¬ o.flow.Reports C now idleTimeout := by
  rintro ⟨d', hstep, ⟨calls, s, reply', client, delivered, htrace, -, hmem⟩, -⟩
  let p : Polling B := ⟨o.life.flow, o.socket, o.life.world, []⟩
  obtain ⟨-, p', keep, hflow, hlife⟩ := Life.poll_eq_some hstep.1
  have hwaits : p.poll now idleTimeout = .ok ((p.isClosed reply).2, true) :=
    Polling.poll_waits hopen hclosed hnow hreset hstate
  obtain ⟨rfl, rfl⟩ : (p.isClosed reply).2 = p' ∧ true = keep := by
    have heq := hwaits.symm.trans hflow
    simpa using heq
  have hcalls : calls = [.isClosed reply (p.isClosed reply).1] := by
    rw [hlife] at htrace
    exact (List.append_cancel_left htrace).symm
  simp [hcalls] at hmem

end Opening

/-! ## The remote's first batch

The remote answers the SYN, sends three bytes and may send its FIN as well, all before the flow is
polled again. -/

namespace FirstBatch

open Sample

/-- A flow as `connect_ip` opens it. -/
def start : Opening backend where
  flow :=
    { life := { life (socket .synSent []) (bridge 0 [] false) with
        flow := { (life (socket .synSent []) (bridge 0 [] false)).flow with
          client := some (bridge 0 [] false), reply := some 7 } }
      received := [] }
  completed := false

/-- After the SYN-ACK and the data. -/
def established : Opening backend := ⟨start.receive [1, 2, 3] (socket .established [1, 2, 3]), true⟩

/-- After the FIN as well. -/
def closeWait : Opening backend := ⟨established.receive [] (socket .closeWait [1, 2, 3]), true⟩

lemma established_reachable : (openingSystem contract).Reachable established := by
  have hinit : start.Init contract := ⟨⟨rfl, rfl, rfl, rfl⟩, rfl, rfl, rfl, rfl, rfl, rfl⟩
  have hstep : (openingSystem contract).step start
    (.complete [1, 2, 3] (socket .established [1, 2, 3]))
    established := ⟨.inl rfl, rfl, rfl, rfl⟩
  exact (System.Reachable.of_init hinit).step hstep

lemma closeWait_reachable : (openingSystem contract).Reachable closeWait := by
  have hstep : (openingSystem contract).step established
    (.flow (.network [] (socket .closeWait [1, 2, 3]))) closeWait :=
    ⟨⟨rfl, .segment .fin (.inr rfl) rfl, rfl⟩, rfl⟩
  exact established_reachable.step hstep

end FirstBatch

/-- **A handshake is reported exactly by a poll that still finds ESTABLISHED.**  After the
handshake, until the request is answered, it is late or the connection is reset, the socket is in
ESTABLISHED or in CLOSE-WAIT. -/
theorem handshake_reported_iff (C : SocketContract B) (hstream : StreamContract B) {o : Opening B}
    {reply : Reply} {now idleTimeout : Instant} (h : (openingSystem C).Reachable o)
    (hcompleted : o.completed = true) (hlive : o.life.live = true)
    (hopen : o.life.flow.reply = some reply)
    (hclosed : (B.isClosed reply o.life.world).1 = false) (hnow : now < o.life.flow.deadline)
    (hreset : B.state o.socket ≠ .closed) :
    (B.state o.socket = .established ∨ B.state o.socket = .closeWait) ∧
      (o.flow.Reports C now idleTimeout ↔ B.state o.socket = .established) := by
  have hpending := opening_pending h ⟨hlive, by simp [hopen]⟩
  refine ⟨hpending.established_or_closeWait hcompleted hreset, fun hreports => ?_, fun hstate => ?_⟩
  · by_contra hstate
    exact Opening.not_reports hopen hclosed hnow hreset hstate hreports
  · exact hpending.reports hstream hlive hopen hclosed hnow hstate

open Sample FirstBatch in
/-- Without the FIN the first poll reports the connection. -/
theorem handshake_reported_established :
    (openingSystem contract).Reachable established ∧ established.flow.Reports contract 1 0 :=
  ⟨established_reachable, (handshake_reported_iff contract (Reference.streamContract _)
    established_reachable rfl rfl rfl rfl (by decide) (by decide)).2.mpr rfl⟩

open Sample FirstBatch in
/-- **With the FIN it does not.**  The handshake has completed, the request is neither late nor
dropped and the connection was not reset, yet the poll answers nothing; at the deadline the request
fails with `TimedOut`, and the client gets none of the three bytes. -/
theorem handshake_unreported :
    ∃ o : Opening backend, (openingSystem contract).Reachable o ∧ o.completed = true ∧
      o.life.live = true ∧ o.life.flow.reply = some 7 ∧ 7 ∉ o.life.world.closed ∧
      1 < o.life.flow.deadline ∧ backend.state o.socket ≠ .closed ∧ ¬ o.flow.Reports contract 1 0 ∧
      ∃ l l', o.life.poll 1 0 = some l ∧ l.poll o.life.flow.deadline 0 = some l' ∧
        l'.live = false ∧ l'.trace.flatMap FlowCall.written = [] ∧
        FlowCall.sendReply o.socket 7 (.error ⟨.timedOut, "VPN TCP connection failed"⟩) true ∈
          l'.trace := by
  refine ⟨closeWait, closeWait_reachable, rfl, rfl, rfl, by decide, by decide, by decide,
    Opening.not_reports rfl rfl (by decide) (by decide) (by decide), _, _, rfl, rfl, rfl, rfl,
    ?_⟩
  exact .tail _ (.tail _ (.head _))

end Ovpnlane
