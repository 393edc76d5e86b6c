import Ovpnlane.Properties.FlowBytes

/-!
# The client's end of stream

When the client's stream ends, has it been given everything the socket received?  The subject is an
established flow whose TCP connection ends in an orderly way: between two polls the network moves
the socket along `Orderly` (data while the remote may send, the two FINs, the acknowledgement of
ours, the end of TIME-WAIT), and the client does anything to its half of the stream.  The stream
ends for the client when the bridge has been shut down or when the flow has been dropped.

`eof_complete` says that nothing is missing in every run in which

* each poll that finds the socket in CLOSED also finds a bridge that takes what is left in the
  receive buffer within the 64 writes of that poll (`Drains`), and
* TIME-WAIT does not expire over a receive buffer that still holds data, which the socket would
  discard.

Without the first condition it fails: `eof_truncates` is a run in which the client ends its
direction first and reads slowly, and loses the tail.  The poll drops the flow because the socket
is closed, without asking whether its receive buffer is empty.
-/

namespace Ovpnlane

variable {B : Backend}

/-! ## What an orderly network does -/

/-- The transitions of an orderly connection that come from the network. -/
inductive TcpState.Advance : TcpState → TcpState → Prop
  | stay (s : TcpState) : Advance s s
  /-- The remote's FIN. -/
  | fin : Advance .established .closeWait
  | finFirst : Advance .finWait1 .closing
  | finSecond : Advance .finWait2 .timeWait
  /-- The acknowledgement of our FIN, in the last case together with the remote's. -/
  | acked : Advance .finWait1 .finWait2
  | ackedFin : Advance .finWait1 .timeWait
  | ackedClosing : Advance .closing .timeWait
  | ackedLast : Advance .lastAck .closed

/-- An orderly network event on a socket that delivers `bytes`. -/
inductive Orderly (C : SocketContract B) (s : B.Socket) : List UInt8 → B.Socket → Prop
  | segment {s' : B.Socket} {bytes : List UInt8}
      (hadvance : TcpState.Advance (B.state s) (B.state s'))
      (hbytes : (B.state s).receiving = true ∨ bytes = []) (hrx : C.rx s' = C.rx s ++ bytes) :
      Orderly C s bytes s'
  /-- The end of TIME-WAIT resets the socket, and may clear its buffers. -/
  | expire {s' : B.Socket} (hwait : B.state s = .timeWait) (hclosed : B.state s' = .closed)
      (hrx : C.rx s' = C.rx s ∨ C.rx s' = []) : Orderly C s [] s'

/-! ## Runs -/

/-- An established flow and everything its socket has received in order. -/
structure Downstream (B : Backend) where
  life : Life B
  received : List UInt8

/-- What happens to an established flow. -/
inductive DownstreamAct (B : Backend)
  | poll (now idleTimeout : Instant)
  | network (bytes : List UInt8) (socket : B.Socket)
  /-- The client writes, reads or ends its half of the stream. -/
  | client (bridge : B.Stream)
  | world (world : B.World)

namespace Downstream

/-- The bytes the bridge has accepted. -/
def delivered (d : Downstream B) : List UInt8 := d.life.trace.flatMap FlowCall.written

/-- One action. -/
def Step (C : SocketContract B) (d : Downstream B) : DownstreamAct B → Downstream B → Prop
  | .poll now idleTimeout, d' =>
    d.life.poll now idleTimeout = some d'.life ∧ d'.received = d.received
  | .network bytes socket, d' =>
    d.life.live = true ∧ Orderly C d.life.socket bytes socket ∧
      d' = ⟨{ d.life with socket := socket }, d.received ++ bytes⟩
  | .client bridge, d' =>
    d' = ⟨{ d.life with flow := { d.life.flow with bridge := bridge } }, d.received⟩
  | .world world, d' => d' = ⟨{ d.life with world := world }, d.received⟩

/-- A flow whose socket has just been established. -/
def Init (C : SocketContract B) (d : Downstream B) : Prop :=
  d.life.Fresh ∧ B.state d.life.socket = .established ∧ d.received = C.rx d.life.socket

/-- The client's stream has ended. -/
def Eof (d : Downstream B) : Prop := d.life.live = false ∨ d.life.flow.writeClosed = true

end Downstream

/-- No poll so far has aborted the connection: no idle timeout and no error of the bridge. -/
def Downstream.NoAbort (d : Downstream B) : Prop := ∀ c ∈ d.life.trace, c.isAbort = false

/-- The downstream direction of established flows. -/
def downstreamSystem (C : SocketContract B) : System (Downstream B) (DownstreamAct B) where
  init := Downstream.Init C
  step := Downstream.Step C

/-- The bridge takes all of the receive buffer within the given number of writes. -/
def Drains (C : SocketContract B) : ℕ → B.Socket → B.Stream → Prop
  | 0, s, _ => C.rx s = []
  | writes + 1, s, b =>
    C.rx s = [] ∨ ∃ data count, B.recvSlice s = some data ∧
      (B.pollWrite b data).1 = .ready (.ok (count + 1)) ∧
      Drains C writes (B.dequeue s (count + 1)) (B.pollWrite b data).2

/-- The condition on a step under which nothing is lost. -/
def Lossless (C : SocketContract B) (d : Downstream B) : DownstreamAct B → Prop
  | .poll _ _ => d.life.flow.reply = none → B.state d.life.socket = .closed →
      Drains C 64 d.life.socket d.life.flow.bridge
  | .network _ socket => B.state d.life.socket = .timeWait → B.state socket = .closed →
      C.rx d.life.socket = []
  | _ => True

/-! ## What a poll does to the receive buffer -/

/-- The states of a connection that has been established. -/
def TcpState.synchronized : TcpState → Bool
  | .listen | .synSent | .synReceived => false
  | _ => true

lemma TcpState.afterClose_synchronized {s : TcpState} (h : s.synchronized = true) :
    s.afterClose.synchronized = true ∧ s.afterClose.receiving = s.receiving ∧
      (s.afterClose = .closed ↔ s = .closed) := by
  cases s <;> simp_all [synchronized, afterClose, receiving]

lemma TcpState.Advance.synchronized {s t : TcpState} (h : Advance s t)
    (hs : s.synchronized = true) :
    t.synchronized = true ∧ (s.receiving = false → t.receiving = false) := by
  cases h <;> simp_all [TcpState.synchronized, receiving]

namespace Relay

variable {C : SocketContract B} {r r' : Relay B}

/-- A relay on an established connection, whose bridge is shut down only at the socket's end. -/
structure Settled (C : SocketContract B) (r : Relay B) : Prop where
  synchronized : (B.state r.socket).synchronized = true
  drained : r.shut = true → (B.state r.socket).receiving = false ∧ C.rx r.socket = []

lemma receiving_eq_false_of_mayRecv {s : B.Socket} (C : SocketContract B)
    (h : B.mayRecv s = false) : (B.state s).receiving = false := by
  by_contra hne
  rw [(C.mayRecv_iff s).mpr (.inl (by simpa using hne))] at h
  simp at h

/-- A call that is not an abort moves what it writes out of the receive buffer, and neither opens
nor closes the socket for receiving. -/
lemma Settled.step (hstream : StreamContract B) {c : FlowCall B} (h : Settled C r)
    (hstep : r.Step c r') (hc : c.isAbort = false) :
    Settled C r' ∧ C.rx r.socket = c.written ++ C.rx r'.socket ∧
      (B.state r'.socket = .closed ↔ B.state r.socket = .closed) := by
  have hrx := Step.rx C hstream hstep hc
  cases c with
  | isClosed => obtain ⟨-, rfl⟩ := hstep; exact ⟨h, hrx, .rfl⟩
  | sendReply => obtain ⟨-, -, -, rfl⟩ := hstep; exact ⟨⟨h.synchronized, h.drained⟩, hrx, .rfl⟩
  | recv s data wrote count =>
    obtain ⟨rfl, -, hopen, -, -, rfl, rfl, rfl⟩ := hstep
    refine ⟨⟨?_, fun hshut => ?_⟩, hrx, ?_⟩
    · simpa [C.state_dequeue] using h.synchronized
    · simp [hopen] at hshut
    · simp [C.state_dequeue]
  | recvError => obtain ⟨-, -, -, rfl⟩ := hstep; exact ⟨h, hrx, .rfl⟩
  | shutdown s result =>
    obtain ⟨rfl, -, -, hmay, -, rfl⟩ := hstep
    exact ⟨⟨h.synchronized, fun _ => ⟨receiving_eq_false_of_mayRecv C hmay,
      rx_eq_nil_of_mayRecv hmay⟩⟩, hrx, .rfl⟩
  | send s room read count =>
    obtain ⟨rfl, -, -, -, -, rfl, rfl, rfl⟩ := hstep
    refine ⟨⟨?_, fun hshut => ?_⟩, hrx, ?_⟩
    · simpa [C.state_enqueue] using h.synchronized
    · simpa [C.state_enqueue, C.rx_enqueue] using h.drained hshut
    · simp [C.state_enqueue]
  | sendError => obtain ⟨-, -, -, rfl⟩ := hstep; exact ⟨h, hrx, .rfl⟩
  | close s =>
    obtain ⟨rfl, -, rfl⟩ := hstep
    obtain ⟨hsync, hreceiving, hclosed⟩ := TcpState.afterClose_synchronized h.synchronized
    refine ⟨⟨?_, fun hshut => ?_⟩, hrx, ?_⟩
    · simpa [C.state_close] using hsync
    · simpa [C.state_close, C.rx_close, hreceiving] using h.drained hshut
    · simpa [C.state_close] using hclosed
  | abort => simp [FlowCall.isAbort] at hc

lemma Settled.run (hstream : StreamContract B) {cs : List (FlowCall B)} (h : Settled C r)
    (hrun : (relaySystem B).Run r cs r') (hcs : ∀ c ∈ cs, c.isAbort = false) :
    Settled C r' ∧ C.rx r.socket = cs.flatMap FlowCall.written ++ C.rx r'.socket ∧
      (B.state r'.socket = .closed ↔ B.state r.socket = .closed) := by
  induction hrun with
  | nil => exact ⟨h, by simp, .rfl⟩
  | @snoc cs t u c _ hstep ih =>
    simp only [List.mem_append, List.mem_singleton, or_imp, forall_and, forall_eq] at hcs
    obtain ⟨hsettled, hrx, hclosed⟩ := ih hcs.1
    obtain ⟨hsettled', hrx', hclosed'⟩ := hsettled.step hstream hstep hcs.2
    exact ⟨hsettled', by simp [hrx, hrx'], hclosed'.trans hclosed⟩

end Relay

/-! ## Draining -/

namespace Polling

variable {C : SocketContract B}

lemma canRecv_iff_rx (C : SocketContract B) (s : B.Socket) :
    B.canRecv s = true ↔ C.rx s ≠ [] := by
  rw [C.canRecv_iff, C.mayRecv_iff]
  tauto

/-- The socket-to-bridge loop empties the receive buffer exactly when the bridge drains it. -/
lemma socketToBridge_drains (now : Instant) (rounds : ℕ) {p : Polling B}
    (hopen : p.flow.writeClosed = false) (h : (p.socketToBridge now rounds).2 = true) :
    C.rx (p.socketToBridge now rounds).1.socket = [] ↔
      Drains C rounds p.socket p.flow.bridge := by
  induction rounds generalizing p with
  | zero => rfl
  | succ rounds ih =>
    rw [Drains]
    by_cases hrx : C.rx p.socket = []
    · have hcan : B.canRecv p.socket = false := by
        simpa [hrx] using (canRecv_iff_rx C p.socket).not
      simp [socketToBridge, hcan, hrx]
    have hcan : B.canRecv p.socket = true := (canRecv_iff_rx C p.socket).mpr hrx
    obtain ⟨data, hslice, -, -⟩ := C.recvSlice_of_canRecv p.socket hcan
    have hout : (p.recv data).1 = (writeOutcome (B.pollWrite p.flow.bridge data).1).2 := rfl
    have hsocket : (p.recv data).2.socket =
      B.dequeue p.socket (writeOutcome (B.pollWrite p.flow.bridge data).1).1 := rfl
    have hbridge : (p.recv data).2.flow.bridge = (B.pollWrite p.flow.bridge data).2 := rfl
    have hopen' : (p.recv data).2.flow.writeClosed = false := hopen
    simp only [socketToBridge, hcan, hopen, hslice, Bool.not_true, Bool.or_self,
      Bool.false_eq_true, if_false] at h ⊢
    rcases hrecv : p.recv data with ⟨result, q⟩
    rw [hrecv] at h hout hsocket hbridge hopen'
    rcases hw : (B.pollWrite p.flow.bridge data).1 with (error | _ | count) | _ <;>
      simp only [hw, writeOutcome] at hout hsocket h <;> subst hout
    · simp at h
    · simp at h
    · have hih := ih (p := q.touch now) hopen' h
      simp only at hsocket hbridge
      rw [show (q.touch now).socket = q.socket from rfl,
        show (q.touch now).flow.bridge = q.flow.bridge from rfl, hsocket, hbridge] at hih
      simp [hrx, hih, hw]
    · simp [hrx, hsocket, C.rx_dequeue, hw]

/-- The reply part goes on with the same socket and bridge. -/
lemma ReplyStep.same_of_none {p q : Polling B} {now : Instant} (h : ReplyStep p now q none) :
    q.socket = p.socket ∧ q.flow.bridge = p.flow.bridge ∧
      q.flow.writeClosed = p.flow.writeClosed := by
  cases h with
  | idle => exact ⟨rfl, rfl, rfl⟩
  | answered reply client q _ _ _ _ hsend =>
    obtain ⟨_, _, _, rfl⟩ := sendReply_eq_ok hsend
    exact ⟨rfl, rfl, rfl⟩

lemma ReplyStep.abort_of_drop {p p' : Polling B} {now : Instant}
    (h : ReplyStep p now p' (some false)) : ∃ q : Polling B, p' = q.abort := by
  cases h <;> exact ⟨_, rfl⟩

lemma ReplyStep.idle_of_ne {p q : Polling B} {now : Instant} (h : ReplyStep p now q none)
    (hstate : B.state p.socket ≠ .established) : p.flow.reply = none := by
  cases h with
  | idle hreply => exact hreply
  | answered _ _ _ _ _ hest => exact absurd hest hstate

lemma exists_abort (q : Polling B) : ∃ c ∈ q.abort.calls, c.isAbort = true :=
  ⟨.abort q.socket, List.mem_append_right _ (List.mem_singleton_self _), rfl⟩

/-- Calls without an abort keep what `Relay.Settled.run` says. -/
lemma Leads.settled (hstream : StreamContract B) {p q : Polling B} (h : p.Leads q)
    (hp : p.relay.Settled C) (hq : ∀ c ∈ q.calls, c.isAbort = false) :
    q.relay.Settled C ∧ (C.rx p.socket = [] → C.rx q.socket = []) ∧
      (B.state q.socket = .closed ↔ B.state p.socket = .closed) := by
  obtain ⟨cs, hcalls, hrun⟩ := h
  obtain ⟨hsettled, hrx, hclosed⟩ := hp.run hstream hrun fun c hc => hq c (by simp [hcalls, hc])
  refine ⟨hsettled, fun hnil => ?_, hclosed⟩
  have hrx' : [] = cs.flatMap FlowCall.written ++ C.rx q.socket := hnil.symm.trans hrx
  exact (List.append_eq_nil_iff.mp hrx'.symm).2

/-- **A poll of an answered flow empties the receive buffer** if the bridge takes what is in it. -/
lemma rx_eq_nil_of_drains (hstream : StreamContract B) {p p' : Polling B}
    {now idleTimeout : Instant} {keep : Bool} (h : p.poll now idleTimeout = .ok (p', keep))
    (hp : p.relay.Settled C) (hno : ∀ c ∈ p'.calls, c.isAbort = false)
    (hreply : p.flow.reply = none) (hdrains : Drains C 64 p.socket p.flow.bridge) :
    C.rx p'.socket = [] := by
  have hleads := poll_leads h
  cases poll_step h with
  | reply hq => cases hq <;> simp_all
  | @aborted q r hq hmoves =>
    obtain ⟨c, hc, habort⟩ := exists_abort r
    simp [hno c hc] at habort
  | @moved q _ hq hfirst hmoves =>
    obtain ⟨hsocket, hbridge, hflag⟩ := hq.same_of_none
    by_cases hshut : p.flow.writeClosed = true
    · exact (hleads.settled hstream hp hno).2.1 (hp.drained hshut).2
    have hopen : q.flow.writeClosed = false := by simpa [hflag] using hshut
    have hempty := (@socketToBridge_drains B C now 64 q hopen hfirst).mpr
      (by rwa [hsocket, hbridge])
    have hout := socketToBridge_outcome now 64 q
    generalize q.socketToBridge now 64 = out at hfirst hmoves hout hempty
    cases hout with
    | aborted => simp at hfirst
    | @through q₁ hq₁ =>
      have hfirst := Moves.leads hq₁ hq.answered_of_none
      have hrest := Moves.leads hmoves ((Moves.reply hq₁).trans hq.answered_of_none)
      have hno₁ : ∀ c ∈ q₁.calls, c.isAbort = false := by
        obtain ⟨cs, hcalls, -⟩ := hrest
        exact fun c hc => hno c (by simp [hcalls, hc])
      have hsettled := ((hq.leads.trans hfirst).settled hstream hp hno₁).1
      exact (hrest.settled hstream hsettled hno).2.1 hempty

/-- **A poll that drops the flow without an abort leaves nothing behind**, if the bridge drains a
closed socket. -/
lemma rx_eq_nil_of_drop (hstream : StreamContract B) {p p' : Polling B}
    {now idleTimeout : Instant} (h : p.poll now idleTimeout = .ok (p', false))
    (hp : p.relay.Settled C) (hno : ∀ c ∈ p'.calls, c.isAbort = false)
    (hdrains : p.flow.reply = none → B.state p.socket = .closed →
      Drains C 64 p.socket p.flow.bridge) : C.rx p'.socket = [] := by
  have hleads := poll_leads h
  have hstep := poll_step h
  generalize hkeep : false = keep at hstep
  cases hstep with
  | reply hq =>
    obtain ⟨q, rfl⟩ := (hkeep ▸ hq).abort_of_drop
    obtain ⟨c, hc, habort⟩ := exists_abort q
    simp [hno c hc] at habort
  | @aborted q r hq hmoves =>
    obtain ⟨c, hc, habort⟩ := exists_abort r
    simp [hno c hc] at habort
  | moved hq =>
    have hclosed' : B.state p'.socket = .closed := by simpa using hkeep
    have hclosed := ((hleads.settled hstream hp hno).2.2).mp hclosed'
    have hreply := hq.idle_of_ne (by simp [hclosed])
    exact rx_eq_nil_of_drains hstream h hp hno hreply (hdrains hreply hclosed)

end Polling

/-! ## The invariant -/

/-- The bytes received are the bytes delivered and the bytes in the receive buffer; once the flow
is dropped, all of them are delivered. -/
structure Downstream.Complete (C : SocketContract B) (d : Downstream B) : Prop where
  settled : d.life.relay.Settled C
  live : d.life.live = true → d.received = d.delivered ++ C.rx d.life.socket
  dropped : d.life.live = false → d.received = d.delivered

namespace Downstream

variable {C : SocketContract B} {d d' : Downstream B}

lemma Complete.poll (hstream : StreamContract B) {now idleTimeout : Instant} (h : Complete C d)
    (hstep : Step C d (.poll now idleTimeout) d') (hgood : Lossless C d (.poll now idleTimeout))
    (hno : d'.NoAbort) : Complete C d' := by
  obtain ⟨hpoll, hreceived⟩ := hstep
  obtain ⟨cs, htrace, hrun⟩ := Life.poll_run hpoll
  have hcs : ∀ c ∈ cs, c.isAbort = false := fun c hc => hno c (by simp [htrace, hc])
  obtain ⟨hsettled, hrx, -⟩ := h.settled.run hstream hrun hcs
  obtain ⟨hlive, p, keep, hflow, hlife⟩ := Life.poll_eq_some hpoll
  have hbytes : d'.received = d'.delivered ++ C.rx d'.life.socket := by
    have hrx' : C.rx d.life.socket = cs.flatMap FlowCall.written ++ C.rx d'.life.socket := hrx
    rw [hreceived, h.live hlive, hrx', delivered, delivered, htrace, List.flatMap_append,
      List.append_assoc]
  refine ⟨hsettled, fun _ => hbytes, fun hdrop => ?_⟩
  obtain rfl : keep = false := by simpa [hlife] using hdrop
  have hempty : C.rx p.socket = [] := by
    refine Polling.rx_eq_nil_of_drop hstream hflow h.settled (fun c hc => ?_) hgood
    exact hno c (by simp [hlife, hc])
  rw [hbytes, hlife]
  simp [hempty]

/-- **One step keeps the invariant** when it is lossless and does not abort. -/
lemma Complete.step (hstream : StreamContract B) {a : DownstreamAct B} (h : Complete C d)
    (hstep : Step C d a d') (hgood : Lossless C d a) (hno : d'.NoAbort) : Complete C d' := by
  cases a with
  | poll now idleTimeout => exact h.poll hstream hstep hgood hno
  | network bytes socket =>
    obtain ⟨hlive, horderly, rfl⟩ := hstep
    have hdead : d.life.live = false → d.received ++ bytes = d.delivered := by simp [hlive]
    cases horderly with
    | segment hadvance hbytes hrx =>
      obtain ⟨hsync, hkeeps⟩ := hadvance.synchronized h.settled.synchronized
      refine ⟨⟨hsync, fun hshut => ?_⟩, fun _ => ?_, hdead⟩
      · obtain ⟨hreceiving, hnil⟩ := h.settled.drained hshut
        have hreceiving' : (B.state d.life.socket).receiving = false := hreceiving
        have hnil' : C.rx d.life.socket = [] := hnil
        obtain rfl : bytes = [] := hbytes.resolve_left (by simp [hreceiving'])
        exact ⟨hkeeps hreceiving, by simp [Life.relay, Polling.relay, hrx, hnil']⟩
      · simp [hrx, h.live hlive, delivered]
    | expire hwait hclosed hrx =>
      have hnil := hgood hwait hclosed
      have hnil' : C.rx socket = [] := by
        rcases hrx with hrx | hrx
        · rw [hrx, hnil]
        · exact hrx
      refine ⟨⟨?_, fun _ => ?_⟩, fun _ => ?_, hdead⟩
      · simp [Life.relay, Polling.relay, hclosed, TcpState.synchronized]
      · simp [Life.relay, Polling.relay, hclosed, TcpState.receiving, hnil']
      · simp [h.live hlive, hnil, hnil', delivered]
  | client bridge =>
    obtain rfl := hstep
    exact ⟨⟨h.settled.synchronized, h.settled.drained⟩, h.live, h.dropped⟩
  | world world =>
    obtain rfl := hstep
    exact ⟨⟨h.settled.synchronized, h.settled.drained⟩, h.live, h.dropped⟩

lemma Complete.eof (h : Complete C d) (heof : d.Eof) : d.delivered = d.received := by
  by_cases hlive : d.life.live = true
  · have hshut : d.life.flow.writeClosed = true := by simpa [Eof, hlive] using heof
    have hnil : C.rx d.life.socket = [] := (h.settled.drained hshut).2
    rw [h.live hlive, hnil, List.append_nil]
  · exact (h.dropped (by simpa using hlive)).symm

/-- An abort stays in the trace. -/
lemma NoAbort.of_step {a : DownstreamAct B} (hstep : Step C d a d') (hno : d'.NoAbort) :
    d.NoAbort := by
  cases a with
  | poll now idleTimeout =>
    obtain ⟨cs, htrace, -⟩ := Life.poll_run hstep.1
    exact fun c hc => hno c (by simp [htrace, hc])
  | network bytes socket => obtain ⟨-, -, rfl⟩ := hstep; exact hno
  | client bridge => obtain rfl := hstep; exact hno
  | world world => obtain rfl := hstep; exact hno

end Downstream

/-- The run lemma. -/
lemma Downstream.Complete.run {C : SocketContract B} (hstream : StreamContract B)
    {d₀ d : Downstream B} {acts : List (DownstreamAct B)} (h₀ : d₀.NoAbort → d₀.Complete C)
    (h : ((downstreamSystem C).guard (Lossless C)).Run d₀ acts d) (hno : d.NoAbort) :
    d.Complete C := by
  induction h with
  | nil => exact h₀ hno
  | snoc _ hl ih =>
    obtain ⟨hgood, hstep⟩ := hl
    exact (ih (Downstream.NoAbort.of_step hstep hno)).step hstream hstep hgood hno

lemma downstream_complete {C : SocketContract B} (hstream : StreamContract B)
    {d₀ d : Downstream B} {acts : List (DownstreamAct B)} (h₀ : d₀.Init C)
    (h : ((downstreamSystem C).guard (Lossless C)).Run d₀ acts d) (hno : d.NoAbort) :
    d.Complete C := by
  refine Downstream.Complete.run hstream (fun _ => ?_) h hno
  obtain ⟨⟨-, hopen, htrace, hlive⟩, hstate, hreceived⟩ := h₀
  refine ⟨⟨?_, fun hshut => ?_⟩, fun _ => ?_, by simp [hlive]⟩
  · simp [Life.relay, Polling.relay, hstate, TcpState.synchronized]
  · simp [Life.relay, Polling.relay, hopen] at hshut
  · simp [Downstream.delivered, htrace, hreceived]

/-! ## A slow reader

The remote has sent three bytes and its FIN while the client had 64 KiB unread, and the client has
ended its own direction.  The poll that finds the socket in CLOSE-WAIT can write nothing, reads the
client's end and closes the socket; the remote acknowledges our FIN; the next poll finds CLOSED. -/

namespace SlowReader

open Sample

/-- An established flow whose client reads slowly. -/
def start : Downstream backend := ⟨life (socket .established []) (bridge 65536 [] false), []⟩

/-- The state after an action, if there is one. -/
def after (d : Downstream backend) : DownstreamAct backend → Downstream backend
  | .poll now idleTimeout => ⟨(d.life.poll now idleTimeout).getD d.life, d.received⟩
  | .network bytes socket => ⟨{ d.life with socket := socket }, d.received ++ bytes⟩
  | .client bridge => ⟨{ d.life with flow := { d.life.flow with bridge := bridge } }, d.received⟩
  | .world world => ⟨{ d.life with world := world }, d.received⟩

/-- Data and FIN, the client's end, and a poll. -/
def closing : List (DownstreamAct backend) :=
  [.network [1, 2, 3] (socket .closeWait [1, 2, 3]), .client (bridge 65536 [] true), .poll 1 0]

/-- The flow after `closing`. -/
def halfClosed : Downstream backend := closing.foldl after start

/-- The acknowledgement of our FIN, and a poll. -/
def closed : List (DownstreamAct backend) := [.network [] (socket .closed [1, 2, 3]), .poll 2 0]

lemma start_init : start.Init contract := ⟨⟨rfl, rfl, rfl, rfl⟩, rfl, rfl⟩

/-- The first half of the run is lossless. -/
lemma run_closing : ((downstreamSystem contract).guard (Lossless contract)).Run start closing
    halfClosed := by
  refine .cons (t := after start (.network [1, 2, 3] (socket .closeWait [1, 2, 3])))
    ⟨fun h => absurd h (by decide), rfl, .segment .fin (.inl rfl) rfl, rfl⟩ ?_
  refine .cons (t := after _ (.client (bridge 65536 [] true))) ⟨trivial, rfl⟩
    (.single ⟨?_, rfl, rfl⟩)
  exact fun _ h => absurd h (by decide)

end SlowReader

/-- **Downstream completeness at EOF.**  In every run whose steps are all lossless and whose polls
do not abort, the client has been given everything the socket received when its stream ends. -/
theorem eof_complete (C : SocketContract B) (hstream : StreamContract B) {d₀ d : Downstream B}
    {acts : List (DownstreamAct B)} (h₀ : d₀.Init C)
    (h : ((downstreamSystem C).guard (Lossless C)).Run d₀ acts d) (hno : d.NoAbort)
    (heof : d.Eof) : d.delivered = d.received :=
  (downstream_complete hstream h₀ h hno).eof heof

open Sample SlowReader in
/-- The same flow when the client reads before the last poll. -/
theorem eof_complete_after_read :
    ∃ d, ((downstreamSystem contract).guard (Lossless contract)).Run start
        (closing ++ .client (bridge 0 [] true) :: closed) d ∧
      d.Eof ∧ d.received = [1, 2, 3] ∧ d.delivered = d.received := by
  have hclosed : ((downstreamSystem contract).guard (Lossless contract)).Run
      (after halfClosed (.client (bridge 0 [] true))) closed
      (closed.foldl after (after halfClosed (.client (bridge 0 [] true)))) := by
    refine .cons (t := after (after halfClosed (.client (bridge 0 [] true)))
      (.network [] (socket .closed [1, 2, 3])))
      ⟨fun h => absurd h (by decide), rfl, .segment .ackedLast (.inr rfl) rfl, rfl⟩ ?_
    exact .single ⟨fun _ _ => .inr ⟨[1, 2, 3], 2, rfl, rfl, .inl rfl⟩, rfl, rfl⟩
  have hrun : ((downstreamSystem contract).guard (Lossless contract)).Run halfClosed
      (.client (bridge 0 [] true) :: closed) _ := .cons ⟨trivial, rfl⟩ hclosed
  refine ⟨_, run_closing.append hrun, .inl rfl, rfl,
    eof_complete contract (Reference.streamContract _) start_init (run_closing.append hrun) ?_
      (.inl rfl)⟩
  unfold Downstream.NoAbort
  decide

open Sample SlowReader in
/-- **The tail is lost.** -/
theorem eof_truncates :
    ∃ d, start.Init contract ∧ (downstreamSystem contract).Run start (closing ++ closed) d ∧
      d.NoAbort ∧ d.Eof ∧ d.received = [1, 2, 3] ∧ d.delivered = [] := by
  have hrun : (downstreamSystem contract).Run halfClosed closed
      (closed.foldl after halfClosed) :=
    .cons (t := after halfClosed (.network [] (socket .closed [1, 2, 3])))
      ⟨rfl, .segment .ackedLast (.inr rfl) rfl, rfl⟩ (.single ⟨rfl, rfl⟩)
  refine ⟨_, start_init, run_closing.of_guard.append hrun, ?_, .inl rfl, rfl, rfl⟩
  unfold Downstream.NoAbort
  decide

end Ovpnlane
