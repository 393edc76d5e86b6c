import Ovpnlane.Properties.Relay
import Ovpnlane.Framework.History
import Ovpnlane.Construction.Netstack.Reference

/-!
# The bytes of a flow and the order of its two ends

What a flow moves over any sequence of polls, with anything between two polls: the socket, the
bridge and the world are replaced by arbitrary ones, so that every peer, every client and every
window is covered.  The subject is the trace of the flow's calls and the buffers of its socket.

* `FlowCall.Transfers` says what a call does to the two ends of a flow: it is made on the socket
  and the bridge that the call before it left, what the bridge accepts leaves the front of the
  receive buffer, and what the bridge gives is appended to the send buffer.
* `FlowCall.Allowed` says of each call what the trace before it must have been.
* `Relay.History` ties the trace to the two flags of the relay; `Relay.History.step` is its step
  lemma and `Relay.History.run` its run lemma, so `Polling.poll_leads` carries it over a poll.
* `Life` is a flow with the trace of all its polls, and `life_conserves` is the result: at every
  moment of a poll the bytes written to the bridge are what the receive buffer has lost, the bytes
  read from the bridge are what the send buffer has gained, and each direction ends once, after its
  last byte.
-/

namespace Ovpnlane

variable {B : Backend}

/-! ## What a call moves -/

namespace FlowCall

/-- The bytes the bridge accepted in a call. -/
def written : FlowCall B → List UInt8
  | .recv _ data (.ready (.ok count)) _ => data.take count
  | _ => []

/-- The bytes the bridge gave in a call. -/
def taken : FlowCall B → List UInt8
  | .send _ _ (.ready (.ok bytes)) _ => bytes
  | _ => []

/-- A call that moves bytes towards the bridge. -/
def isRecv : FlowCall B → Bool
  | .recv .. => true
  | _ => false

/-- A call that moves bytes towards the socket. -/
def isSend : FlowCall B → Bool
  | .send .. => true
  | _ => false

/-- `socket.close()`. -/
def isClose : FlowCall B → Bool
  | .close _ => true
  | _ => false

/-- A shutdown of the bridge that is complete. -/
def isShut : FlowCall B → Bool
  | .shutdown _ result => result.isDone
  | _ => false

/-- A read by which the bridge reported its end. -/
def isEnd : FlowCall B → Bool
  | .send _ _ read _ => read.isEnd
  | _ => false

/-- `socket.abort()`. -/
def isAbort : FlowCall B → Bool
  | .abort _ => true
  | _ => false

/-- The call was made on the socket `s`. -/
def On (s : B.Socket) : FlowCall B → Prop
  | .isClosed .. => True
  | .sendReply t .. | .recv t .. | .recvError t | .shutdown t _ | .send t .. | .sendError t
  | .close t | .abort t => t = s

/-- What the call asked of the bridge `b`, which became `b'`. -/
def Asked (b b' : B.Stream) : FlowCall B → Prop
  | .recv _ data wrote _ => B.pollWrite b data = (wrote, b')
  | .shutdown _ result => B.pollShutdown b = (result, b')
  | .send _ room read _ => B.pollRead b room = (read, b')
  | _ => b' = b

/-- What the trace before a call and the call itself are like. -/
def Allowed (C : SocketContract B) (pre : List (FlowCall B)) : FlowCall B → Prop
  | .recv .. => ∀ d ∈ pre, d.isShut = false
  | .shutdown s _ => B.mayRecv s = false ∧ C.rx s = [] ∧ ∀ d ∈ pre, d.isShut = false
  | .send _ room _ _ => 0 < room ∧ ∀ d ∈ pre, d.isEnd = false ∧ d.isClose = false
  | .close _ => (∃ e ∈ pre, e.isEnd = true) ∧ ∀ d ∈ pre, d.isClose = false
  | _ => True

end FlowCall

/-- The ends of a flow: its socket and its bridge. -/
structure FlowEnds (B : Backend) where
  socket : B.Socket
  bridge : B.Stream

/-- What a call does to the ends of a flow, up to an abort: what the bridge accepts is what the
receive buffer loses at its front, what the bridge gives is what the send buffer gains at its
back. -/
structure FlowCall.Transfers (C : BufferContract B) (e : FlowEnds B) (c : FlowCall B)
    (e' : FlowEnds B) : Prop where
  on : c.On e.socket
  asked : c.Asked e.bridge e'.bridge
  rx : c.isAbort = false → C.rx e.socket = c.written ++ C.rx e'.socket
  tx : c.isAbort = false → C.tx e'.socket = C.tx e.socket ++ c.taken

/-- The ends of a flow as a system. -/
def transferSystem (C : BufferContract B) : System (FlowEnds B) (FlowCall B) where
  init _ := True
  step e c e' := c.Transfers C e e'

/-- Without an abort, the buffers after a run of calls are those before it less what was written,
and with what was taken. -/
lemma transfers_run {C : BufferContract B} {cs : List (FlowCall B)} {e e' : FlowEnds B}
    (h : (transferSystem C).Run e cs e') (hcs : ∀ c ∈ cs, c.isAbort = false) :
    C.rx e.socket = cs.flatMap FlowCall.written ++ C.rx e'.socket ∧
      C.tx e'.socket = C.tx e.socket ++ cs.flatMap FlowCall.taken := by
  induction h with
  | nil => simp
  | @snoc cs e₁ e₂ c _ hstep ih =>
    simp only [List.mem_append, List.mem_singleton, or_imp, forall_and, forall_eq] at hcs
    obtain ⟨hrx, htx⟩ := ih hcs.1
    constructor
    · rw [hrx, hstep.rx hcs.2]
      simp
    · rw [hstep.tx hcs.2, htx]
      simp

/-! ## The history of a relay -/

namespace Relay

/-- What the trace of a relay and its flags say about each other. -/
structure History (C : SocketContract B) (t : List (FlowCall B)) (r : Relay B) : Prop where
  each : Each (FlowCall.Allowed C) t
  ended : r.upstream ≠ .flowing → ∃ e ∈ t, e.isEnd = true
  notEnded : r.upstream = .flowing → ∀ d ∈ t, d.isEnd = false
  notClosed : r.upstream ≠ .closed → ∀ d ∈ t, d.isClose = false
  notShut : r.shut = false → ∀ d ∈ t, d.isShut = false

variable {C : SocketContract B} {t : List (FlowCall B)} {r r' : Relay B}

lemma rx_eq_nil_of_mayRecv {s : B.Socket} (h : B.mayRecv s = false) : C.rx s = [] := by
  by_contra hne
  rw [(C.mayRecv_iff s).mpr (.inr hne)] at h
  simp at h

/-- A write takes no more than the receive buffer holds, and what it takes is its front. -/
lemma written_append_drop (hstream : StreamContract B) {s : B.Socket} {b : B.Stream}
    {data : List UInt8} (hcan : B.canRecv s = true) (hslice : B.recvSlice s = some data) :
    (Polling.writeOutcome (B.pollWrite b data).1).1 ≤ (C.rx s).length ∧
      C.rx s = FlowCall.written (.recv s data (B.pollWrite b data).1
          (Polling.writeOutcome (B.pollWrite b data).1).1) ++
        (C.rx s).drop (Polling.writeOutcome (B.pollWrite b data).1).1 := by
  obtain ⟨data', hslice', -, hpre⟩ := C.recvSlice_of_canRecv s hcan
  obtain rfl : data = data' := by simpa [hslice] using hslice'
  rcases hw : (B.pollWrite b data).1 with (_ | _ | count) | _ <;>
    simp only [FlowCall.written, Polling.writeOutcome, List.take_zero, List.nil_append,
      List.drop_zero, Nat.zero_le, true_and]
  have hcount := hstream.write_le b data _ hw
  refine ⟨le_trans hcount hpre.length_le, ?_⟩
  obtain ⟨rest, hrx⟩ := hpre
  rw [← hrx, List.drop_append_of_le_length hcount, ← List.append_assoc, List.take_append_drop]

/-- What a call that is not an abort takes out of the receive buffer. -/
lemma Step.rx (C : SocketContract B) (hstream : StreamContract B) {c : FlowCall B}
    (h : r.Step c r') (hc : c.isAbort = false) :
    C.rx r.socket = c.written ++ C.rx r'.socket := by
  cases c with
  | isClosed => obtain ⟨-, rfl⟩ := h; rfl
  | sendReply => obtain ⟨-, -, -, rfl⟩ := h; rfl
  | recv s data wrote count =>
    obtain ⟨rfl, -, -, hcan, hslice, rfl, rfl, rfl⟩ := h
    obtain ⟨hle, hrx⟩ := @written_append_drop B C hstream _ r.bridge _ hcan hslice
    rw [C.rx_dequeue _ _ hle]
    exact hrx
  | recvError => obtain ⟨-, -, -, rfl⟩ := h; rfl
  | shutdown => obtain ⟨-, -, -, -, -, rfl⟩ := h; rfl
  | send s room read count =>
    obtain ⟨rfl, -, -, -, -, rfl, rfl, rfl⟩ := h
    simp [C.rx_enqueue, FlowCall.written]
  | sendError => obtain ⟨-, -, -, rfl⟩ := h; rfl
  | close s =>
    obtain ⟨rfl, -, rfl⟩ := h
    simp [C.rx_close, FlowCall.written]
  | abort => simp [FlowCall.isAbort] at hc

lemma take_readOutcome (read : Poll (Except IoError (List UInt8))) (s : B.Socket) (room : ℕ) :
    (Polling.readOutcome read).2.1.take (Polling.readOutcome read).1 =
      FlowCall.taken (.send s room read (Polling.readOutcome read).1) := by
  rcases read with (_ | bytes) | _ <;> simp [FlowCall.taken, Polling.readOutcome]

/-- What a call that is not an abort puts into the send buffer. -/
lemma Step.tx (C : BufferContract B) (hstream : StreamContract B) {c : FlowCall B}
    (h : r.Step c r') (hc : c.isAbort = false) :
    C.tx r'.socket = C.tx r.socket ++ c.taken := by
  cases c with
  | isClosed => obtain ⟨-, rfl⟩ := h; simp [FlowCall.taken]
  | sendReply => obtain ⟨-, -, -, rfl⟩ := h; simp [FlowCall.taken]
  | recv s data wrote count =>
    obtain ⟨rfl, -, -, -, -, rfl, rfl, rfl⟩ := h
    simp [C.tx_dequeue, FlowCall.taken]
  | recvError => obtain ⟨-, -, -, rfl⟩ := h; simp [FlowCall.taken]
  | shutdown => obtain ⟨-, -, -, -, -, rfl⟩ := h; simp [FlowCall.taken]
  | send s room read count =>
    obtain ⟨rfl, -, -, -, hslice, rfl, rfl, rfl⟩ := h
    -- the bridge fills no more than the slice it was given
    have hroom : (FlowCall.taken (.send r.socket room (B.pollRead r.bridge room).1
        (Polling.readOutcome (B.pollRead r.bridge room).1).1)).length ≤ room := by
      rcases hread : (B.pollRead r.bridge room).1 with (_ | bytes) | _ <;>
        simp only [FlowCall.taken, List.length_nil, Nat.zero_le]
      exact hstream.read_le _ _ _ hread
    rw [take_readOutcome _ r.socket room]
    exact C.tx_enqueue _ _ _ hslice hroom
  | sendError => obtain ⟨-, -, -, rfl⟩ := h; simp [FlowCall.taken]
  | close s =>
    obtain ⟨rfl, -, rfl⟩ := h
    simp [C.tx_close, FlowCall.taken]
  | abort => simp [FlowCall.isAbort] at hc

/-- The ends of a relay. -/
def ends (r : Relay B) : FlowEnds B := ⟨r.socket, r.bridge⟩

/-- Every step of a relay is a transfer between its ends. -/
lemma Step.transfers (C : BufferContract B) (hstream : StreamContract B) {c : FlowCall B}
    (h : r.Step c r') : c.Transfers C r.ends r'.ends := by
  refine ⟨?_, ?_, h.rx C.toSocketContract hstream, h.tx C hstream⟩
  · cases c with
    | isClosed => trivial
    | _ => exact h.1
  · cases c with
    | isClosed => obtain ⟨-, rfl⟩ := h; rfl
    | sendReply => obtain ⟨-, -, -, rfl⟩ := h; rfl
    | recv => obtain ⟨-, -, -, -, -, rfl, -, rfl⟩ := h; rfl
    | recvError => obtain ⟨-, -, -, rfl⟩ := h; rfl
    | shutdown => obtain ⟨-, -, -, -, rfl, rfl⟩ := h; rfl
    | send => obtain ⟨-, -, -, -, -, rfl, -, rfl⟩ := h; rfl
    | sendError => obtain ⟨-, -, -, rfl⟩ := h; rfl
    | close => obtain ⟨-, -, rfl⟩ := h; rfl
    | abort => obtain ⟨-, rfl⟩ := h; rfl

/-- The calls of a run of the relay, on its ends. -/
lemma run_transfers (C : BufferContract B) (hstream : StreamContract B) {cs : List (FlowCall B)}
    (h : (relaySystem B).Run r cs r') : (transferSystem C).Run r.ends cs r'.ends := by
  induction h with
  | nil => exact .nil
  | snoc _ hstep ih => exact ih.snoc (Step.transfers C hstream hstep)

/-- A call that leaves the flags as they are. -/
lemma History.same {c : FlowCall B} (h : History C t r) (hc : c.Allowed C t)
    (hend : c.isEnd = false) (hclose : c.isClose = false) (hshut : c.isShut = false)
    (hup : r'.upstream = r.upstream) (hflag : r'.shut = r.shut) : History C (t ++ [c]) r' where
  each := each_concat.mpr ⟨h.each, hc⟩
  ended := fun hne => by
    obtain ⟨e, he, hisEnd⟩ := h.ended (hup ▸ hne)
    exact ⟨e, by simp [he], hisEnd⟩
  notEnded := fun heq => by
    simpa [or_imp, forall_and, hend] using h.notEnded (hup ▸ heq)
  notClosed := fun hne => by
    simpa [or_imp, forall_and, hclose] using h.notClosed (hup ▸ hne)
  notShut := fun heq => by
    simpa [or_imp, forall_and, hshut] using h.notShut (hflag ▸ heq)

/-- **One call.**  The step lemma: which flag a call depends on, and which one it sets. -/
lemma History.step {c : FlowCall B} (h : History C t r)
    (hstep : r.Step c r') : History C (t ++ [c]) r' := by
  cases c with
  | isClosed reply closed =>
    obtain ⟨-, rfl⟩ := hstep
    exact h.same trivial rfl rfl rfl rfl rfl
  | sendReply s reply answer delivered =>
    obtain ⟨-, -, -, rfl⟩ := hstep
    exact h.same trivial rfl rfl rfl rfl rfl
  | recv s data wrote count =>
    obtain ⟨rfl, -, hopen, -, -, rfl, rfl, rfl⟩ := hstep
    exact h.same (h.notShut hopen) rfl rfl rfl rfl rfl
  | recvError s =>
    obtain ⟨rfl, -, -, rfl⟩ := hstep
    exact h.same trivial rfl rfl rfl rfl rfl
  | shutdown s result =>
    obtain ⟨rfl, -, hopen, hmay, rfl, rfl⟩ := hstep
    have hallowed : FlowCall.Allowed C t (.shutdown r.socket (B.pollShutdown r.bridge).1) :=
      ⟨hmay, rx_eq_nil_of_mayRecv hmay, h.notShut hopen⟩
    refine ⟨each_concat.mpr ⟨h.each, hallowed⟩, fun hne => ?_, fun heq => ?_, fun hne => ?_,
      fun heq => ?_⟩
    · obtain ⟨e, he, hisEnd⟩ := h.ended hne
      exact ⟨e, by simp [he], hisEnd⟩
    · simpa [or_imp, forall_and, FlowCall.isEnd] using h.notEnded heq
    · simpa [or_imp, forall_and, FlowCall.isClose] using h.notClosed hne
    · have hdone : (B.pollShutdown r.bridge).1.isDone = false := heq
      simpa [or_imp, forall_and, FlowCall.isShut, hdone] using h.notShut hopen
  | send s room read count =>
    obtain ⟨rfl, -, hflow, hcan, hslice, rfl, rfl, rfl⟩ := hstep
    have hnotEnded := h.notEnded hflow
    have hnotClosed := h.notClosed (by simp [hflow])
    have hroom : 0 < room := by
      obtain ⟨room', hslice', hpos⟩ := C.sendSlice_of_canSend r.socket hcan
      simp_all
    refine ⟨each_concat.mpr ⟨h.each, hroom, fun d hd => ⟨hnotEnded d hd, hnotClosed d hd⟩⟩,
      fun hne => ?_, fun heq => ?_, fun _ => ?_, fun heq => ?_⟩
    · refine ⟨_, List.mem_append_right t (List.mem_singleton_self _), ?_⟩
      by_contra hmore
      exact hne (if_neg hmore)
    · have hmore : (B.pollRead r.bridge room).1.isEnd = false := by
        by_contra hend
        rw [Bool.not_eq_false] at hend
        simp [hend] at heq
      simpa [or_imp, forall_and, FlowCall.isEnd, hmore] using hnotEnded
    · simpa [or_imp, forall_and, FlowCall.isClose] using hnotClosed
    · simpa [or_imp, forall_and, FlowCall.isShut] using h.notShut heq
  | sendError s =>
    obtain ⟨rfl, -, -, rfl⟩ := hstep
    exact h.same trivial rfl rfl rfl rfl rfl
  | close s =>
    obtain ⟨rfl, hended, rfl⟩ := hstep
    have hex := h.ended (by simp [hended])
    refine ⟨each_concat.mpr ⟨h.each, hex, h.notClosed (by simp [hended])⟩, fun _ => ?_,
      by simp, by simp, fun heq => ?_⟩
    · obtain ⟨e, he, hisEnd⟩ := hex
      exact ⟨e, by simp [he], hisEnd⟩
    · simpa [or_imp, forall_and, FlowCall.isShut] using h.notShut heq
  | abort s =>
    obtain ⟨rfl, rfl⟩ := hstep
    exact h.same trivial rfl rfl rfl rfl rfl

/-- The run lemma. -/
lemma History.run {cs : List (FlowCall B)} (h : History C t r)
    (hrun : (relaySystem B).Run r cs r') : History C (t ++ cs) r' := by
  induction hrun with
  | nil => simpa using h
  | snoc _ hstep ih =>
    rw [← List.append_assoc]
    exact ih.step hstep

end Relay

/-! ## The life of a flow -/

/-- A flow over its polls: `trace` has the calls of all of them, and `live` says that it is still in
the engine's list. -/
structure Life (B : Backend) where
  flow : Flow B
  socket : B.Socket
  world : B.World
  trace : List (FlowCall B)
  live : Bool

/-- What happens to a flow. -/
inductive LifeAct (B : Backend)
  /-- The engine polls it. -/
  | poll (now idleTimeout : Instant)
  /-- Between two polls, anything. -/
  | outside (socket : B.Socket) (bridge : B.Stream) (world : B.World)

namespace Life

/-- One poll of a flow that is still in the engine's list. -/
def poll (l : Life B) (now idleTimeout : Instant) : Option (Life B) :=
  if l.live then
    match l.flow.poll l.socket l.world now idleTimeout with
    | .ok (p, keep) => some ⟨p.flow, p.socket, p.world, l.trace ++ p.calls, keep⟩
    | .error _ => none
  else none

/-- One action. -/
def act (l : Life B) : LifeAct B → Option (Life B)
  | .poll now idleTimeout => l.poll now idleTimeout
  | .outside socket bridge world =>
    some { l with socket := socket, flow := { l.flow with bridge := bridge }, world := world }

/-- A flow as `connect_ip` opens it. -/
def Fresh (l : Life B) : Prop :=
  l.flow.readClosed = false ∧ l.flow.writeClosed = false ∧ l.trace = [] ∧ l.live = true

/-- The ends of a flow between two polls. -/
def ends (l : Life B) : FlowEnds B := ⟨l.socket, l.flow.bridge⟩

/-- The relay a flow is at between two polls. -/
def relay (l : Life B) : Relay B := Polling.relay ⟨l.flow, l.socket, l.world, []⟩

/-- The inversion of a poll. -/
lemma poll_eq_some {l l' : Life B} {now idleTimeout : Instant}
    (h : l.poll now idleTimeout = some l') :
    l.live = true ∧ ∃ p keep, l.flow.poll l.socket l.world now idleTimeout = .ok (p, keep) ∧
      l' = ⟨p.flow, p.socket, p.world, l.trace ++ p.calls, keep⟩ := by
  unfold poll at h
  split_ifs at h with hlive
  split at h
  · next p keep hpoll =>
    obtain rfl : _ = l' := by simpa using h
    exact ⟨hlive, p, keep, hpoll, rfl⟩
  · simp at h

/-- The calls of a poll are a run of the relay. -/
lemma poll_run {l l' : Life B} {now idleTimeout : Instant}
    (h : l.poll now idleTimeout = some l') :
    ∃ cs, l'.trace = l.trace ++ cs ∧ (relaySystem B).Run l.relay cs l'.relay := by
  obtain ⟨-, p, keep, hpoll, rfl⟩ := poll_eq_some h
  obtain ⟨cs, hcs, hrun⟩ := Polling.poll_leads hpoll
  obtain rfl : p.calls = cs := by simpa using hcs
  exact ⟨p.calls, rfl, hrun⟩

end Life

/-- The lives of flows. -/
def lifeSystem (B : Backend) : System (Life B) (LifeAct B) := .ofFun Life.Fresh Life.act

/-- The trace of a flow heeds its own past, and its two flags tell what was in it. -/
lemma life_history {C : SocketContract B} {l : Life B}
    (h : (lifeSystem B).Reachable l) : Relay.History C l.trace l.relay := by
  refine h.invariant (I := fun l => Relay.History C l.trace l.relay) ?_ ?_
  · rintro l ⟨hread, hwrite, htrace, -⟩
    have hup : l.relay.upstream = .flowing := Polling.upstream_of_open hread
    rw [htrace]
    exact ⟨each_nil, by simp [hup], by simp, by simp, by simp⟩
  · rintro l (⟨now, idleTimeout⟩ | ⟨socket, bridge, world⟩) l' hl hstep
    · obtain ⟨cs, htrace, hrun⟩ := Life.poll_run hstep
      rw [htrace]
      exact hl.run hrun
    · obtain rfl : _ = l' := by simpa [lifeSystem, System.ofFun, Life.act] using hstep
      exact ⟨hl.each, hl.ended, hl.notEnded, hl.notClosed, hl.notShut⟩

/-! ## Conservation -/

/-- The bytes of one poll, from `l` to `l'`. -/
structure Carries (C : BufferContract B) (l l' : Life B) : Prop where
  /-- The poll only adds calls. -/
  calls : l.trace <+: l'.trace
  /-- Each call of the poll is made on the ends the call before it left.  After any of them, up to
  an abort, the bytes the bridge has accepted are exactly what the receive buffer has lost, and the
  bytes the bridge has given are exactly what the send buffer has gained. -/
  bytes : ∀ pre post, l'.trace = l.trace ++ (pre ++ post) → (∀ c ∈ pre, c.isAbort = false) →
    ∃ e, (transferSystem C).Run l.ends pre e ∧ (transferSystem C).Run e post l'.ends ∧
      C.rx l.socket = pre.flatMap FlowCall.written ++ C.rx e.socket ∧
      C.tx e.socket = C.tx l.socket ++ pre.flatMap FlowCall.taken

/-- What the trace of a flow has to be for each direction to end once, after its last byte. -/
structure EndsInOrder (C : SocketContract B) (t : List (FlowCall B)) : Prop where
  /-- The socket is closed once, after the bridge has reported its end; after that nothing is
  read from the bridge. -/
  close : ∀ pre s post, t = pre ++ .close s :: post →
    (∃ e ∈ pre, e.isEnd = true) ∧ (∀ d ∈ pre, d.isClose = false) ∧
      ∀ d ∈ post, d.isClose = false ∧ d.isSend = false
  /-- The end of the bridge is its last read. -/
  last : ∀ pre e post, t = pre ++ e :: post → e.isEnd = true → ∀ d ∈ post, d.isSend = false
  /-- The bridge is shut down only when the socket can receive nothing more and has nothing left. -/
  empty : ∀ s result, FlowCall.shutdown s result ∈ t → B.mayRecv s = false ∧ C.rx s = []
  /-- The bridge is shut down once; after that nothing is written to it. -/
  shutdown : ∀ pre c post, t = pre ++ c :: post → c.isShut = true →
    (∀ d ∈ pre, d.isShut = false) ∧ ∀ d ∈ post, d.isShut = false ∧ d.isRecv = false
  /-- A read that fills nothing is the end of the bridge: its buffer is never empty. -/
  room : ∀ s room read count, FlowCall.send s room read count ∈ t → 0 < room

lemma Each.endsInOrder {C : SocketContract B} {t : List (FlowCall B)}
    (h : Each (FlowCall.Allowed C) t) : EndsInOrder C t where
  close := by
    rintro pre s post rfl
    obtain ⟨hend, hpre⟩ := h.at
    refine ⟨hend, hpre, fun d hd => ?_⟩
    obtain ⟨mid, hallowed⟩ := h.later hd
    cases d with
    | close s' => simpa [FlowCall.isClose] using hallowed.2 (.close s) (by simp)
    | send s' room read count =>
      simpa [FlowCall.isClose] using (hallowed.2 (.close s) (by simp)).2
    | _ => exact ⟨rfl, rfl⟩
  last := by
    rintro pre e post rfl hend d hd
    obtain ⟨mid, hallowed⟩ := h.later hd
    cases d with
    | send s' room read count => simp [(hallowed.2 e (by simp)).1] at hend
    | _ => rfl
  empty := by
    intro s result hmem
    obtain ⟨pre, hmay, hrx, -⟩ := h.of_mem hmem
    exact ⟨hmay, hrx⟩
  shutdown := by
    rintro pre c post rfl hshut
    have hc := h.at
    refine ⟨?_, fun d hd => ?_⟩
    · cases c with
      | shutdown s result => exact hc.2.2
      | _ => simp [FlowCall.isShut] at hshut
    · obtain ⟨mid, hallowed⟩ := h.later hd
      cases d with
      | recv s data wrote count => simp [hallowed c (by simp)] at hshut
      | shutdown s result => simp [hallowed.2.2 c (by simp)] at hshut
      | _ => exact ⟨rfl, rfl⟩
  room := by
    intro s room read count hmem
    obtain ⟨pre, hroom, -⟩ := h.of_mem hmem
    exact hroom

lemma Life.poll_carries (C : BufferContract B) (hstream : StreamContract B) {l l' : Life B}
    {now idleTimeout : Instant} (h : l.poll now idleTimeout = some l') : Carries C l l' := by
  obtain ⟨cs, htrace, hrun⟩ := Life.poll_run h
  refine ⟨⟨cs, htrace.symm⟩, fun pre post hsplit hpre => ?_⟩
  obtain rfl : cs = pre ++ post := List.append_cancel_left (htrace.symm.trans hsplit)
  obtain ⟨e, hfirst, hrest⟩ := (Relay.run_transfers C hstream hrun).of_append
  exact ⟨e, hfirst, hrest, transfers_run hfirst hpre⟩

/-- **Byte conservation and half-close order.**  Whatever happens between the polls of a flow, in
each direction exactly the bytes one end gives up are the bytes the other end takes, and each
direction ends once, after its last byte. -/
theorem life_conserves (C : BufferContract B) (hstream : StreamContract B) {l : Life B}
    (h : (lifeSystem B).Reachable l) :
    EndsInOrder C.toSocketContract l.trace ∧
      ∀ now idleTimeout l', l.poll now idleTimeout = some l' → Carries C l l' :=
  ⟨(life_history h).each.endsInOrder, fun _ _ _ hpoll => Life.poll_carries C hstream hpoll⟩

/-! ## A flow on the reference backend -/

namespace Sample

/-- The backend of the samples; its resolver knows no name. -/
abbrev backend : Backend := reference fun _ _ => .failed

/-- Its socket contract. -/
abbrev contract : SocketContract backend := Reference.socketContract _

/-- Its two ring buffers. -/
abbrev buffers : BufferContract backend := Reference.bufferContract _

/-- A connected socket. -/
def socket (state : TcpState) (rx : List UInt8) : Reference.Socket :=
  ⟨state, rx, [], 65536, 65536, some ⟨.v4 (.new 198 51 100 7), 80⟩, 49152, false⟩

/-- A bridge: what the client has not read, what it has written, whether it has ended. -/
def bridge (unread : ℕ) (incoming : List UInt8) (ended : Bool) : Reference.Stream :=
  ⟨65536, unread, incoming, ended, false⟩

/-- A flow whose request has been answered. -/
def life (socket : Reference.Socket) (bridge : Reference.Stream) : Life backend where
  flow := ⟨1, bridge, none, none, ⟨.v4 (.new 10 8 0 2), 49152⟩, 10, 0, false, false, 0⟩
  socket := socket
  world := ⟨0, [], []⟩
  trace := []
  live := true

end Sample

open Sample in
/-- Three bytes down, two bytes up and the client's end, in one poll. -/
theorem life_conserves_exchange :
    ∃ l, (life (socket .established [1, 2, 3]) (bridge 0 [8, 9] true)).poll 1 0 = some l ∧
      l.trace.flatMap FlowCall.written = [1, 2, 3] ∧ l.socket.rx = [] ∧
      l.trace.flatMap FlowCall.taken = [8, 9] ∧ l.socket.tx = [8, 9] ∧
      EndsInOrder contract l.trace ∧
      Carries buffers (life (socket .established [1, 2, 3]) (bridge 0 [8, 9] true)) l := by
  have hinit : (lifeSystem backend).init
      (life (socket .established [1, 2, 3]) (bridge 0 [8, 9] true)) := ⟨rfl, rfl, rfl, rfl⟩
  refine ⟨_, rfl, rfl, rfl, rfl, rfl, ?_, ?_⟩
  · exact (life_conserves buffers (Reference.streamContract _)
      ((System.Reachable.of_init hinit).step (l := .poll 1 0) rfl)).1
  · exact (life_conserves buffers (Reference.streamContract _)
      (System.Reachable.of_init hinit)).2 1 0 _ rfl

end Ovpnlane
