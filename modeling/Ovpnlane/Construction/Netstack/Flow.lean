import Ovpnlane.Construction.Netstack.Backend

/-!
# One flow

`Flow` and `Flow::poll` (`src/netstack.rs`): a TCP socket on one side, the engine's half of a
duplex stream (the *bridge*) on the other.  A poll answers the request if it is still open, checks
the idle timeout, moves up to 64 slices from the socket to the bridge, shuts the bridge down once
the socket can receive nothing more, moves up to 64 slices from the bridge to the socket, and
reports whether the flow stays.

The four parts are four functions on a `Polling`, which holds what a poll mutates: the flow, its
socket, the world, and the trace of the calls made so far.  The trace is the only addition to the
source; each call is recorded with the socket it was made on and with its outcome, so that a
statement about the bytes that moved or about the order of two calls is a statement about traces.
-/

namespace Ovpnlane

/-- `netstack::Flow`.  `request` is a ghost: the request the flow was opened for, which the source
forgets once `reply` has been taken. -/
structure Flow (B : Backend) where
  socket : SocketHandle
  bridge : B.Stream
  client : Option B.Stream
  reply : Option Reply
  localAddr : SocketAddr
  deadline : Instant
  activity : Instant
  readClosed : Bool
  writeClosed : Bool
  request : Reply

/-- A call `Flow::poll` makes, on the socket as it is before the call. -/
inductive FlowCall (B : Backend)
  | isClosed (reply : Reply) (closed : Bool)
  | sendReply (s : B.Socket) (reply : Reply) (answer : B.Answer) (delivered : Bool)
  /-- `socket.recv` whose closure offered `data` to `poll_write` and returned `count`. -/
  | recv (s : B.Socket) (data : List UInt8) (wrote : Poll (Except IoError ℕ)) (count : ℕ)
  | recvError (s : B.Socket)
  | shutdown (s : B.Socket) (result : Poll (Except IoError Unit))
  /-- `socket.send` whose closure gave `poll_read` a slice of `room` bytes and returned `count`. -/
  | send (s : B.Socket) (room : ℕ) (read : Poll (Except IoError (List UInt8))) (count : ℕ)
  | sendError (s : B.Socket)
  | close (s : B.Socket)
  | abort (s : B.Socket)

/-- What a poll mutates, and the calls it has made. -/
structure Polling (B : Backend) where
  flow : Flow B
  socket : B.Socket
  world : B.World
  calls : List (FlowCall B)

variable {B : Backend}

namespace Polling

def note (p : Polling B) (c : FlowCall B) : Polling B := { p with calls := p.calls ++ [c] }

def touch (p : Polling B) (now : Instant) : Polling B :=
  { p with flow := { p.flow with activity := now } }

def abort (p : Polling B) : Polling B :=
  { p.note (.abort p.socket) with socket := B.abort p.socket }

def isClosed (p : Polling B) (reply : Reply) : Bool × Polling B :=
  let (closed, world) := B.isClosed reply p.world
  (closed, { p.note (.isClosed reply closed) with world := world })

def takeClient (p : Polling B) : Polling B := { p with flow := { p.flow with client := none } }

/-- `self.reply.take().unwrap().send(answer)`, and whether the receiver took it. -/
def sendReply (p : Polling B) (answer : B.Answer) : Except Fault (Bool × Polling B) :=
  match p.flow.reply with
  | none => .error .unwrapNone
  | some reply =>
    let (delivered, world) := B.sendReply reply answer p.world
    .ok (delivered, { p.note (.sendReply p.socket reply answer delivered) with
      flow := { p.flow with reply := none }, world := world })

/-! ## The pending reply -/

/-- The failure a pending request is answered with, if any. -/
def failure (p : Polling B) (now : Instant) : Option ErrorKind :=
  if p.flow.deadline ≤ now then some .timedOut
  else if B.state p.socket = .closed then some .connectionRefused
  else none

/-- The first part of `Flow::poll`: answer an open request.  The second component is the result of
the poll where it ends here. -/
def pollReply (p : Polling B) (now : Instant) : Except Fault (Polling B × Option Bool) :=
  match p.flow.reply with
  | none => .ok (p, none)
  | some reply =>
    let (closed, p) := p.isClosed reply
    if closed then .ok (p.abort, some false)
    else
      match p.failure now with
      | some kind => do
        let (_, p) ← p.sendReply (.error ⟨kind, "VPN TCP connection failed"⟩)
        .ok (p.abort, some false)
      | none =>
        if B.state p.socket = .established then
          match p.flow.client with
          | none => .error .unwrapNone
          | some stream => do
            let (delivered, p) ← p.takeClient.sendReply (.ok ⟨stream, p.flow.localAddr⟩)
            if delivered then .ok (p.touch now, none) else .ok (p.abort, some false)
        else .ok (p, some true)

/-! ## Socket to bridge -/

/-- The closure of `socket.recv`: the count it returns to the ring buffer, and its result. -/
def writeOutcome : Poll (Except IoError ℕ) → ℕ × Except IoError ℕ
  | .ready (.ok (count + 1)) => (count + 1, .ok (count + 1))
  | .ready (.ok 0) => (0, .error ⟨.writeZero, "write zero"⟩)
  | .ready (.error error) => (0, .error error)
  | .pending => (0, .ok 0)

/-- `socket.recv` on the slice `data`, with the closure that offers it to the bridge. -/
def recv (p : Polling B) (data : List UInt8) : Except IoError ℕ × Polling B :=
  let (wrote, bridge) := B.pollWrite p.flow.bridge data
  let (count, result) := writeOutcome wrote
  (result, { p.note (.recv p.socket data wrote count) with
    socket := B.dequeue p.socket count, flow := { p.flow with bridge := bridge } })

/-- The first `for _ in 0..64` loop, with the rounds left.  `false`: the socket was aborted and
the poll returns `false`. -/
def socketToBridge (now : Instant) : ℕ → Polling B → Polling B × Bool
  | 0, p => (p, true)
  | rounds + 1, p =>
    if !B.canRecv p.socket || p.flow.writeClosed then (p, true)
    else
      match B.recvSlice p.socket with
      | none => ((p.note (.recvError p.socket)).abort, false)
      | some data =>
        match p.recv data with
        | (.ok (_ + 1), p) => socketToBridge now rounds (p.touch now)
        | (.ok 0, p) => (p, true)
        | (.error _, p) => (p.abort, false)

/-! ## End of the socket's stream -/

def setWriteClosed (p : Polling B) : Polling B :=
  { p with flow := { p.flow with writeClosed := true } }

def shutdown (p : Polling B) : Polling B :=
  let (result, bridge) := B.pollShutdown p.flow.bridge
  { p.note (.shutdown p.socket result) with flow := { p.flow with bridge := bridge } }

/-- The shutdown of the bridge's write half once the socket can receive nothing more. -/
def shutdownBridge (p : Polling B) : Polling B × Bool :=
  if !B.mayRecv p.socket && !p.flow.writeClosed then
    match (B.pollShutdown p.flow.bridge).1 with
    | .ready (.ok ()) => (p.shutdown.setWriteClosed, true)
    | .ready (.error _) => (p.shutdown.abort, false)
    | .pending => (p.shutdown, true)
  else (p, true)

/-! ## Bridge to socket -/

/-- The closure of `socket.send`: the count it returns to the ring buffer, the bytes it left at
the front of the slice, and its result. -/
def readOutcome : Poll (Except IoError (List UInt8)) →
    ℕ × List UInt8 × Except IoError (Option ℕ)
  | .ready (.ok filled) => (filled.length, filled, .ok (some filled.length))
  | .ready (.error error) => (0, [], .error error)
  | .pending => (0, [], .ok none)

/-- `socket.send` on a slice of `room` bytes, with the closure that fills it from the bridge. -/
def send (p : Polling B) (room : ℕ) : Except IoError (Option ℕ) × Polling B :=
  let (read, bridge) := B.pollRead p.flow.bridge room
  let (count, filled, result) := readOutcome read
  (result, { p.note (.send p.socket room read count) with
    socket := B.enqueue p.socket (filled.take count), flow := { p.flow with bridge := bridge } })

def closeSocket (p : Polling B) : Polling B :=
  { p.note (.close p.socket) with
    socket := B.close p.socket, flow := { p.flow with readClosed := true } }

/-- The second `for _ in 0..64` loop, with the rounds left. -/
def bridgeToSocket (now : Instant) : ℕ → Polling B → Polling B × Bool
  | 0, p => (p, true)
  | rounds + 1, p =>
    if !B.canSend p.socket || p.flow.readClosed then (p, true)
    else
      match B.sendSlice p.socket with
      | none => ((p.note (.sendError p.socket)).abort, false)
      | some room =>
        match p.send room with
        | (.ok (some 0), p) => (p.closeSocket, true)
        | (.ok (some (_ + 1)), p) => bridgeToSocket now rounds (p.touch now)
        | (.ok none, p) => (p, true)
        | (.error _, p) => (p.abort, false)

def idleExpired (p : Polling B) (now idleTimeout : Instant) : Bool :=
  idleTimeout != 0 && decide (idleTimeout ≤ now - p.flow.activity)

/-- `Flow::poll` on a flow, its socket and the world; the flow stays iff the result is `true`. -/
def poll (p : Polling B) (now idleTimeout : Instant) : Except Fault (Polling B × Bool) := do
  let (p, result) ← p.pollReply now
  match result with
  | some keep => .ok (p, keep)
  | none =>
    if p.idleExpired now idleTimeout then .ok (p.abort, false)
    else
      match p.socketToBridge now 64 with
      | (p, false) => .ok (p, false)
      | (p, true) =>
        match p.shutdownBridge with
        | (p, false) => .ok (p, false)
        | (p, true) =>
          match p.bridgeToSocket now 64 with
          | (p, false) => .ok (p, false)
          | (p, true) => .ok (p, B.state p.socket != .closed)

end Polling

def Flow.poll (f : Flow B) (s : B.Socket) (w : B.World) (now idleTimeout : Instant) :
    Except Fault (Polling B × Bool) :=
  Polling.poll ⟨f, s, w, []⟩ now idleTimeout

end Ovpnlane
