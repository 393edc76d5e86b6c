import Ovpnlane.Construction.Netstack.Engine
import Ovpnlane.Framework.Transition

/-!
# The worker and its tunnel

`run`, `Tunnel` and `StackWorker` (`src/netstack.rs`).  The thread `vpn-ip-stack` owns at most one
engine and two queues that have no order between them: commands (unbounded) and packets tagged with
a generation (at most `maxPackets`).  An iteration of its loop is one `select!` arm, then, with an
engine, up to 256 queued packets, a step of the engine, and the removal of a failed engine.

Every dequeue of a packet is an action of its own, because the other threads send while the worker
drains.  `Worker.act` is the worker's side; `Tunnel.send` and `Tunnel.receive` are what the other
threads do to the queues.  When the thread ends, by `Shutdown` or by a panic, its receivers go, the
queued commands with them, and every later send fails.
-/

namespace Ovpnlane

def maxPackets : ℕ := 1024

def packetBatch : ℕ := 256

/-- The error of a tunnel without an engine: `closed()`. -/
def closedError : IoError := ⟨.notConnected, "VPN is not connected"⟩

inductive Command
  | online (generation : ℕ) (settings : Settings) (sink : SinkId)
  | offline (generation : ℕ)
  | connect (target : Target) (port : ℕ) (reply : Reply)
  | shutdown
  deriving DecidableEq

/-- Where the thread is in an iteration of `run`. -/
inductive Phase
  | select
  /-- In `packets.try_iter().take(256)`, with this many packets left to take. -/
  | drain (left : ℕ)
  | step
  | check
  | stopped
  /-- The thread has panicked, or is in a loop that does not end. -/
  | faulted (fault : Fault)
  deriving DecidableEq

/-- The arguments of `StackWorker::spawn`, and the start of `run`'s clock. -/
structure WorkerConfig where
  connectTimeout : Instant
  idleTimeout : Instant
  maxConnections : ℕ
  clock : Instant
  deriving DecidableEq

inductive WorkerEvent (B : Backend)
  | built (generation : ℕ)
  | removed (generation : ℕ)
  | engine (generation : ℕ) (event : Event B)
  /-- A packet with this tag was taken from the queue; the generation of the engine then. -/
  | dequeued (tag : ℕ) (packet : Packet) (current : Option ℕ)
  | pushed (generation : ℕ) (packet : Packet)
  /-- A request that found no engine was answered `closed()`. -/
  | refused (reply : Reply) (delivered : Bool)
  | dropped (reply : Reply) (cause : DropCause)

structure Worker (B : Backend) where
  config : WorkerConfig
  commands : List Command
  packets : List (ℕ × Packet)
  wake : Bool
  engine : Option (ℕ × Engine B)
  world : B.World
  phase : Phase
  log : List (WorkerEvent B)

variable {B : Backend}

def Engine.replies (e : Engine B) : List Reply :=
  e.lookups.map Lookup.reply ++ e.flows.filterMap Flow.reply

def Command.reply : Command → Option Reply
  | .connect _ _ reply => some reply
  | _ => none

namespace Worker

def spawn (config : WorkerConfig) (world : B.World) : Worker B :=
  { config, commands := [], packets := [], wake := false, engine := none, world,
    phase := .select, log := [] }

def alive (w : Worker B) : Bool :=
  match w.phase with
  | .stopped | .faulted _ => false
  | _ => true

/-- `engine = None`, which drops every stream and every pending request of the engine. -/
def dropEngine (w : Worker B) : Worker B :=
  match w.engine with
  | none => w
  | some (generation, e) =>
    { w with
      engine := none
      log := w.log ++ e.replies.map (.dropped · .engineGone) ++ [.removed generation] }

/-- The thread ends: its engine and both receivers are dropped. -/
def finish (w : Worker B) (phase : Phase) : Worker B :=
  let w := w.dropEngine
  { w with
    commands := [], packets := [], phase := phase
    log := w.log ++ (w.commands.filterMap Command.reply).map (.dropped · .queueGone) }

def onEngine (w : Worker B) (generation : ℕ) (e : Engine B)
    (method : Machine B → Except Fault (Machine B)) : Except Fault (Worker B) :=
  (method ⟨e, w.world, []⟩).map fun m =>
    { w with
      engine := some (generation, m.engine), world := m.world
      log := w.log ++ m.log.map (.engine generation) }

/-- The `Online` arm; `nextPort` is the engine's random first port. -/
def online (w : Worker B) (generation : ℕ) (settings : Settings) (sink : SinkId)
    (nextPort : ℕ) : Worker B :=
  match Engine.new B settings sink w.config.connectTimeout w.config.idleTimeout
      w.config.maxConnections w.config.clock nextPort with
  | .error fault => w.finish (.faulted fault)
  | .ok e =>
    let w := w.dropEngine
    { w with engine := some (generation, e), log := w.log ++ [.built generation] }

def offline (w : Worker B) (generation : ℕ) : Worker B :=
  match w.engine with
  | some (current, _) => if current = generation then w.dropEngine else w
  | none => w

def connect (w : Worker B) (target : Target) (port : ℕ) (reply : Reply) : Worker B :=
  match w.engine with
  | some (generation, e) =>
    match w.onEngine generation e (·.connect target port reply) with
    | .ok w => w
    | .error fault =>
      { w with log := w.log ++ [WorkerEvent.dropped reply .engineGone] }.finish (.faulted fault)
  | none =>
    let (delivered, world) := B.sendReply reply (.error closedError) w.world
    { w with world := world, log := w.log ++ [.refused reply delivered] }

/-- A packet from the queue goes to the engine of its generation and is dropped otherwise. -/
def takePacket (w : Worker B) (tag : ℕ) (packet : Packet) : Worker B :=
  let w := { w with log := w.log ++ [WorkerEvent.dequeued tag packet (w.engine.map Prod.fst)] }
  match w.engine with
  | some (current, e) =>
    if tag = current then
      { w with
        engine := some (current, e.pushIncoming packet)
        log := w.log ++ [WorkerEvent.pushed current packet] }
    else w
  | none => w

/-- The end of a `select!` arm: what follows needs an engine. -/
def afterSelect (w : Worker B) : Worker B :=
  if w.alive then
    { w with phase := if w.engine.isSome then .drain packetBatch else .select }
  else w

/-- The arms of the `select!` that are ready. -/
inductive Choice
  /-- `recv(commands)`, with the first port of an engine this builds. -/
  | command (nextPort : ℕ)
  /-- `recv(commands)` after the last sender is gone. -/
  | hangup
  | packet
  | packetHangup
  | wake
  /-- `default`, when nothing is ready. -/
  | timeout
  deriving DecidableEq

def select (w : Worker B) : Choice → Option (Worker B)
  | .command nextPort =>
    match w.commands with
    | [] => none
    | command :: rest =>
      let w := { w with commands := rest }
      some (match command with
        | .online generation settings sink => w.online generation settings sink nextPort
        | .offline generation => w.offline generation
        | .connect target port reply => w.connect target port reply
        | .shutdown => w.finish .stopped).afterSelect
  | .hangup => if w.commands.isEmpty then some (w.finish .stopped) else none
  | .packet =>
    match w.packets with
    | [] => none
    | (tag, packet) :: rest =>
      some ({ w with packets := rest }.takePacket tag packet).afterSelect
  | .packetHangup => if w.packets.isEmpty then some w.afterSelect else none
  | .wake => if w.wake then some { w with wake := false }.afterSelect else none
  | .timeout =>
    if w.commands.isEmpty && w.packets.isEmpty && !w.wake then some w.afterSelect else none

/-- One packet of the batch, or the end of the batch. -/
def drain (w : Worker B) (left : ℕ) : Worker B :=
  match left, w.packets with
  | left + 1, (tag, packet) :: rest =>
    ({ w with packets := rest, phase := .drain left }).takePacket tag packet
  | _, _ => { w with phase := .step }

def stepEngine (w : Worker B) : Worker B :=
  match w.engine with
  | none => { w with phase := .check }
  | some (generation, e) =>
    match w.onEngine generation e Machine.step with
    | .ok w => { w with phase := .check }
    | .error fault => w.finish (.faulted fault)

def checkFailed (w : Worker B) : Worker B :=
  let failed := match w.engine with
    | some (_, e) => e.device.failed
    | none => false
  { (if failed then w.dropEngine else w) with phase := .select }

inductive Action
  | select (choice : Choice)
  | advance
  deriving DecidableEq

/-- One action of the thread; `none` if it is not at that point. -/
def act (w : Worker B) : Action → Option (Worker B)
  | .select choice => if w.phase = .select then w.select choice else none
  | .advance =>
    match w.phase with
    | .drain left => some (w.drain left)
    | .step => some w.stepEngine
    | .check => some w.checkFailed
    | _ => none

/-- The first port of an engine is what the random generator picks. -/
def Action.admissible : Action → Bool
  | .select (.command nextPort) => decide (49152 ≤ nextPort ∧ nextPort < 65535)
  | _ => true

end Worker

/-! ## The other threads' side -/

namespace Tunnel

/-- `commands.send(command)`; a command that cannot be sent is dropped. -/
def send (w : Worker B) (command : Command) : Worker B × Except IoError Unit :=
  if w.alive then ({ w with commands := w.commands ++ [command] }, .ok ())
  else
    ({ w with log := w.log ++ command.reply.toList.map (.dropped · .queueGone) },
      .error closedError)

def online (w : Worker B) (generation : ℕ) (settings : Settings) (sink : SinkId) :
    Worker B × Except IoError Unit := send w (.online generation settings sink)

def offline (w : Worker B) (generation : ℕ) : Worker B := (send w (.offline generation)).1

def receive (w : Worker B) (generation : ℕ) (packet : Packet) : Worker B × Bool :=
  if packet.length ≤ 65535 && w.alive && decide (w.packets.length < maxPackets) then
    ({ w with packets := w.packets ++ [(generation, packet)] }, true)
  else (w, false)

/-- The end of `Tunnel::connect`: the value the request was answered with, `none` if its sender was
dropped. -/
def connectResult (answer : Option B.Answer) : B.Answer := answer.getD (.error closedError)

def wake (w : Worker B) : Worker B := if w.alive then { w with wake := true } else w

end Tunnel

/-! ## The worker among the other threads -/

/-- The worker, and the replies of the requests that have been issued. -/
structure Stack (B : Backend) where
  worker : Worker B
  issued : List Reply

/-- What happens to a worker: what its thread does, what the others send, and time passing with the
clients using their ends of the streams. -/
inductive StackAct (B : Backend)
  | thread (action : Worker.Action)
  | send (command : Command)
  | receive (generation : ℕ) (packet : Packet)
  | wake
  | outside (world : B.World) (bridge : Flow B → B.Stream)

/-- One action; every request has a reply of its own. -/
def Stack.act (s : Stack B) : StackAct B → Option (Stack B)
  | .thread action =>
    if action.admissible then (s.worker.act action).map fun w => { s with worker := w } else none
  | .send command =>
    if command.reply.any (· ∈ s.issued) then none
    else some ⟨(Tunnel.send s.worker command).1, s.issued ++ command.reply.toList⟩
  | .receive generation packet =>
    some { s with worker := (Tunnel.receive s.worker generation packet).1 }
  | .wake => some { s with worker := Tunnel.wake s.worker }
  | .outside world bridge =>
    some { s with worker := { s.worker with
      engine := s.worker.engine.map fun (generation, e) => (generation, e.setBridges bridge)
      world := world } }

/-- A worker from its start on, with a limit the command line admits. -/
def stackSystem (B : Backend) : System (Stack B) (StackAct B) :=
  .ofFun (fun s => ∃ config world, config.maxConnections ≤ 4096 ∧
    s = ⟨Worker.spawn config world, []⟩) Stack.act

end Ovpnlane
