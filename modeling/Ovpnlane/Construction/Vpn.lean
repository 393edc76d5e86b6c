import Ovpnlane.Construction.Netstack.Worker

/-!
# The VPN callbacks

`UserspaceVpn` (`src/vpn.rs`): OpenVPN Core calls `configure`, `start`, `stop`, `set_disconnect`
and `send` from threads of its own.  Each takes the lock of `vpn::State` for a section, and `start`
takes it twice and sends to the worker outside of it; so a `start` in progress is a value of its own
(`Starting`), which is resumed one section or one channel send at a time, while other callbacks, the
worker and the clients go on.

`Vpn` is the handler, the starts in progress and the worker's `Stack`; `vpnSystem` lets all of them
act in any order, `serialVpnSystem` has the callbacks run one at a time.  `sent` and `log`
are ghosts: the commands the worker's queue took, and what the handler did.
-/

namespace Ovpnlane

/-- `vpn::State`; what `info` reads back is left out. -/
structure VpnState where
  generation : ℕ
  mtu : ℕ
  /-- `Option<ExternalTunIo>`; the sink of an engine is made of the same value. -/
  io : Option SinkId
  deriving DecidableEq

inductive Starting
  /-- Before it reads the MTU and parses the options. -/
  | called (options : String) (io : SinkId)
  /-- Before it takes the next generation. -/
  | parsed (settings : Settings) (io : SinkId)
  /-- Before it sends `Online`. -/
  | tagged (generation : ℕ) (settings : Settings) (io : SinkId)
  /-- Before `pre_tun_config`, `pre_route_config` and `connected`. -/
  | activating (generation : ℕ)
  /-- Before it sends `Offline`. -/
  | failing (generation : ℕ)
  deriving DecidableEq

inductive VpnEvent
  /-- `send` gave a packet to the worker's queue, in this state. -/
  | accepted (state : VpnState) (packet : Packet)
  | error (io : SinkId) (text : String)
  deriving DecidableEq

/-- The handler with its starts in progress, among the worker and its clients. -/
structure Vpn (B : Backend) where
  dns : List IpAddr
  state : VpnState
  starts : List Starting
  stack : Stack B
  sent : List Command
  log : List VpnEvent

variable {B : Backend}

namespace Vpn

def new (dns : List IpAddr) (stack : Stack B) : Vpn B :=
  { dns, state := ⟨0, 0, none⟩, starts := [], stack, sent := [], log := [] }

def note (v : Vpn B) (e : VpnEvent) : Vpn B := { v with log := v.log ++ [e] }

/-- The worker after a command was sent to it. -/
def sending (v : Vpn B) (command : Command) (worker : Worker B) : Vpn B :=
  { v with
    stack := { v.stack with worker := worker }
    sent := if v.stack.worker.alive then v.sent ++ [command] else v.sent }

def command (v : Vpn B) (command : Command) : Vpn B × Except IoError Unit :=
  let (worker, result) := Tunnel.send v.stack.worker command
  (v.sending command worker, result)

def online (v : Vpn B) (generation : ℕ) (settings : Settings) (io : SinkId) :
    Vpn B × Except IoError Unit :=
  let (worker, result) := Tunnel.online v.stack.worker generation settings io
  (v.sending (.online generation settings io) worker, result)

def offline (v : Vpn B) (generation : ℕ) : Vpn B :=
  v.sending (.offline generation) (Tunnel.offline v.stack.worker generation)

def configure (v : Vpn B) (layer mtu : ℕ) : Vpn B × Bool :=
  if layer ≠ 3 then (v, false)
  else ({ v with state := { v.state with mtu := if 0 < mtu then mtu else 1500 } }, true)

/-- One section or one channel send of a `start`, and where it is then; `none` when it returns.
`activated` is the outcome of the three calls that activate the tunnel. -/
def resume (v : Vpn B) (activated : Bool) : Starting → Vpn B × Option Starting
  | .called options io =>
    match Settings.parse options v.state.mtu v.dns with
    | .ok settings => (v, some (.parsed settings io))
    | .error text => (v.note (.error io text), none)
  | .parsed settings io =>
    let generation := v.state.generation + 1
    ({ v with state := { v.state with generation := generation, io := some io } },
      some (.tagged generation settings io))
  | .tagged generation settings io =>
    match v.online generation settings io with
    | (v, .ok ()) => (v, some (.activating generation))
    | (v, .error error) => (v.note (.error io error.message), none)
  | .activating generation => (v, if activated then none else some (.failing generation))
  | .failing generation => (v.offline generation, none)

/-- `stop` and `set_disconnect`. -/
def stop (v : Vpn B) : Vpn B :=
  { v with state := { v.state with io := none } }.offline v.state.generation

def send (v : Vpn B) (packet : Packet) : Vpn B × Bool :=
  if v.state.io.isSome then
    let (worker, taken) := Tunnel.receive v.stack.worker v.state.generation packet
    ({ v with
      stack := { v.stack with worker := worker }
      log := if taken then v.log ++ [.accepted v.state packet] else v.log }, taken)
  else (v, false)

@[simp] lemma online_eq (v : Vpn B) (generation : ℕ) (settings : Settings) (io : SinkId) :
    v.online generation settings io = v.command (.online generation settings io) := rfl

@[simp] lemma offline_eq (v : Vpn B) (generation : ℕ) :
    v.offline generation = (v.command (.offline generation)).1 := rfl

end Vpn

/-! ## Everyone together -/

/-- A command that no callback sends. -/
def Command.fromClient : Command → Bool
  | .connect .. | .shutdown => true
  | _ => false

inductive VpnAct (B : Backend)
  | thread (action : Worker.Action)
  /-- A client of the tunnel, or the end of the process. -/
  | client (command : Command)
  | wake
  | outside (world : B.World) (bridge : Flow B → B.Stream)
  | configure (layer mtu : ℕ)
  | start (options : String) (io : SinkId)
  | resume (i : ℕ) (activated : Bool)
  | stop
  | send (packet : Packet)

namespace Vpn

/-- What happens to the worker beside the callbacks. -/
def onStack (v : Vpn B) (a : StackAct B) : Option (Vpn B) :=
  (v.stack.act a).map fun stack => { v with stack := stack }

def act (v : Vpn B) : VpnAct B → Option (Vpn B)
  | .thread action => v.onStack (.thread action)
  | .client command =>
    if command.fromClient then
      (v.onStack (.send command)).map fun v' =>
        { v' with sent := if v.stack.worker.alive then v.sent ++ [command] else v.sent }
    else none
  | .wake => v.onStack .wake
  | .outside world bridge => v.onStack (.outside world bridge)
  | .configure layer mtu => some (v.configure layer mtu).1
  | .start options io => some { v with starts := v.starts ++ [.called options io] }
  | .resume i activated =>
    v.starts[i]?.map fun starting =>
      match v.resume activated starting with
      | (v', some next) => { v' with starts := v.starts.set i next }
      | (v', none) => { v' with starts := v.starts.eraseIdx i }
  | .stop => some v.stop
  | .send packet => some (v.send packet).1

/-- Callbacks one at a time: one is called only when no start is in progress. -/
def serial (v : Vpn B) : VpnAct B → Bool
  | .configure .. | .start .. | .stop | .send _ => v.starts.isEmpty
  | _ => true

def actSerially (v : Vpn B) (a : VpnAct B) : Option (Vpn B) :=
  if v.serial a then v.act a else none

end Vpn

/-- The handler, the worker and the clients in any order. -/
def vpnSystem (B : Backend) : System (Vpn B) (VpnAct B) :=
  .ofFun (fun v => ∃ dns stack, (stackSystem B).init stack ∧ v = .new dns stack) Vpn.act

/-- The same with callbacks one at a time. -/
def serialVpnSystem (B : Backend) : System (Vpn B) (VpnAct B) :=
  .ofFun (vpnSystem B).init Vpn.actSerially

end Ovpnlane
