import Ovpnlane.Construction.Netstack.Flow
import Ovpnlane.Construction.Settings
import Ovpnlane.Framework.Sweep

/-!
# The engine

`Engine` (`src/netstack.rs`): the IP stack of one tunnel session, with its open DNS lookups and its
flows.  `Engine.new`, `connect`, `connectIp` and `step` are the source's functions on a `Machine`,
which is the engine together with the world it runs in and the log of what it did.  A request's
reply is a linear value in the source; here it is an identity, and every place where the source
consumes or drops one is an entry of the log (`Event.sent`, `Event.dropped`, `FlowCall.sendReply`).

The two loops of `step` are sweeps (`Framework/Sweep.lean`).  Nothing in a loop's body reads the
vector the loop runs over, so the vector is taken out of the engine while it runs.
-/

namespace Ovpnlane

/-! ## State -/

def bufferSize : ℕ := 64 * 1024

inductive Target
  | ip (ip : IpAddr)
  | domain (name : String)
  deriving DecidableEq

/-- `netstack::PacketDevice`.  `received` is a ghost: how many packets `receive` has handed over. -/
structure PacketDevice where
  incoming : List Packet
  sink : SinkId
  mtu : ℕ
  failed : Bool
  received : ℕ
  deriving DecidableEq

def PacketDevice.receive (d : PacketDevice) : PacketDevice :=
  match d.incoming with
  | [] => d
  | _ :: rest => { d with incoming := rest, received := d.received + 1 }

structure Lookup where
  query : QueryHandle
  name : String
  fallback : Option DnsQueryType
  port : ℕ
  reply : Reply
  deadline : Instant
  deriving DecidableEq

/-- `netstack::Engine`; `net` is its `iface` and its `sockets`. -/
structure Engine (B : Backend) where
  settings : Settings
  device : PacketDevice
  net : B.Net
  dns : SocketHandle
  flows : List (Flow B)
  lookups : List Lookup
  nextPort : ℕ
  connectTimeout : Instant
  idleTimeout : Instant
  maxConnections : ℕ
  clock : Instant

/-- Why a reply was dropped without being sent. -/
inductive DropCause
  | receiverClosed
  | engineGone
  | queueGone
  deriving DecidableEq, Repr

/-- What the engine did, in order. -/
inductive Event (B : Backend)
  /-- `connect` took the request on, with this deadline. -/
  | accepted (reply : Reply) (deadline : Instant)
  /-- `reply.is_closed()` outside a flow. -/
  | observed (reply : Reply) (closed : Bool)
  /-- `reply.send(answer)` outside a flow. -/
  | sent (reply : Reply) (answer : B.Answer) (delivered : Bool)
  | dropped (reply : Reply) (cause : DropCause)
  | query (reply : Reply) (name : String) (kind : DnsQueryType) (handle : Except String QueryHandle)
  | queryResult (reply : Reply) (handle : QueryHandle) (result : QueryResult)
  | connectIp (reply : Reply) (ip : IpAddr) (port : ℕ)
  /-- A call of `Flow::poll` on the flow of a request. -/
  | flow (request : Reply) (call : FlowCall B)
  | transmitted (packet : Packet) (taken : Bool)
  /-- The `now` of a step. -/
  | stepAt (now : Instant)

/-- An engine, the world it runs in, and what it has done. -/
structure Machine (B : Backend) where
  engine : Engine B
  world : B.World
  log : List (Event B)

variable {B : Backend}

/-! ## `Engine::new` -/

namespace Engine

def pushAddress (B : Backend) (addresses : List IpCidr) (cidr : IpCidr) (text : String) :
    Except Fault (List IpCidr) :=
  if addresses.length < B.ipAddrSlots then .ok (addresses ++ [cidr])
  else .error (.expectFailed text)

def assignAddresses (B : Backend) (settings : Settings) (addresses : List IpCidr) :
    Except Fault (List IpCidr) := do
  let addresses ← match settings.ipv4 with
    | some ip => pushAddress B addresses ⟨.v4 ip, 32⟩ "IPv4 slot"
    | none => .ok addresses
  match settings.ipv6 with
  | some ip => pushAddress B addresses ⟨.v6 ip, 128⟩ "IPv6 slot"
  | none => .ok addresses

def addRoute (net : B.Net) (address : Option IpAddr) (text : String) : Except Fault B.Net :=
  match address with
  | none => .ok net
  | some ip => (B.addDefaultRoute net ip).elim (.error (.expectFailed text)) .ok

/-- `Engine::new`, with the local port the random generator picks. -/
def new (B : Backend) (settings : Settings) (sink : SinkId)
    (connectTimeout idleTimeout : Instant) (maxConnections : ℕ) (clock : Instant)
    (nextPort : ℕ) : Except Fault (Engine B) := do
  let net := B.interfaceNew settings.mtu
  let addresses ← assignAddresses B settings (B.ipAddrs net)
  let net ← (B.setIpAddrs net addresses).elim (.error .notUnicast) .ok
  let net ← addRoute net (settings.ipv4.map .v4) "IPv4 route slot"
  let net ← addRoute net (settings.ipv6.map .v6) "IPv6 route slot"
  let (dns, net) := B.addDns net settings.dns
  .ok { settings, device := ⟨[], sink, settings.mtu, false, 0⟩, net, dns, flows := [],
        lookups := [], nextPort, connectTimeout, idleTimeout, maxConnections, clock }

def pushIncoming (e : Engine B) (packet : Packet) : Engine B :=
  { e with device := { e.device with incoming := e.device.incoming ++ [packet] } }

/-- The clients have used their ends of the streams. -/
def setBridges (e : Engine B) (bridge : Flow B → B.Stream) : Engine B :=
  { e with flows := e.flows.map fun f => { f with bridge := bridge f } }

end Engine

namespace Machine

def note (m : Machine B) (e : Event B) : Machine B := { m with log := m.log ++ [e] }

def setNet (m : Machine B) (net : B.Net) : Machine B :=
  { m with engine := { m.engine with net := net } }

def now (m : Machine B) : Instant × Machine B :=
  let (t, world) := B.now m.world
  (t, { m with world := world })

def isClosed (m : Machine B) (reply : Reply) : Bool × Machine B :=
  let (closed, world) := B.isClosed reply m.world
  (closed, { m.note (.observed reply closed) with world := world })

def answer (m : Machine B) (reply : Reply) (answer : B.Answer) : Machine B :=
  let (delivered, world) := B.sendReply reply answer m.world
  { m.note (.sent reply answer delivered) with world := world }

def refuse (m : Machine B) (reply : Reply) (kind : ErrorKind) (message : String) : Machine B :=
  m.answer reply (.error ⟨kind, message⟩)

/-! ## The DNS socket -/

def dnsSocket (m : Machine B) : Except Fault Unit :=
  if B.dnsSocket m.engine.net m.engine.dns then .ok () else .error .socketHandle

def startQuery (m : Machine B) (reply : Reply) (name : String) (kind : DnsQueryType) :
    Except Fault (Except String QueryHandle × Machine B) := do
  m.dnsSocket
  let (handle, net) := B.startQuery m.engine.net m.engine.dns name kind
  .ok (handle, (m.setNet net).note (.query reply name kind handle))

def getQueryResult (m : Machine B) (reply : Reply) (query : QueryHandle) :
    Except Fault (QueryResult × Machine B) := do
  m.dnsSocket
  match B.getQueryResult m.engine.net m.engine.dns query with
  | none => .error .querySlot
  | some (result, net) => .ok (result, (m.setNet net).note (.queryResult reply query result))

def cancelQuery (m : Machine B) (query : QueryHandle) : Except Fault (Machine B) := do
  m.dnsSocket
  match B.cancelQuery m.engine.net m.engine.dns query with
  | none => .error .querySlot
  | some net => .ok (m.setNet net)

/-! ## `Engine::connect_ip` -/

def nextLocalPort (port : ℕ) : ℕ := if port = 65535 then 49152 else port + 1

/-- The port search, one unit of fuel an iteration: the port found and the new `next_port`. -/
def findPort (flows : List (Flow B)) : ℕ → ℕ → Option (ℕ × ℕ)
  | 0, _ => none
  | fuel + 1, nextPort =>
    if flows.any (fun f => f.localAddr.port == nextPort) then
      findPort flows fuel (nextLocalPort nextPort)
    else some (nextPort, nextLocalPort nextPort)

/-- Enough iterations to have tried every port a `u16` can reach: a search that has not ended by
then visits the same used ports for ever. -/
def portFuel : ℕ := 65536 + 16384

def newSocket (B : Backend) : B.Socket :=
  B.setKeepAlive (B.setNagleEnabled (B.tcpNew bufferSize bufferSize) false) (some 30)

def localIp (settings : Settings) : IpAddr → Except Fault IpAddr
  | .v4 _ => (settings.ipv4.map IpAddr.v4).elim (.error .unwrapNone) .ok
  | .v6 _ => (settings.ipv6.map IpAddr.v6).elim (.error .unwrapNone) .ok

/-- The end of `connect_ip`: the connected socket becomes a flow. -/
def openFlow (m : Machine B) (socket : B.Socket) (localAddr : SocketAddr) (reply : Reply)
    (deadline : Instant) : Machine B :=
  let (handle, net) := B.addTcp m.engine.net socket
  let ((bridge, client), world) := B.duplex bufferSize m.world
  let (activity, m) := ({ m.setNet net with world := world } : Machine B).now
  let flow : Flow B :=
    { socket := handle, bridge, client := some client, reply := some reply, localAddr, deadline,
      activity, readClosed := false, writeClosed := false, request := reply }
  { m with engine := { m.engine with flows := m.engine.flows ++ [flow] } }

/-- `Engine::connect_ip` from the port search on. -/
def dial (m : Machine B) (ip : IpAddr) (port : ℕ) (reply : Reply) (deadline : Instant) :
    Except Fault (Machine B) :=
  match findPort m.engine.flows portFuel m.engine.nextPort with
  | none => .error .portLoop
  | some (localPort, nextPort) => do
    let m := { m with engine := { m.engine with nextPort := nextPort } }
    let (socket, net) := B.tcpConnect m.engine.net (newSocket B) ip port localPort
    let m := m.setNet net
    match socket with
    | .error text => .ok (m.refuse reply .other text)
    | .ok socket => do
      let localIp ← localIp m.engine.settings ip
      .ok (m.openFlow socket ⟨localIp, localPort⟩ reply deadline)

def connectIp (m : Machine B) (ip : IpAddr) (port : ℕ) (reply : Reply) (deadline : Instant) :
    Except Fault (Machine B) :=
  let m := m.note (.connectIp reply ip port)
  if !m.engine.settings.supportsFamily ip then
    .ok (m.refuse reply .networkUnreachable "address family not assigned by VPN")
  else if port == 0 || ip.isUnspecified || ip.isMulticast then
    .ok (m.refuse reply .invalidInput "invalid destination")
  else m.dial ip port reply deadline

/-! ## `Engine::connect` -/

def queryType (settings : Settings) : DnsQueryType := if settings.ipv4.isSome then .a else .aaaa

def fallbackType (settings : Settings) : Option DnsQueryType :=
  if settings.ipv4.isSome && settings.ipv6.isSome then some .aaaa else none

def pushLookup (m : Machine B) (lookup : Lookup) : Machine B :=
  { m with engine := { m.engine with lookups := m.engine.lookups ++ [lookup] } }

/-- The `Target::Domain` branch of `connect`. -/
def lookUp (m : Machine B) (name : String) (port : ℕ) (reply : Reply) (deadline : Instant) :
    Except Fault (Machine B) :=
  if m.engine.settings.dns.isEmpty then
    .ok (m.refuse reply .notFound "VPN supplied no DNS; use --dns or an IP address")
  else do
    let fallback := fallbackType m.engine.settings
    let (handle, m) ← m.startQuery reply name (queryType m.engine.settings)
    match handle with
    | .ok query => .ok (m.pushLookup ⟨query, name, fallback, port, reply, deadline⟩)
    | .error text => .ok (m.refuse reply .invalidInput text)

def connect (m : Machine B) (target : Target) (port : ℕ) (reply : Reply) :
    Except Fault (Machine B) :=
  let (closed, m) := m.isClosed reply
  if closed then .ok (m.note (.dropped reply .receiverClosed))
  else if m.engine.maxConnections ≤ m.engine.flows.length + m.engine.lookups.length then
    .ok (m.refuse reply .other "connection limit reached")
  else
    let (t, m) := m.now
    let deadline := t + m.engine.connectTimeout
    let m := m.note (.accepted reply deadline)
    match target with
    | .ip ip => m.connectIp ip port reply deadline
    | .domain name => m.lookUp name port reply deadline

/-! ## `Engine::step` -/

/-- One call `Interface::poll` makes of the device: `PacketDevice::receive`, or the consumption of
a `PacketTx`, which marks the device failed when the sink refuses the packet. -/
def deviceOp (m : Machine B) : DeviceOp → Machine B
  | .receive => { m with engine := { m.engine with device := m.engine.device.receive } }
  | .transmit packet =>
    let (taken, world) := B.sinkSend m.engine.device.sink packet m.world
    let failed := m.engine.device.failed || !taken
    { m.note (.transmitted packet taken) with
      engine := { m.engine with device := { m.engine.device with failed := failed } }
      world := world }

def pollIface (m : Machine B) (timestamp : ℕ) : Machine B :=
  let (ops, net) := B.ifacePoll m.engine.net timestamp m.engine.device.incoming
  ops.foldl deviceOp (m.setNet net)

def firstAddress : QueryResult → Option IpAddr
  | .completed ips => ips.head?
  | _ => none

/-- The lookup loop on a lookup whose query has ended. -/
def finishLookup (m : Machine B) (lookup : Lookup) (result : QueryResult) :
    Except Fault (Machine B × Verdict Lookup) :=
  match firstAddress result with
  | some ip => do
    let m ← m.connectIp ip lookup.port lookup.reply lookup.deadline
    .ok (m, .remove)
  | none =>
    match lookup.fallback with
    | none => .ok (m.refuse lookup.reply .notFound "VPN DNS query failed", .remove)
    | some kind => do
      let (handle, m) ← m.startQuery lookup.reply lookup.name kind
      match handle with
      | .ok query => .ok (m, .requeue { lookup with query := query, fallback := none })
      | .error _ => .ok (m.refuse lookup.reply .notFound "VPN DNS query failed", .remove)

/-- One iteration of the lookup loop. -/
def visitLookup (now : Instant) (m : Machine B) (lookup : Lookup) :
    Except Fault (Machine B × Verdict Lookup) :=
  let (closed, m) := m.isClosed lookup.reply
  if closed || decide (lookup.deadline ≤ now) then do
    let m ← m.cancelQuery lookup.query
    .ok (m.refuse lookup.reply .timedOut "VPN DNS timeout", .remove)
  else do
    let (result, m) ← m.getQueryResult lookup.reply lookup.query
    if result = .pending then .ok (m, .keep lookup) else m.finishLookup lookup result

/-- The removed flow goes out of scope, and its reply with it. -/
def dropFlow (m : Machine B) (flow : Flow B) : Machine B :=
  match flow.reply with
  | none => m
  | some reply => m.note (.dropped reply .receiverClosed)

/-- `self.sockets.remove(flow.socket)`, and the end of the flow. -/
def removeFlow (m : Machine B) (flow : Flow B) : Except Fault (Machine B) :=
  match B.removeSocket m.engine.net flow.socket with
  | none => .error .socketHandle
  | some net => .ok ((m.setNet net).dropFlow flow)

/-- What a poll of a flow leaves behind outside the flow. -/
def afterPoll (m : Machine B) (flow : Flow B) (p : Polling B) : Machine B :=
  { m.setNet (B.setTcp m.engine.net flow.socket p.socket) with
    world := p.world, log := m.log ++ p.calls.map (.flow flow.request) }

/-- One iteration of the flow loop. -/
def visitFlow (now : Instant) (m : Machine B) (flow : Flow B) :
    Except Fault (Machine B × Verdict (Flow B)) :=
  match B.tcpSocket m.engine.net flow.socket with
  | none => .error .socketHandle
  | some socket => do
    let (p, keep) ← flow.poll socket m.world now m.engine.idleTimeout
    let m := m.afterPoll flow p
    if keep then .ok (m, .keep p.flow)
    else do
      let m ← m.removeFlow p.flow
      .ok (m, .remove)

/-- The number of replacements a lookup can still have. -/
def lookupWeight (lookup : Lookup) : ℕ := if lookup.fallback.isSome then 1 else 0

def setLookups (m : Machine B) (lookups : List Lookup) : Machine B :=
  { m with engine := { m.engine with lookups := lookups } }

def setFlows (m : Machine B) (flows : List (Flow B)) : Machine B :=
  { m with engine := { m.engine with flows := flows } }

/-- The lookup loop of `step`. -/
def pollLookups (now : Instant) (m : Machine B) : Except Fault (Machine B) := do
  let (s, lookups) ← sweep (visitLookup now) .lookupLoop (fuelFor lookupWeight m.engine.lookups) 0
    (m.setLookups []) m.engine.lookups
  .ok (s.setLookups lookups)

/-- The flow loop of `step`. -/
def pollFlows (now : Instant) (m : Machine B) : Except Fault (Machine B) := do
  let (s, flows) ← sweep (visitFlow now) .flowLoop (fuelFor (fun _ => 0) m.engine.flows) 0
    (m.setFlows []) m.engine.flows
  .ok (s.setFlows flows)

def timestamp (m : Machine B) : ℕ × Machine B :=
  let (t, m) := m.now
  ((t - m.engine.clock) / 1000000, m)

def step (m : Machine B) : Except Fault (Machine B) := do
  let (timestamp, m) := m.timestamp
  let m := m.pollIface timestamp
  let (now, m) := m.now
  let m ← (m.note (.stepAt now)).pollLookups now
  let m ← m.pollFlows now
  .ok (m.pollIface timestamp)

end Machine

end Ovpnlane
