import Ovpnlane.Construction.Address
import Mathlib.Data.Finset.Basic

/-!
# What the engine calls

`src/netstack.rs` is written against smoltcp's `Interface`, `SocketSet`, `tcp::Socket` and
`dns::Socket`, tokio's `DuplexStream` and `oneshot::Sender`, and the clock.  None of them is part
of this repository, so they enter as one parameter, a `Backend`: a type for each kind of state and
a function for each call.  Nothing is assumed of these functions here; since a backend's states are
arbitrary types, quantifying over all backends covers every peer, every schedule of the client,
every DNS answer and every observation of a clock or a channel.

What a result does rely on is a *contract*, a structure over a backend whose fields are the
documented facts, together with the observers needed to state them (the contents of a socket's
receive buffer, the handles in the socket set, the occupied query slots):

* `SocketContract` and `BufferContract`: `tcp::Socket` and its ring buffers;
* `StreamContract`: the `AsyncRead`/`AsyncWrite` contract of `DuplexStream`;
* `NetContract`: the socket set and the query slots of the DNS socket;
* `InterfaceContract`: the address and route tables of `Interface`.

`Construction/Netstack/Reference.lean` has a backend that meets all of them.
-/

namespace Ovpnlane

/-! ## Vocabulary -/

inductive TcpState
  | closed | listen | synSent | synReceived | established
  | finWait1 | finWait2 | closeWait | closing | lastAck | timeWait
  deriving DecidableEq, Repr

/-- The states in which the remote may still send. -/
def TcpState.receiving : TcpState → Bool
  | .established | .finWait1 | .finWait2 => true
  | _ => false

def TcpState.afterClose : TcpState → TcpState
  | .listen | .synSent => .closed
  | .synReceived | .established => .finWait1
  | .closeWait => .lastAck
  | s => s

/-- The `io::ErrorKind`s the repository produces or tells apart. -/
inductive ErrorKind
  | notFound | permissionDenied | connectionRefused | hostUnreachable | networkUnreachable
  | notConnected | invalidInput | invalidData | timedOut | writeZero | unexpectedEof
  | brokenPipe | other
  deriving DecidableEq, Repr

structure IoError where
  kind : ErrorKind
  message : String
  deriving DecidableEq, Repr

inductive Poll (α : Type)
  | ready (a : α)
  | pending
  deriving DecidableEq, Repr

/-- `smoltcp::wire::DnsQueryType`, the two types the engine asks for. -/
inductive DnsQueryType
  | a | aaaa
  deriving DecidableEq, Repr

inductive QueryResult
  | pending
  | failed
  | completed (addresses : List IpAddr)
  deriving DecidableEq

structure IpCidr where
  address : IpAddr
  prefixLen : ℕ
  deriving DecidableEq

/-- Which call of its `Device` an `Interface::poll` makes next: `receive`, or `transmit` with the
packet the token is consumed with. -/
inductive DeviceOp
  | receive
  | transmit (packet : List UInt8)
  deriving DecidableEq

/-- A panic of the thread, or a loop that does not end. -/
inductive Fault
  | unwrapNone
  | expectFailed (text : String)
  /-- `SocketSet` access with a handle that is not in the set or names another kind of socket. -/
  | socketHandle
  /-- `get_query_result` or `cancel_query` on a free slot. -/
  | querySlot
  /-- `Interface::update_ip_addrs` on an address that is not unicast. -/
  | notUnicast
  | portLoop
  | lookupLoop
  | flowLoop
  deriving DecidableEq, Repr

abbrev Packet := List UInt8
abbrev SocketHandle := ℕ
abbrev QueryHandle := ℕ
/-- The identity of a request's `oneshot::Sender`. -/
abbrev Reply := ℕ
abbrev SinkId := ℕ
/-- `std::time::Instant`, in nanoseconds. -/
abbrev Instant := ℕ

/-- `netstack::Connected`: the client's half of a stream and the local address. -/
structure Connected (Stream : Type) where
  stream : Stream
  localAddr : SocketAddr

/-! ## The parameter -/

/-- The calls `src/netstack.rs` makes of smoltcp, tokio and the clock.  A closure that smoltcp runs
on a slice of a buffer (`recv`, `send`) is split at the closure: the slice it is given, and what
smoltcp does with the count it returns. -/
structure Backend where
  Socket : Type
  Stream : Type
  /-- `Interface` and `SocketSet`. -/
  Net : Type
  /-- The clock, the reply channels and the packet sinks. -/
  World : Type
  -- `tcp::Socket`
  tcpNew : (rxCapacity txCapacity : ℕ) → Socket
  setNagleEnabled : Socket → Bool → Socket
  setKeepAlive : Socket → Option ℕ → Socket
  state : Socket → TcpState
  mayRecv : Socket → Bool
  canRecv : Socket → Bool
  canSend : Socket → Bool
  /-- The slice `recv` gives its closure; `none` if it returns an error instead. -/
  recvSlice : Socket → Option (List UInt8)
  dequeue : Socket → ℕ → Socket
  /-- The length of the slice `send` gives its closure; `none` if it returns an error. -/
  sendSlice : Socket → Option ℕ
  enqueue : Socket → List UInt8 → Socket
  close : Socket → Socket
  abort : Socket → Socket
  -- `Interface` and `SocketSet`
  interfaceNew : (mtu : ℕ) → Net
  ipAddrSlots : ℕ
  ipAddrs : Net → List IpCidr
  /-- The end of `update_ip_addrs`: `none` if it panics on the new table. -/
  setIpAddrs : Net → List IpCidr → Option Net
  /-- `add_default_ipv4_route` and `add_default_ipv6_route`: `none` if the table is full. -/
  addDefaultRoute : Net → IpAddr → Option Net
  addDns : Net → List IpAddr → SocketHandle × Net
  addTcp : Net → Socket → SocketHandle × Net
  dnsSocket : Net → SocketHandle → Bool
  tcpSocket : Net → SocketHandle → Option Socket
  setTcp : Net → SocketHandle → Socket → Net
  removeSocket : Net → SocketHandle → Option Net
  /-- `Interface::poll`: the device calls it makes, given the packets that are waiting. -/
  ifacePoll : Net → (timestamp : ℕ) → List Packet → List DeviceOp × Net
  /-- `tcp::Socket::connect` with the interface's context; an error is its text. -/
  tcpConnect : Net → Socket → IpAddr → (port localPort : ℕ) → Except String Socket × Net
  startQuery : Net → SocketHandle → String → DnsQueryType → Except String QueryHandle × Net
  getQueryResult : Net → SocketHandle → QueryHandle → Option (QueryResult × Net)
  cancelQuery : Net → SocketHandle → QueryHandle → Option Net
  -- `DuplexStream`
  duplex : (size : ℕ) → World → (Stream × Stream) × World
  pollWrite : Stream → List UInt8 → Poll (Except IoError ℕ) × Stream
  pollShutdown : Stream → Poll (Except IoError Unit) × Stream
  /-- The bytes a `poll_read` filled, given the room of its buffer. -/
  pollRead : Stream → ℕ → Poll (Except IoError (List UInt8)) × Stream
  -- `oneshot::Sender`, `Instant`, `PacketSink`
  isClosed : Reply → World → Bool × World
  /-- Whether the receiver took the value. -/
  sendReply : Reply → Except IoError (Connected Stream) → World → Bool × World
  now : World → Instant × World
  sinkSend : SinkId → Packet → World → Bool × World

/-- The value a request is answered with. -/
abbrev Backend.Answer (B : Backend) := Except IoError (Connected B.Stream)

/-! ## Contracts -/

/-- What the engine relies on of `tcp::Socket`: `rx` is the content of the receive buffer. -/
structure SocketContract (B : Backend) where
  rx : B.Socket → List UInt8
  mayRecv_iff : ∀ s, B.mayRecv s = true ↔ (B.state s).receiving = true ∨ rx s ≠ []
  canRecv_iff : ∀ s, B.canRecv s = true ↔ B.mayRecv s = true ∧ rx s ≠ []
  recvSlice_of_canRecv : ∀ s, B.canRecv s = true →
    ∃ data, B.recvSlice s = some data ∧ data ≠ [] ∧ data <+: rx s
  rx_dequeue : ∀ s n, n ≤ (rx s).length → rx (B.dequeue s n) = (rx s).drop n
  state_dequeue : ∀ s n, B.state (B.dequeue s n) = B.state s
  sendSlice_of_canSend : ∀ s, B.canSend s = true → ∃ room, B.sendSlice s = some room ∧ 0 < room
  rx_enqueue : ∀ s bytes, rx (B.enqueue s bytes) = rx s
  state_enqueue : ∀ s bytes, B.state (B.enqueue s bytes) = B.state s
  rx_close : ∀ s, rx (B.close s) = rx s
  state_close : ∀ s, B.state (B.close s) = (B.state s).afterClose

/-- The other ring buffer: `tx` is the content of the send buffer. -/
structure BufferContract (B : Backend) extends SocketContract B where
  tx : B.Socket → List UInt8
  tx_dequeue : ∀ s n, tx (B.dequeue s n) = tx s
  tx_enqueue : ∀ s room bytes, B.sendSlice s = some room → bytes.length ≤ room →
    tx (B.enqueue s bytes) = tx s ++ bytes
  tx_close : ∀ s, tx (B.close s) = tx s

/-- What the engine relies on of `DuplexStream`: a count is within the slice it was given. -/
structure StreamContract (B : Backend) : Prop where
  write_le : ∀ b data n, (B.pollWrite b data).1 = .ready (.ok n) → n ≤ data.length
  read_le : ∀ b room bytes, (B.pollRead b room).1 = .ready (.ok bytes) → bytes.length ≤ room

/-- The sockets of a `SocketSet` by kind, and the occupied query slots of its DNS socket. -/
structure Inventory where
  tcp : Finset SocketHandle
  dns : Finset SocketHandle
  queries : Finset QueryHandle

/-- What the engine relies on of `SocketSet` and `dns::Socket`: handles and slots are fresh when
they are handed out and are freed exactly when the documentation says so. -/
structure NetContract (B : Backend) where
  inventory : B.Net → Inventory
  new : ∀ mtu, inventory (B.interfaceNew mtu) = ⟨∅, ∅, ∅⟩
  setIpAddrs : ∀ n addrs n', B.setIpAddrs n addrs = some n' → inventory n' = inventory n
  addDefaultRoute : ∀ n ip n', B.addDefaultRoute n ip = some n' → inventory n' = inventory n
  addDns_fresh : ∀ n servers, (B.addDns n servers).1 ∉ (inventory n).tcp ∪ (inventory n).dns
  addDns : ∀ n servers, inventory (B.addDns n servers).2 =
    { inventory n with dns := insert (B.addDns n servers).1 (inventory n).dns }
  addTcp_fresh : ∀ n s, (B.addTcp n s).1 ∉ (inventory n).tcp ∪ (inventory n).dns
  addTcp : ∀ n s, inventory (B.addTcp n s).2 =
    { inventory n with tcp := insert (B.addTcp n s).1 (inventory n).tcp }
  dnsSocket : ∀ n h, B.dnsSocket n h = true ↔ h ∈ (inventory n).dns
  tcpSocket : ∀ n h, (B.tcpSocket n h).isSome = true ↔ h ∈ (inventory n).tcp
  setTcp : ∀ n h s, inventory (B.setTcp n h s) = inventory n
  removeSocket_isSome : ∀ n h,
    (B.removeSocket n h).isSome = true ↔ h ∈ (inventory n).tcp ∪ (inventory n).dns
  removeSocket : ∀ n h n', B.removeSocket n h = some n' → inventory n' =
    { inventory n with tcp := (inventory n).tcp.erase h, dns := (inventory n).dns.erase h }
  ifacePoll : ∀ n t packets, inventory (B.ifacePoll n t packets).2 = inventory n
  tcpConnect : ∀ n s ip port localPort,
    inventory (B.tcpConnect n s ip port localPort).2 = inventory n
  startQuery_fresh : ∀ n h name kind q,
    (B.startQuery n h name kind).1 = .ok q → q ∉ (inventory n).queries
  startQuery : ∀ n h name kind, inventory (B.startQuery n h name kind).2 =
    match (B.startQuery n h name kind).1 with
    | .ok q => { inventory n with queries := insert q (inventory n).queries }
    | .error _ => inventory n
  getQueryResult_isSome : ∀ n h q, h ∈ (inventory n).dns →
    ((B.getQueryResult n h q).isSome = true ↔ q ∈ (inventory n).queries)
  getQueryResult : ∀ n h q r n', B.getQueryResult n h q = some (r, n') → inventory n' =
    if r = .pending then inventory n
    else { inventory n with queries := (inventory n).queries.erase q }
  cancelQuery_isSome : ∀ n h q, h ∈ (inventory n).dns →
    ((B.cancelQuery n h q).isSome = true ↔ q ∈ (inventory n).queries)
  cancelQuery : ∀ n h q n', B.cancelQuery n h q = some n' → inventory n' =
    { inventory n with queries := (inventory n).queries.erase q }

/-- smoltcp's `Ipv4AddressExt::x_is_unicast`. -/
def Ipv4Addr.isUnicast (ip : Ipv4Addr) : Bool :=
  !(ip.isBroadcast || ip.isMulticast || ip.isUnspecified)

def Ipv6Addr.isUnicast (ip : Ipv6Addr) : Bool := !(ip.isMulticast || ip.isUnspecified)

def IpAddr.isUnicast : IpAddr → Bool
  | .v4 ip => ip.isUnicast
  | .v6 ip => ip.isUnicast

/-- What the engine relies on of `Interface`: two address slots, two route slots, and a panic
exactly on an assigned address that is not unicast. -/
structure InterfaceContract (B : Backend) where
  routes : B.Net → ℕ
  ipAddrSlots : B.ipAddrSlots = 2
  ipAddrs_new : ∀ mtu, B.ipAddrs (B.interfaceNew mtu) = []
  routes_new : ∀ mtu, routes (B.interfaceNew mtu) = 0
  setIpAddrs_isSome : ∀ n addrs, (B.setIpAddrs n addrs).isSome = true ↔
    ∀ cidr ∈ addrs, cidr.address.isUnicast = true
  routes_setIpAddrs : ∀ n addrs n', B.setIpAddrs n addrs = some n' → routes n' = routes n
  addDefaultRoute_isSome : ∀ n ip, routes n < 2 → (B.addDefaultRoute n ip).isSome = true
  routes_addDefaultRoute : ∀ n ip n', B.addDefaultRoute n ip = some n' → routes n' ≤ routes n + 1

end Ovpnlane
