import Ovpnlane.Construction.Netstack.Backend
import Mathlib.Data.Finset.Insert

/-!
# A backend that meets the contracts

`Reference` is a small in-memory stand-in for smoltcp and tokio on which the engine can be run: it
has ring buffers without wrap-around, a TCP that trusts every segment addressed to one of its
sockets and takes every acknowledgement for one of everything sent, a resolver that is a function,
and streams whose other half is set by hand.  It exists to exhibit runs and to show that the
contracts of `Backend.lean` can be met together; no general result is about it.

The sequence numbers, windows and checksums of a segment are neither written nor read.
-/

namespace Ovpnlane

namespace Reference

/-! ## Sockets -/

/-- A TCP socket; `control` says that its next segment is a SYN or a FIN still to be sent. -/
structure Socket where
  state : TcpState
  rx : List UInt8
  tx : List UInt8
  rxCapacity : ℕ
  txCapacity : ℕ
  remote : Option SocketAddr
  localPort : ℕ
  control : Bool
  deriving DecidableEq

namespace Socket

def new (rxCapacity txCapacity : ℕ) : Socket :=
  ⟨.closed, [], [], rxCapacity, txCapacity, none, 0, false⟩

def mayRecv (s : Socket) : Bool := s.state.receiving || !s.rx.isEmpty

def maySend (s : Socket) : Bool :=
  match s.state with
  | .established | .closeWait => true
  | _ => false

def canSend (s : Socket) : Bool := s.maySend && decide (s.tx.length < s.txCapacity)

def close (s : Socket) : Socket :=
  { s with state := s.state.afterClose, control := s.maySend }

def abort (s : Socket) : Socket := { s with state := .closed }

end Socket

/-! ## Segments -/

/-- A TCP segment over IPv4 without options, as far as the reference reads it. -/
structure Segment where
  source : Ipv4Addr
  sourcePort : ℕ
  destinationPort : ℕ
  flags : ℕ
  payload : List UInt8

/-- The `i`-th big-endian 16-bit word of a packet. -/
def word (packet : Packet) (i : ℕ) : ℕ :=
  (packet.getD i 0).toNat * 256 + (packet.getD (i + 1) 0).toNat

/-- A packet as a segment; `none` for anything but TCP over a 20-byte IPv4 header. -/
def parseSegment (packet : Packet) : Option Segment :=
  if packet.getD 0 0 = 0x45 ∧ packet.getD 9 0 = 6 ∧ 40 ≤ packet.length then
    some
      { source := .new (packet.getD 12 0) (packet.getD 13 0) (packet.getD 14 0) (packet.getD 15 0)
        sourcePort := word packet 20
        destinationPort := word packet 22
        flags := (packet.getD 33 0).toNat
        payload := packet.drop 40 }
  else none

/-- Whether bit `i` of the segment's flags is set: FIN, SYN, RST and ACK are 0, 1, 2 and 4. -/
def Segment.flag (seg : Segment) (i : ℕ) : Bool := seg.flags.testBit i

/-- The state a synchronised socket goes to on a FIN. -/
def TcpState.afterFin (acked : Bool) : TcpState → TcpState
  | .established => .closeWait
  | .finWait1 => if acked then .timeWait else .closing
  | .finWait2 => .timeWait
  | s => s

/-- The state a socket goes to on an acknowledgement of everything it sent. -/
def TcpState.afterAck : TcpState → TcpState
  | .finWait1 => .finWait2
  | .closing => .timeWait
  | .lastAck => .closed
  | s => s

/-- A segment arrives. -/
def Socket.process (s : Socket) (seg : Segment) : Socket :=
  if seg.flag 2 then s.abort
  else if s.state = .synSent then
    if seg.flag 1 && seg.flag 4 then { s with state := .established } else s
  else
    let rx := if s.state.receiving then s.rx ++ seg.payload.take (s.rxCapacity - s.rx.length)
      else s.rx
    let state := if seg.flag 0 then TcpState.afterFin (seg.flag 4) s.state
      else if seg.flag 4 then TcpState.afterAck s.state else s.state
    { s with rx := rx, state := state }

/-- The octets of a 16-bit word. -/
def octets (n : ℕ) : List UInt8 := [UInt8.ofNat (n / 256), UInt8.ofNat n]

/-- A 40-byte segment from a socket. -/
def Socket.segment (s : Socket) (source : Ipv4Addr) (flags : UInt8) : Packet :=
  let remote := match s.remote with
    | some ⟨.v4 ip, port⟩ => (ip.octets, port)
    | _ => ([0, 0, 0, 0], 0)
  [0x45, 0, 0, 40, 0, 0, 0, 0, 64, 6, 0, 0] ++ source.octets ++ remote.1 ++ octets s.localPort ++
    octets remote.2 ++ [0, 0, 0, 0, 0, 0, 0, 0, 0x50, flags, 0xff, 0xff, 0, 0, 0, 0]

/-! ## Interface and sockets -/

/-- The interface with its tables and sockets. -/
structure Net where
  addresses : List IpCidr
  routes : ℕ
  tcp : List (SocketHandle × Socket)
  dns : List SocketHandle
  queries : List (QueryHandle × String × DnsQueryType)

/-- A number that is not in the list. -/
def fresh (l : List ℕ) : ℕ := l.foldr max 0 + 1

lemma fresh_not_mem (l : List ℕ) : fresh l ∉ l := by
  have hle : ∀ x ∈ l, x ≤ l.foldr max 0 := by
    induction l with
    | nil => simp
    | cons y l ih =>
      simp only [List.mem_cons, List.foldr_cons]
      rintro x (rfl | hx)
      · omega
      · have := ih x hx
        omega
  intro hmem
  have := hle _ hmem
  unfold fresh at this
  omega

namespace Net

def handles (n : Net) : List SocketHandle := n.tcp.map Prod.fst ++ n.dns

/-- The assigned IPv4 address. -/
def source (n : Net) : Ipv4Addr :=
  match n.addresses.find? fun cidr => cidr.address.isIpv4 with
  | some ⟨.v4 ip, _⟩ => ip
  | _ => .unspecified

/-- A packet is handed to the socket it is addressed to. -/
def receive (n : Net) (packet : Packet) : Net :=
  match parseSegment packet with
  | none => n
  | some seg =>
    { n with tcp := n.tcp.map fun (h, s) =>
        if s.localPort = seg.destinationPort ∧
            s.remote = some ⟨.v4 seg.source, seg.sourcePort⟩ then (h, s.process seg)
        else (h, s) }

/-- The control segments that are still to be sent. -/
def pending (n : Net) : List DeviceOp :=
  (n.tcp.map Prod.snd).filterMap fun s =>
    if s.control then
      some (.transmit (s.segment n.source (if s.state = .synSent then 2 else 17)))
    else none

/-- `Interface::poll`: all packets are received, then everything pending is sent. -/
def poll (n : Net) (packets : List Packet) : List DeviceOp × Net :=
  let n := packets.foldl receive n
  (packets.map (fun _ => .receive) ++ n.pending,
    { n with tcp := n.tcp.map fun (h, s) => (h, { s with control := false }) })

def setAddresses (n : Net) (addresses : List IpCidr) : Option Net :=
  if addresses.all (·.address.isUnicast) then some { n with addresses := addresses } else none

def addRoute (n : Net) : Option Net :=
  if n.routes < 2 then some { n with routes := n.routes + 1 } else none

def addDns (n : Net) : SocketHandle × Net :=
  (fresh n.handles, { n with dns := fresh n.handles :: n.dns })

def addTcp (n : Net) (s : Socket) : SocketHandle × Net :=
  (fresh n.handles, { n with tcp := (fresh n.handles, s) :: n.tcp })

def setTcp (n : Net) (h : SocketHandle) (s : Socket) : Net :=
  { n with tcp := n.tcp.map fun (k, t) => if k = h then (k, s) else (k, t) }

def remove (n : Net) (h : SocketHandle) : Option Net :=
  if h ∈ n.handles then
    some { n with tcp := n.tcp.filter (·.1 ≠ h), dns := n.dns.filter (· ≠ h) }
  else none

def connect (n : Net) (s : Socket) (ip : IpAddr) (port localPort : ℕ) : Except String Socket :=
  if s.state ≠ .closed then .error "invalid state"
  else if port = 0 ∨ localPort = 0 ∨ ip.isUnspecified = true ∨
      (n.addresses.all fun cidr => cidr.address.isIpv4 != ip.isIpv4) = true then
    .error "unaddressable"
  else
    .ok { s with state := .synSent, remote := some ⟨ip, port⟩, localPort, control := true }

/-- A free query slot. -/
def freshQuery (n : Net) : QueryHandle := fresh (n.queries.map Prod.fst)

def startQuery (n : Net) (name : String) (kind : DnsQueryType) :
    Except String QueryHandle × Net :=
  if name = "" then (.error "invalid name", n)
  else (.ok n.freshQuery, { n with queries := (n.freshQuery, name, kind) :: n.queries })

/-- The slot is freed. -/
def free (n : Net) (q : QueryHandle) : Net :=
  { n with queries := n.queries.filter (·.1 ≠ q) }

def queryResult (resolve : String → DnsQueryType → QueryResult) (n : Net) (q : QueryHandle) :
    Option (QueryResult × Net) :=
  (n.queries.lookup q).map fun query =>
    (resolve query.1 query.2, if resolve query.1 query.2 = .pending then n else n.free q)

def cancelQuery (n : Net) (q : QueryHandle) : Option Net :=
  (n.queries.lookup q).map fun _ => n.free q

end Net

/-! ## Streams and the world -/

/-- The engine's half of a stream: how much of what it wrote the other half has not read, what the
other half wrote, and whether the other half has ended its direction or is gone. -/
structure Stream where
  capacity : ℕ
  unread : ℕ
  incoming : List UInt8
  ended : Bool
  gone : Bool
  deriving DecidableEq

namespace Stream

def pollWrite (b : Stream) (data : List UInt8) : Poll (Except IoError ℕ) × Stream :=
  if b.gone then (.ready (.error ⟨.brokenPipe, "broken pipe"⟩), b)
  else
    let count := min (b.capacity - b.unread) data.length
    if count = 0 then (.pending, b)
    else (.ready (.ok count), { b with unread := b.unread + count })

def pollRead (b : Stream) (room : ℕ) : Poll (Except IoError (List UInt8)) × Stream :=
  if b.incoming.isEmpty then (if b.ended || b.gone then .ready (.ok []) else .pending, b)
  else (.ready (.ok (b.incoming.take room)), { b with incoming := b.incoming.drop room })

end Stream

/-- The clock, the requests whose receiver is gone, and the sinks that refuse packets. -/
structure World where
  time : Instant
  closed : List Reply
  deadSinks : List SinkId

end Reference

open Reference in
/-- The reference backend with a resolver. -/
def reference (resolve : String → DnsQueryType → QueryResult) : Backend where
  Socket := Reference.Socket
  Stream := Reference.Stream
  Net := Reference.Net
  World := Reference.World
  tcpNew := Socket.new
  setNagleEnabled s _ := s
  setKeepAlive s _ := s
  state := Socket.state
  mayRecv := Socket.mayRecv
  canRecv s := s.mayRecv && !s.rx.isEmpty
  canSend := Socket.canSend
  recvSlice s := if s.mayRecv then some s.rx else none
  dequeue s n := { s with rx := s.rx.drop n }
  sendSlice s := if s.maySend then some (s.txCapacity - s.tx.length) else none
  enqueue s bytes := { s with tx := s.tx ++ bytes }
  close := Socket.close
  abort := Socket.abort
  interfaceNew _ := ⟨[], 0, [], [], []⟩
  ipAddrSlots := 2
  ipAddrs := Net.addresses
  setIpAddrs := Net.setAddresses
  addDefaultRoute n _ := n.addRoute
  addDns n _ := n.addDns
  addTcp := Net.addTcp
  dnsSocket n h := decide (h ∈ n.dns)
  tcpSocket n h := n.tcp.lookup h
  setTcp := Net.setTcp
  removeSocket := Net.remove
  ifacePoll n _ packets := n.poll packets
  tcpConnect n s ip port localPort := (n.connect s ip port localPort, n)
  startQuery n _ := n.startQuery
  getQueryResult n _ := n.queryResult resolve
  cancelQuery n _ := n.cancelQuery
  duplex size w := ((⟨size, 0, [], false, false⟩, ⟨size, 0, [], false, false⟩), w)
  pollWrite := Stream.pollWrite
  pollShutdown b := (.ready (.ok ()), b)
  pollRead := Stream.pollRead
  isClosed reply w := (decide (reply ∈ w.closed), w)
  sendReply reply _ w := (decide (reply ∉ w.closed), w)
  now w := (w.time, w)
  sinkSend sink _ w := (decide (sink ∉ w.deadSinks), w)

/-! ## The contracts -/

namespace Reference

/-! ### Sockets and streams -/

lemma mayRecv_iff (s : Socket) : s.mayRecv = true ↔ s.state.receiving = true ∨ s.rx ≠ [] := by
  simp [Socket.mayRecv]

lemma Stream.pollWrite_le {b : Stream} {data : List UInt8} {n : ℕ}
    (h : (b.pollWrite data).1 = .ready (.ok n)) : n ≤ data.length := by
  unfold Stream.pollWrite at h
  by_cases hgone : b.gone = true
  · simp [hgone] at h
  · by_cases hroom : min (b.capacity - b.unread) data.length = 0
    · simp [hgone, hroom] at h
    · obtain rfl : min (b.capacity - b.unread) data.length = n := by
        simpa [hgone, hroom] using h
      omega

lemma Stream.pollRead_le {b : Stream} {room : ℕ} {bytes : List UInt8}
    (h : (b.pollRead room).1 = .ready (.ok bytes)) : bytes.length ≤ room := by
  unfold Stream.pollRead at h
  by_cases hempty : b.incoming.isEmpty = true
  · by_cases hend : (b.ended || b.gone) = true
    · obtain rfl : bytes = [] := by simpa [hempty, hend] using h.symm
      simp
    · simp [hempty, hend] at h
  · obtain rfl : b.incoming.take room = bytes := by simpa [hempty] using h
    simp

variable (resolve : String → DnsQueryType → QueryResult)

def socketContract : SocketContract (reference resolve) where
  rx := Socket.rx
  mayRecv_iff := mayRecv_iff
  canRecv_iff s := by simp [reference]
  recvSlice_of_canRecv s h := by
    obtain ⟨hmay, hrx⟩ : s.mayRecv = true ∧ s.rx ≠ [] := by simpa [reference] using h
    exact ⟨s.rx, by simp [reference, hmay], hrx, List.prefix_rfl⟩
  rx_dequeue _ _ _ := rfl
  state_dequeue _ _ := rfl
  sendSlice_of_canSend s h := by
    obtain ⟨hmay, hroom⟩ : s.maySend = true ∧ s.tx.length < s.txCapacity := by
      simpa [reference, Socket.canSend] using h
    exact ⟨s.txCapacity - s.tx.length, by simp [reference, hmay], by omega⟩
  rx_enqueue _ _ := rfl
  state_enqueue _ _ := rfl
  rx_close _ := rfl
  state_close _ := rfl

def bufferContract : BufferContract (reference resolve) where
  toSocketContract := socketContract resolve
  tx := Socket.tx
  tx_dequeue _ _ := rfl
  tx_enqueue _ _ _ _ _ := rfl
  tx_close _ := rfl

theorem streamContract : StreamContract (reference resolve) where
  write_le _ _ _ := Stream.pollWrite_le
  read_le _ _ _ := Stream.pollRead_le

/-! ### Interface and sockets -/

/-- The sockets and the occupied query slots. -/
def inventory (n : Net) : Inventory where
  tcp := (n.tcp.map Prod.fst).toFinset
  dns := n.dns.toFinset
  queries := (n.queries.map Prod.fst).toFinset

lemma mem_inventory {n : Net} {h : SocketHandle} :
    h ∈ (inventory n).tcp ∪ (inventory n).dns ↔ h ∈ n.handles := by
  simp [inventory, Net.handles]

lemma lookup_isSome_iff {α : Type} (l : List (ℕ × α)) (a : ℕ) :
    (l.lookup a).isSome = true ↔ a ∈ (l.map Prod.fst).toFinset := by
  rw [List.mem_toFinset]
  induction l with
  | nil => simp
  | cons x l ih =>
    obtain ⟨b, v⟩ := x
    by_cases hab : a = b
    · simp [hab]
    · simp [List.lookup_cons, beq_false_of_ne hab, hab, ih]

lemma lookup_map_snd {α β : Type} (f : α → β) (l : List (ℕ × α)) (a : ℕ) :
    (l.map fun x => (x.1, f x.2)).lookup a = (l.lookup a).map f := by
  induction l with
  | nil => rfl
  | cons x l ih =>
    obtain ⟨b, v⟩ := x
    by_cases hab : a = b
    · simp [hab]
    · simp [List.lookup_cons, beq_false_of_ne hab, ih]

lemma lookup_filter_ne {α : Type} (l : List (ℕ × α)) (q a : ℕ) :
    (l.filter (·.1 ≠ q)).lookup a = if a = q then none else l.lookup a := by
  induction l with
  | nil => simp
  | cons x l ih =>
    by_cases hxq : x.1 = q
    · rw [List.filter_cons_of_neg (by simpa using hxq), ih]
      split_ifs with haq
      · rfl
      · rw [List.lookup_cons, beq_false_of_ne (by rw [hxq]; exact haq)]
    · rw [List.filter_cons_of_pos (by simpa using hxq), List.lookup_cons, List.lookup_cons, ih]
      by_cases hax : a = x.1
      · simp [hax, hxq]
      · simp [beq_false_of_ne hax]

lemma mem_of_lookup {α : Type} {l : List (ℕ × α)} {a : ℕ} {v : α} (h : l.lookup a = some v) :
    (a, v) ∈ l := by
  induction l with
  | nil => simp at h
  | cons x l ih =>
    rw [List.lookup_cons] at h
    by_cases hax : a = x.1
    · rw [hax, beq_self_eq_true] at h
      obtain rfl : x.2 = v := by simpa using h
      exact List.mem_cons.mpr (.inl (by rw [hax]))
    · rw [beq_false_of_ne hax] at h
      exact List.mem_cons_of_mem _ (ih h)

lemma toFinset_filter_ne {α : Type} (l : List (ℕ × α)) (a : ℕ) :
    ((l.filter (·.1 ≠ a)).map Prod.fst).toFinset = (l.map Prod.fst).toFinset.erase a := by
  ext b
  simp only [List.mem_toFinset, List.mem_map, List.mem_filter, decide_eq_true_eq,
    Finset.mem_erase]
  constructor
  · rintro ⟨x, ⟨hx, hne⟩, rfl⟩
    exact ⟨hne, x, hx, rfl⟩
  · rintro ⟨hne, x, hx, rfl⟩
    exact ⟨x, ⟨hx, hne⟩, rfl⟩

lemma inventory_receive (n : Net) (packet : Packet) :
    inventory (n.receive packet) = inventory n := by
  unfold Net.receive
  split
  · rfl
  · simp only [inventory, List.map_map, Inventory.mk.injEq, and_true]
    congr 1
    refine List.map_congr_left fun x _ => ?_
    simp only [Function.comp_apply]
    split_ifs <;> rfl

lemma inventory_poll (n : Net) (packets : List Packet) :
    inventory (n.poll packets).2 = inventory n := by
  have hreceive : inventory (packets.foldl Net.receive n) = inventory n := by
    induction packets generalizing n with
    | nil => rfl
    | cons packet packets ih => rw [List.foldl_cons, ih, inventory_receive]
  rw [← hreceive]
  simp [Net.poll, inventory, Function.comp_def]

lemma inventory_setTcp (n : Net) (h : SocketHandle) (s : Socket) :
    inventory (n.setTcp h s) = inventory n := by
  simp only [inventory, Net.setTcp, List.map_map, Inventory.mk.injEq, and_true]
  congr 1
  refine List.map_congr_left fun x _ => ?_
  simp only [Function.comp_apply]
  split_ifs <;> rfl

lemma inventory_free (n : Net) (q : QueryHandle) :
    inventory (n.free q) = { inventory n with queries := (inventory n).queries.erase q } := by
  simp only [inventory, Net.free, toFinset_filter_ne]

lemma inventory_remove {n n' : Net} {h : SocketHandle} (hn : n.remove h = some n') :
    inventory n' = { inventory n with
      tcp := (inventory n).tcp.erase h, dns := (inventory n).dns.erase h } := by
  obtain ⟨-, rfl⟩ : h ∈ n.handles ∧ _ = n' := by simpa only [Net.remove,
    Option.ite_none_right_eq_some, Option.some.injEq] using hn
  simp only [inventory, toFinset_filter_ne, Inventory.mk.injEq, and_true, true_and]
  ext k
  simp [and_comm]

lemma inventory_setAddresses {n n' : Net} {addresses : List IpCidr}
    (h : n.setAddresses addresses = some n') :
    inventory n' = inventory n ∧ n'.routes = n.routes := by
  obtain ⟨-, rfl⟩ : _ ∧ _ = n' := by
    simpa only [Net.setAddresses, Option.ite_none_right_eq_some, Option.some.injEq] using h
  exact ⟨rfl, rfl⟩

lemma inventory_addRoute {n n' : Net} (h : n.addRoute = some n') :
    inventory n' = inventory n ∧ n'.routes ≤ n.routes + 1 := by
  obtain ⟨-, rfl⟩ : _ ∧ _ = n' := by
    simpa only [Net.addRoute, Option.ite_none_right_eq_some, Option.some.injEq] using h
  exact ⟨rfl, le_refl _⟩

lemma startQuery_fresh {n : Net} {name : String} {kind : DnsQueryType} {q : QueryHandle}
    (h : (n.startQuery name kind).1 = .ok q) : q ∉ (inventory n).queries := by
  unfold Net.startQuery at h
  split_ifs at h
  obtain rfl : n.freshQuery = q := by simpa using h
  rw [inventory, List.mem_toFinset]
  exact fresh_not_mem _

lemma inventory_startQuery (n : Net) (name : String) (kind : DnsQueryType) :
    inventory (n.startQuery name kind).2 =
      match (n.startQuery name kind).1 with
      | .ok q => { inventory n with queries := insert q (inventory n).queries }
      | .error _ => inventory n := by
  unfold Net.startQuery
  split_ifs
  · rfl
  · simp [inventory]

lemma inventory_queryResult {n n' : Net} {q : QueryHandle} {r : QueryResult}
    (h : n.queryResult resolve q = some (r, n')) : inventory n' =
      if r = .pending then inventory n
      else { inventory n with queries := (inventory n).queries.erase q } := by
  obtain ⟨query, -, hquery⟩ := Option.map_eq_some_iff.mp h
  obtain ⟨rfl, rfl⟩ : _ = r ∧ _ = n' := by simpa only [Prod.mk.injEq] using hquery
  split_ifs
  · rfl
  · exact inventory_free n q

lemma inventory_cancelQuery {n n' : Net} {q : QueryHandle} (h : n.cancelQuery q = some n') :
    inventory n' = { inventory n with queries := (inventory n).queries.erase q } := by
  obtain ⟨-, -, rfl⟩ := Option.map_eq_some_iff.mp h
  exact inventory_free n q

def interfaceContract : InterfaceContract (reference resolve) where
  routes := Net.routes
  ipAddrSlots := rfl
  ipAddrs_new _ := rfl
  routes_new _ := rfl
  setIpAddrs_isSome n addrs := by simp [reference, Net.setAddresses]
  routes_setIpAddrs _ _ _ h := (inventory_setAddresses h).2
  addDefaultRoute_isSome n _ h := by simp [reference, Net.addRoute, h]
  routes_addDefaultRoute _ _ _ h := (inventory_addRoute h).2

def netContract : NetContract (reference resolve) where
  inventory := inventory
  new _ := rfl
  setIpAddrs _ _ _ h := (inventory_setAddresses h).1
  addDefaultRoute _ _ _ h := (inventory_addRoute h).1
  addDns_fresh n _ h := fresh_not_mem n.handles (mem_inventory.mp h)
  addDns _ _ := by simp [reference, inventory, Net.addDns]
  addTcp_fresh n _ h := fresh_not_mem n.handles (mem_inventory.mp h)
  addTcp _ _ := by simp [reference, inventory, Net.addTcp]
  dnsSocket _ _ := by simp [reference, inventory]
  tcpSocket n h := lookup_isSome_iff n.tcp h
  setTcp := inventory_setTcp
  removeSocket_isSome n h := by
    refine Iff.trans ?_ (@mem_inventory n h).symm
    simp [reference, Net.remove]
  removeSocket _ _ _ h := inventory_remove h
  ifacePoll n _ packets := inventory_poll n packets
  tcpConnect _ _ _ _ _ := rfl
  startQuery_fresh _ _ _ _ _ h := startQuery_fresh h
  startQuery n _ name kind := inventory_startQuery n name kind
  getQueryResult_isSome n _ q _ := by
    refine Iff.trans ?_ (lookup_isSome_iff n.queries q)
    simp [reference, Net.queryResult]
  getQueryResult _ _ _ _ _ h := inventory_queryResult resolve h
  cancelQuery_isSome n _ q _ := by
    refine Iff.trans ?_ (lookup_isSome_iff n.queries q)
    simp [reference, Net.cancelQuery]
  cancelQuery _ _ _ _ h := inventory_cancelQuery h

end Reference

end Ovpnlane
