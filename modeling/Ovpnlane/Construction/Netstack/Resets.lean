import Ovpnlane.Construction.Netstack.Reference

/-!
# Connections and reset segments

`tcp::Socket::abort` only marks a socket `Closed`; the reset segment is sent by the next poll of the
interface that still finds the socket in the socket set.  A result about resets therefore needs the
contents of the socket set and the connections of its sockets: `ResetContract` says how the calls of
the engine change them, and that a poll without packets to answer sends the reset segments of the
sockets in the set and no others.

`resetting` is the reference backend with an interface that sends these segments.
-/

namespace Ovpnlane

/-! ## The contract -/

/-- A TCP connection of the tunnel's address. -/
structure Connection where
  localPort : ℕ
  remote : SocketAddr
  deriving DecidableEq

/-- What a result about resets relies on of `tcp::Socket`, `SocketSet` and `Interface`. -/
structure ResetContract (B : Backend) where
  connection : B.Socket → Option Connection
  /-- The packet is a reset segment for the connection. -/
  Resets : Packet → Connection → Prop
  tcpConnect : ∀ n s ip port localPort s' c, localPort < 65536 →
    (B.tcpConnect n s ip port localPort).1 = .ok s' → connection s' = some c →
      c.localPort = localPort
  dequeue : ∀ s count, connection (B.dequeue s count) = connection s
  enqueue : ∀ s bytes, connection (B.enqueue s bytes) = connection s
  close : ∀ s, connection (B.close s) = connection s
  abort : ∀ s, connection (B.abort s) = connection s
  state_abort : ∀ s, B.state (B.abort s) = .closed
  addTcp : ∀ n s, B.tcpSocket (B.addTcp n s).2 (B.addTcp n s).1 = some s
  addTcp_of_ne : ∀ n s h, h ≠ (B.addTcp n s).1 → B.tcpSocket (B.addTcp n s).2 h = B.tcpSocket n h
  setTcp : ∀ n h s, (B.tcpSocket n h).isSome = true → B.tcpSocket (B.setTcp n h s) h = some s
  setTcp_of_ne : ∀ n h s k, k ≠ h → B.tcpSocket (B.setTcp n h s) k = B.tcpSocket n k
  removeSocket_of_ne : ∀ n h n' k, B.removeSocket n h = some n' → k ≠ h →
    B.tcpSocket n' k = B.tcpSocket n k
  tcpConnect_socket : ∀ n s ip port localPort h,
    B.tcpSocket (B.tcpConnect n s ip port localPort).2 h = B.tcpSocket n h
  startQuery : ∀ n d name kind h, B.tcpSocket (B.startQuery n d name kind).2 h = B.tcpSocket n h
  getQueryResult : ∀ n d q r n' h, B.getQueryResult n d q = some (r, n') →
    B.tcpSocket n' h = B.tcpSocket n h
  cancelQuery : ∀ n d q n' h, B.cancelQuery n d q = some n' → B.tcpSocket n' h = B.tcpSocket n h
  /-- A socket keeps its connection until it is done with it. -/
  ifacePoll : ∀ n t packets h s', B.tcpSocket (B.ifacePoll n t packets).2 h = some s' →
    ∃ s, B.tcpSocket n h = some s ∧ (connection s' = none ∨ connection s' = connection s)
  /-- A poll takes all packets that are waiting. -/
  ifacePoll_receive : ∀ n t packets,
    packets.length ≤ (B.ifacePoll n t packets).1.countP (· = .receive)
  /-- Where no packet is to be answered, reset segments come from the sockets in the set. -/
  ifacePoll_resets : ∀ n t packet c, .transmit packet ∈ (B.ifacePoll n t []).1 → Resets packet c →
    ∃ h s, B.tcpSocket n h = some s ∧ connection s = some c

/-! ## A backend that meets it -/

namespace Reference

def Socket.connection (s : Socket) : Option Connection :=
  match s.remote with
  | some ⟨.v4 ip, port⟩ => some ⟨s.localPort % 65536, ⟨.v4 ip, port % 65536⟩⟩
  | _ => none

/-- `abort`, with the reset segment still to be sent. -/
def Socket.reset (s : Socket) : Socket := { s.abort with control := true }

/-- The flags of a control segment: SYN, RST with ACK, or FIN with ACK. -/
def Socket.controlFlags (s : Socket) : UInt8 :=
  match s.state with
  | .synSent => 2
  | .closed => 20
  | _ => 17

/-- The control segments that are still to be sent, those of closed sockets among them. -/
def Net.control (n : Net) : List DeviceOp :=
  (n.tcp.map Prod.fst).filterMap fun h => (n.tcp.lookup h).bind fun s =>
    if s.control && s.connection.isSome then some (.transmit (s.segment n.source s.controlFlags))
    else none

def Net.pollControl (n : Net) (packets : List Packet) : List DeviceOp × Net :=
  (packets.map (fun _ => .receive) ++ (packets.foldl Net.receive n).control, (n.poll packets).2)

/-- The ends of a segment's connection, seen from its source. -/
def endpoints (packet : Packet) : Connection where
  localPort := word packet 20
  remote := ⟨.v4 (.new (packet.getD 16 0) (packet.getD 17 0) (packet.getD 18 0)
    (packet.getD 19 0)), word packet 22⟩

/-- A segment with the RST flag for the connection. -/
def Resets (packet : Packet) (c : Connection) : Prop :=
  (packet.getD 33 0).toNat.testBit 2 = true ∧ endpoints packet = c

/-- The poll after an abort, if it still finds the socket. -/
example : ∃ packet, (Net.pollControl ⟨[], 0, [(1, Socket.reset
      ⟨.established, [], [], 1, 1, some ⟨.v4 (.new 198 51 100 7), 80⟩, 49152, false⟩)], [], []⟩
    []).1 = [.transmit packet] ∧ Resets packet ⟨49152, ⟨.v4 (.new 198 51 100 7), 80⟩⟩ :=
  ⟨_, rfl, by decide, by decide⟩

end Reference

open Reference in
/-- The reference backend with an interface that resets aborted connections. -/
def resetting (resolve : String → DnsQueryType → QueryResult) : Backend :=
  { reference resolve with
    abort := Socket.reset
    ifacePoll := fun n _ packets => n.pollControl packets }

namespace Reference

variable (resolve : String → DnsQueryType → QueryResult)

def resettingSocketContract : SocketContract (resetting resolve) where
  rx := Socket.rx
  mayRecv_iff := mayRecv_iff
  canRecv_iff s := (socketContract resolve).canRecv_iff s
  recvSlice_of_canRecv s := (socketContract resolve).recvSlice_of_canRecv s
  rx_dequeue _ _ _ := rfl
  state_dequeue _ _ := rfl
  sendSlice_of_canSend s := (socketContract resolve).sendSlice_of_canSend s
  rx_enqueue _ _ := rfl
  state_enqueue _ _ := rfl
  rx_close _ := rfl
  state_close _ := rfl

def resettingNetContract : NetContract (resetting resolve) where
  inventory := inventory
  new := (netContract resolve).new
  setIpAddrs := (netContract resolve).setIpAddrs
  addDefaultRoute := (netContract resolve).addDefaultRoute
  addDns_fresh := (netContract resolve).addDns_fresh
  addDns := (netContract resolve).addDns
  addTcp_fresh := (netContract resolve).addTcp_fresh
  addTcp := (netContract resolve).addTcp
  dnsSocket := (netContract resolve).dnsSocket
  tcpSocket := (netContract resolve).tcpSocket
  setTcp := (netContract resolve).setTcp
  removeSocket_isSome := (netContract resolve).removeSocket_isSome
  removeSocket := (netContract resolve).removeSocket
  ifacePoll := (netContract resolve).ifacePoll
  tcpConnect := (netContract resolve).tcpConnect
  startQuery_fresh := (netContract resolve).startQuery_fresh
  startQuery := (netContract resolve).startQuery
  getQueryResult_isSome := (netContract resolve).getQueryResult_isSome
  getQueryResult := (netContract resolve).getQueryResult
  cancelQuery_isSome := (netContract resolve).cancelQuery_isSome
  cancelQuery := (netContract resolve).cancelQuery

/-! ### Connections -/

lemma word_octets (n : ℕ) : (UInt8.ofNat (n / 256)).toNat * 256 + (UInt8.ofNat n).toNat =
    n % 65536 := by
  simp only [UInt8.toNat_ofNat']
  omega

/-- A segment names its socket's connection. -/
lemma endpoints_segment {s : Socket} {c : Connection} (h : s.connection = some c)
    (source : Ipv4Addr) (flags : UInt8) : endpoints (s.segment source flags) = c := by
  unfold Socket.connection at h
  split at h
  · next ip port hremote =>
    obtain rfl := Option.some.inj h
    obtain ⟨_ | ⟨a, _ | ⟨b, _ | ⟨c, _ | ⟨d, _ | _⟩⟩⟩⟩, hip⟩ := ip <;> simp at hip
    obtain ⟨_ | ⟨a', _ | ⟨b', _ | ⟨c', _ | ⟨d', _ | _⟩⟩⟩⟩, hsource⟩ := source <;> simp at hsource
    have hlocal := word_octets s.localPort
    have hport := word_octets port
    simp only [endpoints, Socket.segment, hremote, Connection.mk.injEq, SocketAddr.mk.injEq]
    refine ⟨hlocal, rfl, hport⟩
  · simp at h

lemma connection_process (s : Socket) (seg : Segment) :
    (s.process seg).connection = s.connection := by
  unfold Socket.process
  split_ifs <;> rfl

lemma lookup_receive {n : Net} {packet : Packet} {h : SocketHandle} {s' : Socket}
    (hs : (n.receive packet).tcp.lookup h = some s') :
    ∃ s, n.tcp.lookup h = some s ∧ s'.connection = s.connection := by
  unfold Net.receive at hs
  split at hs
  · exact ⟨s', hs, rfl⟩
  · next seg hseg =>
    have hmap := lookup_map_snd (fun s : Socket => if s.localPort = seg.destinationPort ∧
      s.remote = some ⟨.v4 seg.source, seg.sourcePort⟩ then s.process seg else s) n.tcp h
    have hlists : n.tcp.map (fun x => (x.1, if x.2.localPort = seg.destinationPort ∧
        x.2.remote = some ⟨.v4 seg.source, seg.sourcePort⟩ then x.2.process seg else x.2)) =
        n.tcp.map fun x => if x.2.localPort = seg.destinationPort ∧
          x.2.remote = some ⟨.v4 seg.source, seg.sourcePort⟩ then (x.1, x.2.process seg)
          else (x.1, x.2) := by
      refine List.map_congr_left fun x _ => ?_
      split_ifs <;> rfl
    rw [hlists] at hmap
    obtain ⟨s, hlookup, heq⟩ := Option.map_eq_some_iff.mp (hmap.symm.trans hs)
    refine ⟨s, hlookup, ?_⟩
    rw [← heq]
    split_ifs
    · exact connection_process s seg
    · rfl

lemma lookup_poll {n : Net} {packets : List Packet} {h : SocketHandle} {s' : Socket}
    (hs : (n.poll packets).2.tcp.lookup h = some s') :
    ∃ s, n.tcp.lookup h = some s ∧ s'.connection = s.connection := by
  have hmap := lookup_map_snd (fun s : Socket => { s with control := false })
    (packets.foldl Net.receive n).tcp h
  obtain ⟨s₁, hs₁, rfl⟩ := Option.map_eq_some_iff.mp (hmap.symm.trans hs)
  clear hs hmap
  induction packets generalizing n with
  | nil => exact ⟨s₁, hs₁, rfl⟩
  | cons packet packets ih =>
    obtain ⟨s₂, hs₂, hsame⟩ := ih hs₁
    obtain ⟨s, hs, hsame'⟩ := lookup_receive hs₂
    exact ⟨s, hs, hsame.trans hsame'⟩

lemma lookup_setTcp (n : Net) (h : SocketHandle) (s : Socket) (k : SocketHandle) :
    (n.setTcp h s).tcp.lookup k =
      if k = h then (n.tcp.lookup k).map fun _ => s else n.tcp.lookup k := by
  obtain ⟨_, _, tcp, _, _⟩ := n
  simp only [Net.setTcp]
  induction tcp with
  | nil => simp
  | cons x tcp ih =>
    rw [List.map_cons, List.lookup_cons, List.lookup_cons, ih]
    by_cases hxh : x.1 = h
    · by_cases hkx : k = x.1
      · simp [hxh, hkx]
      · simp [hxh, beq_false_of_ne (hxh ▸ hkx)]
    · by_cases hkx : k = x.1
      · simp [hkx, hxh]
      · simp [hxh, beq_false_of_ne hkx]

lemma lookup_addTcp (n : Net) (s : Socket) (h : SocketHandle) :
    (n.addTcp s).2.tcp.lookup h = if h = (n.addTcp s).1 then some s else n.tcp.lookup h := by
  show ((fresh n.handles, s) :: n.tcp).lookup h = if h = fresh n.handles then _ else _
  rw [List.lookup_cons]
  by_cases hfresh : h = fresh n.handles
  · simp [hfresh]
  · simp [hfresh, beq_false_of_ne hfresh]

lemma lookup_remove {n n' : Net} {h k : SocketHandle} (hn : n.remove h = some n') (hne : k ≠ h) :
    n'.tcp.lookup k = n.tcp.lookup k := by
  obtain ⟨-, rfl⟩ : h ∈ n.handles ∧ _ = n' := by simpa only [Net.remove,
    Option.ite_none_right_eq_some, Option.some.injEq] using hn
  exact (lookup_filter_ne n.tcp h k).trans (if_neg hne)

lemma tcp_queryResult {n n' : Net} {q : QueryHandle} {r : QueryResult}
    (h : n.queryResult resolve q = some (r, n')) : n'.tcp = n.tcp := by
  obtain ⟨query, -, hquery⟩ := Option.map_eq_some_iff.mp h
  obtain ⟨rfl, rfl⟩ : _ = r ∧ _ = n' := by simpa only [Prod.mk.injEq] using hquery
  split_ifs <;> rfl

/-- The control segments name connections of sockets in the set. -/
lemma mem_control {n : Net} {packet : Packet} (h : .transmit packet ∈ n.control) :
    ∃ h s c, n.tcp.lookup h = some s ∧ s.connection = some c ∧ endpoints packet = c := by
  obtain ⟨h, -, hsend⟩ := List.mem_filterMap.mp h
  obtain ⟨s, hs, hsend⟩ := Option.bind_eq_some_iff.mp hsend
  split_ifs at hsend with hcontrol
  rw [Bool.and_eq_true, Option.isSome_iff_exists] at hcontrol
  obtain ⟨-, c, hc⟩ := hcontrol
  refine ⟨h, s, c, hs, hc, ?_⟩
  rw [← DeviceOp.transmit.inj (Option.some.inj hsend)]
  exact endpoints_segment hc n.source s.controlFlags

def resetContract : ResetContract (resetting resolve) where
  connection := Socket.connection
  Resets := Resets
  tcpConnect n s ip port localPort s' c hport hs hc := by
    replace hs : n.connect s ip port localPort = .ok s' := hs
    unfold Net.connect at hs
    split_ifs at hs
    obtain rfl := Except.ok.inj hs
    unfold Socket.connection at hc
    split at hc
    · obtain rfl := Option.some.inj hc
      exact Nat.mod_eq_of_lt hport
    · simp at hc
  dequeue _ _ := rfl
  enqueue _ _ := rfl
  close _ := rfl
  abort _ := rfl
  state_abort _ := rfl
  addTcp n s := (lookup_addTcp n s _).trans (if_pos rfl)
  addTcp_of_ne n s h hne := (lookup_addTcp n s h).trans (if_neg hne)
  setTcp n h s hs := by
    obtain ⟨old, hold⟩ := Option.isSome_iff_exists.mp hs
    apply (lookup_setTcp n h s h).trans
    rw [if_pos rfl, show n.tcp.lookup h = some old from hold]
    rfl
  setTcp_of_ne n h s k hne := (lookup_setTcp n h s k).trans (if_neg hne)
  removeSocket_of_ne _ _ _ _ hn hne := lookup_remove hn hne
  tcpConnect_socket _ _ _ _ _ _ := rfl
  startQuery n d name kind h := by
    show (n.startQuery name kind).2.tcp.lookup h = n.tcp.lookup h
    unfold Net.startQuery
    split_ifs <;> rfl
  getQueryResult n d q r n' h hn := congrArg (·.lookup h) (tcp_queryResult resolve hn)
  cancelQuery n d q n' h hn := by
    obtain ⟨-, -, rfl⟩ := Option.map_eq_some_iff.mp hn
    rfl
  ifacePoll n t packets h s' hs := by
    obtain ⟨s, hold, hsame⟩ := lookup_poll hs
    exact ⟨s, hold, .inr hsame⟩
  ifacePoll_receive n t packets := by
    show packets.length ≤ (packets.map (fun _ => DeviceOp.receive) ++ _).countP _
    rw [List.countP_append, List.map_const', List.countP_replicate, if_pos (by simp)]
    exact Nat.le_add_right _ _
  ifacePoll_resets n t packet c hmem hresets := by
    obtain ⟨h, s, c', hs, hc', hends⟩ := mem_control (n := n) hmem
    exact ⟨h, s, hs, by rw [← hresets.2, hends]; exact hc'⟩

end Reference

end Ovpnlane
