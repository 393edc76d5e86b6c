import Ovpnlane.Construction.Netstack.Reference
import Mathlib.Logic.Function.Basic

/-!
# The servers of the DNS socket

`Engine::new` hands the resolvers of the settings to `dns::Socket::new`, and smoltcp decides which
of them it keeps and in what order it asks them.  A result about servers needs more of the DNS
socket than `NetContract` says: `Resolver` is what it holds, the servers it keeps and, for each
query, what is asked and which servers it was sent to, and `DnsContract` says how the calls of the
engine change it and what a query that ends without an address has done.

`resolving answers` is the reference backend with a DNS socket that behaves so: it keeps one server,
sends it each query in the next poll of the interface, and gives up ten seconds later unless
`answers` has an answer of that server.
-/

namespace Ovpnlane

/-! ## The contract -/

/-- `DNS_MAX_SERVER_COUNT` of smoltcp.  Only a cargo feature or a build variable raises it, and this
repository sets neither. -/
def dnsMaxServerCount : ℕ := 1

/-- A query, and the servers it was sent to. -/
structure QuerySlot where
  name : String
  kind : DnsQueryType
  asked : List IpAddr

/-- What a `dns::Socket` holds. -/
structure Resolver where
  servers : List IpAddr
  slots : QueryHandle → Option QuerySlot

namespace Resolver

/-- A query that was sent to nobody yet. -/
def start (r : Resolver) (q : QueryHandle) (name : String) (kind : DnsQueryType) : Resolver :=
  { r with slots := Function.update r.slots q (some ⟨name, kind, []⟩) }

def free (r : Resolver) (q : QueryHandle) : Resolver :=
  { r with slots := Function.update r.slots q none }

variable {r : Resolver} {q q' : QueryHandle} {name : String} {kind : DnsQueryType}

@[simp] lemma start_servers : (r.start q name kind).servers = r.servers := rfl

@[simp] lemma free_servers : (r.free q).servers = r.servers := rfl

@[simp] lemma start_slots : (r.start q name kind).slots q = some ⟨name, kind, []⟩ :=
  Function.update_self ..

lemma start_slots_of_ne (h : q' ≠ q) : (r.start q name kind).slots q' = r.slots q' :=
  Function.update_of_ne h ..

lemma free_slots_of_ne (h : q' ≠ q) : (r.free q).slots q' = r.slots q' :=
  Function.update_of_ne h ..

end Resolver

/-- What a result about servers relies on of `dns::Socket`. -/
structure DnsContract (B : Backend) where
  resolver : B.Net → Resolver
  /-- The packet is the DNS query for this name and type, addressed to the server. -/
  Asks : Packet → IpAddr → String → DnsQueryType → Prop
  /-- `dns::Socket::new` keeps the first servers of the slice. -/
  addDns : ∀ n servers,
    (resolver (B.addDns n servers).2).servers = servers.take dnsMaxServerCount
  addTcp : ∀ n s, resolver (B.addTcp n s).2 = resolver n
  setTcp : ∀ n h s, resolver (B.setTcp n h s) = resolver n
  /-- Another socket is removed. -/
  removeSocket : ∀ n h n', (B.tcpSocket n h).isSome = true → B.removeSocket n h = some n' →
    resolver n' = resolver n
  tcpConnect : ∀ n s ip port localPort,
    resolver (B.tcpConnect n s ip port localPort).2 = resolver n
  startQuery : ∀ n h name kind, resolver (B.startQuery n h name kind).2 =
    match (B.startQuery n h name kind).1 with
    | .ok q => (resolver n).start q name kind
    | .error _ => resolver n
  /-- `start_query` fails only on account of the name. -/
  startQuery_name : ∀ n h n' h' name kind kind' q, (B.startQuery n h name kind).1 = .ok q →
    ∃ q', (B.startQuery n' h' name kind').1 = .ok q'
  getQueryResult : ∀ n h q r n', B.getQueryResult n h q = some (r, n') → resolver n' =
    if r = .pending then resolver n else (resolver n).free q
  /-- A query that ends without an address was sent to all servers that were kept. -/
  exhausted : ∀ n h q r n', B.getQueryResult n h q = some (r, n') → r ≠ .pending →
    (∀ ips, r = .completed ips → ips = []) →
    ∃ slot, (resolver n).slots q = some slot ∧ ∀ a ∈ (resolver n).servers, a ∈ slot.asked
  cancelQuery : ∀ n h q n', B.cancelQuery n h q = some n' → resolver n' = (resolver n).free q
  ifacePoll_servers : ∀ n t packets,
    (resolver (B.ifacePoll n t packets).2).servers = (resolver n).servers
  /-- A poll sends queries on. -/
  ifacePoll_slots : ∀ n t packets q slot,
    (resolver (B.ifacePoll n t packets).2).slots q = some slot →
    ∃ before, (resolver n).slots q = some before ∧ slot.name = before.name ∧
      slot.kind = before.kind ∧ ∀ a ∈ slot.asked, a ∈ before.asked ∨
        ∃ packet, .transmit packet ∈ (B.ifacePoll n t packets).1 ∧ Asks packet a slot.name slot.kind
  /-- Queries are sent to the servers that were kept. -/
  ifacePoll_asks : ∀ n t packets packet a name kind,
    .transmit packet ∈ (B.ifacePoll n t packets).1 → Asks packet a name kind →
      a ∈ (resolver n).servers

/-! ## A backend that meets it -/

namespace Reference

/-- How far a query has come. -/
inductive QueryState
  | unsent
  /-- It was sent at this time, in milliseconds. -/
  | sent (time : ℕ)
  /-- It has ended with these addresses; `none` if it failed. -/
  | ended (addresses : Option (List IpAddr))
  deriving DecidableEq

structure DnsQuery where
  name : String
  kind : DnsQueryType
  state : QueryState
  deriving DecidableEq

/-- A DNS socket with its server. -/
structure DnsSocket where
  server : Option IpAddr
  queries : List (QueryHandle × DnsQuery)

/-- The labels of a name. -/
def labels (name : String) : List UInt8 :=
  ((name.toList.splitOn '.').flatMap fun label =>
    UInt8.ofNat label.length :: label.map fun c => UInt8.ofNat c.toNat) ++ [0]

/-- A DNS query from an IPv4 address in a UDP datagram, checksums aside. -/
def queryPacket (source : Ipv4Addr) (server : IpAddr) (name : String) (kind : DnsQueryType) :
    Packet :=
  let query := [0xc0, 0, 0, 53, 0, 0, 0, 0, 0, 0, 1, 0, 0, 1, 0, 0, 0, 0, 0, 0] ++ labels name ++
    [0, if kind = .a then 1 else 28, 0, 1]
  match server with
  | .v4 ip => ([0x45, 0, 0, 0, 0, 0, 0, 0, 64, 17, 0, 0] ++ source.octets) ++ (ip.octets ++ query)
  | .v6 ip => ([0x60, 0, 0, 0, 0, 0, 17, 64] ++ List.replicate 16 0) ++ (ip.octets ++ query)

def retransmitTimeout : ℕ := 10000

/-- A poll of a query: it is sent, answered or given up, or goes on waiting. -/
def DnsQuery.poll (answers : IpAddr → String → DnsQueryType → Option (List IpAddr))
    (server : Option IpAddr) (t : ℕ) (q : DnsQuery) : DnsQuery :=
  match q.state, server with
  | .ended _, _ => q
  | _, none => { q with state := .ended none }
  | .unsent, some _ => { q with state := .sent t }
  | .sent time, some server =>
    match answers server q.name q.kind with
    | some [] => { q with state := .ended none }
    | some ips => { q with state := .ended (some ips) }
    | none => if time + retransmitTimeout < t then { q with state := .ended none } else q

/-- The packet a query is sent with. -/
def DnsQuery.packet (source : Ipv4Addr) (server : Option IpAddr) (q : DnsQuery) : Option Packet :=
  match q.state, server with
  | .unsent, some server => some (queryPacket source server q.name q.kind)
  | _, _ => none

/-- The servers a query was sent to. -/
def DnsQuery.asked (server : Option IpAddr) (q : DnsQuery) : List IpAddr :=
  if q.state = .unsent then [] else server.toList

def DnsQuery.result (q : DnsQuery) : QueryResult :=
  match q.state with
  | .ended none => .failed
  | .ended (some ips) => .completed ips
  | _ => .pending

namespace DnsSocket

def freshQuery (d : DnsSocket) : QueryHandle := fresh (d.queries.map Prod.fst)

def startQuery (d : DnsSocket) (name : String) (kind : DnsQueryType) :
    Except String QueryHandle × DnsSocket :=
  if name = "" then (.error "invalid name", d)
  else (.ok d.freshQuery, { d with queries := (d.freshQuery, ⟨name, kind, .unsent⟩) :: d.queries })

def free (d : DnsSocket) (q : QueryHandle) : DnsSocket :=
  { d with queries := d.queries.filter (·.1 ≠ q) }

def queryResult (d : DnsSocket) (q : QueryHandle) : Option (QueryResult × DnsSocket) :=
  (d.queries.lookup q).map fun query =>
    (query.result, if query.result = .pending then d else d.free q)

def cancelQuery (d : DnsSocket) (q : QueryHandle) : Option DnsSocket :=
  (d.queries.lookup q).map fun _ => d.free q

def poll (answers : IpAddr → String → DnsQueryType → Option (List IpAddr)) (d : DnsSocket)
    (t : ℕ) : DnsSocket :=
  { d with queries := d.queries.map fun (h, q) => (h, q.poll answers d.server t) }

/-- The queries a poll sends. -/
def packets (d : DnsSocket) (source : Ipv4Addr) : List DeviceOp :=
  (d.queries.filterMap fun (_, q) => q.packet source d.server).map .transmit

end DnsSocket

end Reference

open Reference in
/-- The reference backend with a DNS socket of its own. -/
def resolving (answers : IpAddr → String → DnsQueryType → Option (List IpAddr)) : Backend :=
  { reference fun _ _ => .failed with
    Net := Reference.Net × DnsSocket
    interfaceNew := fun _ => (⟨[], 0, [], [], []⟩, ⟨none, []⟩)
    ipAddrs := fun n => n.1.addresses
    setIpAddrs := fun n addresses => (n.1.setAddresses addresses).map (·, n.2)
    addDefaultRoute := fun n _ => n.1.addRoute.map (·, n.2)
    addDns := fun n servers => (n.1.addDns.1, n.1.addDns.2, { n.2 with server := servers.head? })
    addTcp := fun n s => ((n.1.addTcp s).1, (n.1.addTcp s).2, n.2)
    dnsSocket := fun n h => decide (h ∈ n.1.dns)
    tcpSocket := fun n h => n.1.tcp.lookup h
    setTcp := fun n h s => (n.1.setTcp h s, n.2)
    removeSocket := fun n h => (n.1.remove h).map (·, n.2)
    ifacePoll := fun n t packets =>
      ((n.1.poll packets).1 ++ n.2.packets n.1.source, (n.1.poll packets).2, n.2.poll answers t)
    tcpConnect := fun n s ip port localPort => (n.1.connect s ip port localPort, n)
    startQuery := fun n _ name kind =>
      ((n.2.startQuery name kind).1, n.1, (n.2.startQuery name kind).2)
    getQueryResult := fun n _ q => (n.2.queryResult q).map fun (r, d) => (r, n.1, d)
    cancelQuery := fun n _ q => (n.2.cancelQuery q).map (n.1, ·) }

namespace Reference

variable (answers : IpAddr → String → DnsQueryType → Option (List IpAddr))

def inventoryWith (n : Net × DnsSocket) : Inventory :=
  { inventory n.1 with queries := (n.2.queries.map Prod.fst).toFinset }

lemma inventoryWith_congr {n n' : Net} {d : DnsSocket} (h : inventory n = inventory n') :
    inventoryWith (n, d) = inventoryWith (n', d) := by
  simp only [inventoryWith, h]

lemma DnsSocket.startQuery_eq_ok {d : DnsSocket} {name : String} {kind : DnsQueryType}
    {q : QueryHandle} (h : (d.startQuery name kind).1 = .ok q) : q = d.freshQuery ∧
      (d.startQuery name kind).2 =
        { d with queries := (d.freshQuery, ⟨name, kind, .unsent⟩) :: d.queries } := by
  unfold DnsSocket.startQuery at h ⊢
  split_ifs at h ⊢
  exact ⟨(Except.ok.inj h).symm, rfl⟩

lemma DnsSocket.startQuery_eq_error {d : DnsSocket} {name : String} {kind : DnsQueryType}
    {text : String} (h : (d.startQuery name kind).1 = .error text) :
    (d.startQuery name kind).2 = d := by
  unfold DnsSocket.startQuery at h ⊢
  split_ifs at h ⊢
  rfl

lemma DnsSocket.queryResult_eq_some {d d' : DnsSocket} {q : QueryHandle} {r : QueryResult}
    (h : d.queryResult q = some (r, d')) : ∃ query, d.queries.lookup q = some query ∧
      r = query.result ∧ d' = if r = .pending then d else d.free q := by
  obtain ⟨query, hquery, hr⟩ := Option.map_eq_some_iff.mp h
  obtain ⟨rfl, rfl⟩ := Prod.mk.inj hr
  exact ⟨query, hquery, rfl, rfl⟩

def resolvingContract : NetContract (resolving answers) where
  inventory := inventoryWith
  new _ := rfl
  setIpAddrs n addrs n' h := by
    obtain ⟨net, hnet, rfl⟩ := Option.map_eq_some_iff.mp h
    simp only [inventoryWith, (inventory_setAddresses hnet).1]
  addDefaultRoute n ip n' h := by
    obtain ⟨net, hnet, rfl⟩ := Option.map_eq_some_iff.mp h
    simp only [inventoryWith, (inventory_addRoute hnet).1]
  addDns_fresh n _ h := fresh_not_mem n.1.handles (mem_inventory.mp h)
  addDns n servers := by simp [resolving, inventoryWith, inventory, Net.addDns]
  addTcp_fresh n _ h := fresh_not_mem n.1.handles (mem_inventory.mp h)
  addTcp n s := by simp [resolving, inventoryWith, inventory, Net.addTcp]
  dnsSocket n h := by simp [resolving, inventoryWith, inventory]
  tcpSocket n h := lookup_isSome_iff n.1.tcp h
  setTcp n h s := inventoryWith_congr (inventory_setTcp n.1 h s)
  removeSocket_isSome n h := by
    refine Iff.trans ?_ (@mem_inventory n.1 h).symm
    simp [resolving, Net.remove]
  removeSocket n h n' hn := by
    obtain ⟨net, hnet, rfl⟩ := Option.map_eq_some_iff.mp hn
    simp only [inventoryWith, inventory_remove hnet]
  ifacePoll n t packets := by
    simp [resolving, inventoryWith, inventory_poll, DnsSocket.poll, Function.comp_def]
  tcpConnect _ _ _ _ _ := rfl
  startQuery_fresh n _ name kind q h := by
    rw [(DnsSocket.startQuery_eq_ok h).1]
    exact fun hmem => fresh_not_mem _ (List.mem_toFinset.mp hmem)
  startQuery n h name kind := by
    show inventoryWith (n.1, (n.2.startQuery name kind).2) =
      match (n.2.startQuery name kind).1 with
      | .ok q => { inventoryWith n with queries := insert q (inventoryWith n).queries }
      | .error _ => inventoryWith n
    rcases hstart : (n.2.startQuery name kind).1 with text | q
    · rw [DnsSocket.startQuery_eq_error hstart]
      rfl
    · obtain ⟨rfl, hd⟩ := DnsSocket.startQuery_eq_ok hstart
      rw [hd]
      simp [inventoryWith]
  getQueryResult_isSome n _ q _ := by
    refine Iff.trans ?_ (lookup_isSome_iff n.2.queries q)
    simp [resolving, DnsSocket.queryResult]
  getQueryResult n h q r n' hn := by
    obtain ⟨⟨r', d⟩, hd, hr⟩ := Option.map_eq_some_iff.mp hn
    obtain ⟨rfl, rfl⟩ := Prod.mk.inj hr
    obtain ⟨query, -, -, rfl⟩ := DnsSocket.queryResult_eq_some hd
    split_ifs
    · rfl
    · simp only [inventoryWith, DnsSocket.free, toFinset_filter_ne]
  cancelQuery_isSome n _ q _ := by
    refine Iff.trans ?_ (lookup_isSome_iff n.2.queries q)
    simp [resolving, DnsSocket.cancelQuery]
  cancelQuery n h q n' hn := by
    obtain ⟨d, hd, rfl⟩ := Option.map_eq_some_iff.mp hn
    obtain ⟨query, -, rfl⟩ := Option.map_eq_some_iff.mp hd
    simp only [inventoryWith, DnsSocket.free, toFinset_filter_ne]

/-! ### The DNS socket -/

def resolverOf (n : Net × DnsSocket) : Resolver where
  servers := n.2.server.toList
  slots q := (n.2.queries.lookup q).map fun query =>
    ⟨query.name, query.kind, query.asked n.2.server⟩

/-- Where a packet is a DNS query, its address says to which server. -/
lemma queryPacket_server {source source' : Ipv4Addr} {server server' : IpAddr}
    {name name' : String} {kind kind' : DnsQueryType}
    (h : queryPacket source server name kind = queryPacket source' server' name' kind') :
    server = server' := by
  cases server with
  | v4 ip =>
    cases server' with
    | v4 ip' =>
      obtain ⟨-, h⟩ := List.append_inj h (by simp [source.length_octets, source'.length_octets])
      obtain ⟨h, -⟩ := List.append_inj h (by rw [ip.length_octets, ip'.length_octets])
      cases ip
      cases ip'
      simpa using h
    | v6 ip' => simp [queryPacket] at h
  | v6 ip =>
    cases server' with
    | v4 ip' => simp [queryPacket] at h
    | v6 ip' =>
      obtain ⟨-, h⟩ := List.append_inj h (by simp)
      obtain ⟨h, -⟩ := List.append_inj h (by rw [ip.length_octets, ip'.length_octets])
      cases ip
      cases ip'
      simpa using h

/-- A TCP segment is no DNS query. -/
lemma segment_ne_queryPacket {s : Socket} {source source' : Ipv4Addr} {flags : UInt8}
    {server : IpAddr} {name : String} {kind : DnsQueryType} :
    s.segment source flags ≠ queryPacket source' server name kind := by
  intro h
  have hprotocol := congrArg (fun packet => (packet.getD 0 0, packet.getD 9 0)) h
  cases server <;> simp [Socket.segment, queryPacket] at hprotocol

lemma DnsQuery.poll_frame (answers : IpAddr → String → DnsQueryType → Option (List IpAddr))
    (server : Option IpAddr) (t : ℕ) (q : DnsQuery) :
    (q.poll answers server t).name = q.name ∧ (q.poll answers server t).kind = q.kind := by
  unfold DnsQuery.poll
  split
  · exact ⟨rfl, rfl⟩
  · exact ⟨rfl, rfl⟩
  · exact ⟨rfl, rfl⟩
  · split
    · exact ⟨rfl, rfl⟩
    · exact ⟨rfl, rfl⟩
    · split_ifs <;> exact ⟨rfl, rfl⟩

lemma DnsQuery.packet_eq_some {source : Ipv4Addr} {server : Option IpAddr} {q : DnsQuery}
    {packet : Packet} (h : q.packet source server = some packet) :
    ∃ a, server = some a ∧ packet = queryPacket source a q.name q.kind := by
  unfold DnsQuery.packet at h
  split at h
  · exact ⟨_, rfl, (Option.some.inj h).symm⟩
  · simp at h

/-- A query that was sent to a server in a poll left in a packet. -/
lemma DnsQuery.asked_poll {server : Option IpAddr} {t : ℕ} {q : DnsQuery} {a : IpAddr}
    (source : Ipv4Addr) (ha : a ∈ (q.poll answers server t).asked server) :
    a ∈ q.asked server ∨ q.packet source server = some (queryPacket source a q.name q.kind) := by
  by_cases hstate : q.state = .unsent
  · right
    have hserver : a ∈ server.toList := by
      unfold DnsQuery.asked at ha
      split_ifs at ha
      · simp at ha
      · exact ha
    obtain rfl : server = some a := by simpa using hserver
    simp [DnsQuery.packet, hstate]
  · left
    rw [DnsQuery.asked] at ha
    rw [DnsQuery.asked, if_neg hstate]
    split_ifs at ha
    · simp at ha
    · exact ha

/-- What has a result was sent to the server. -/
lemma DnsQuery.asked_of_result {q : DnsQuery} (h : q.result ≠ .pending) (server : Option IpAddr) :
    q.asked server = server.toList := by
  rw [DnsQuery.asked, if_neg]
  intro hstate
  simp [DnsQuery.result, hstate] at h

lemma resolverOf_free (n : Net) (d : DnsSocket) (q : QueryHandle) :
    resolverOf (n, d.free q) = (resolverOf (n, d)).free q := by
  simp only [resolverOf, Resolver.free, DnsSocket.free, Resolver.mk.injEq, true_and]
  funext a
  rw [lookup_filter_ne, Function.update_apply]
  split_ifs <;> rfl

def dnsContract : DnsContract (resolving answers) where
  resolver := resolverOf
  Asks packet a name kind := ∃ source, packet = queryPacket source a name kind
  addDns n servers := by cases servers <;> rfl
  addTcp _ _ := rfl
  setTcp _ _ _ := rfl
  removeSocket n h n' _ hn := by
    obtain ⟨net, -, rfl⟩ := Option.map_eq_some_iff.mp hn
    rfl
  tcpConnect _ _ _ _ _ := rfl
  startQuery n h name kind := by
    show resolverOf (n.1, (n.2.startQuery name kind).2) =
      match (n.2.startQuery name kind).1 with
      | .ok q => (resolverOf n).start q name kind
      | .error _ => resolverOf n
    rcases hstart : (n.2.startQuery name kind).1 with text | q
    · rw [DnsSocket.startQuery_eq_error hstart]
      rfl
    · obtain ⟨rfl, hd⟩ := DnsSocket.startQuery_eq_ok hstart
      rw [hd]
      simp only [resolverOf, Resolver.start, Resolver.mk.injEq, true_and]
      funext a
      rw [List.lookup_cons, Function.update_apply]
      by_cases ha : a = n.2.freshQuery
      · simp [ha, DnsQuery.asked]
      · rw [beq_false_of_ne ha, if_neg ha]
  startQuery_name n h n' h' name kind kind' q hq := by
    have hname : name ≠ "" := by
      rintro rfl
      simp [resolving, DnsSocket.startQuery] at hq
    exact ⟨n'.2.freshQuery, by simp [resolving, DnsSocket.startQuery, hname]⟩
  getQueryResult n h q r n' hn := by
    obtain ⟨⟨r', d⟩, hd, hr⟩ := Option.map_eq_some_iff.mp hn
    obtain ⟨rfl, rfl⟩ := Prod.mk.inj hr
    obtain ⟨query, -, -, rfl⟩ := DnsSocket.queryResult_eq_some hd
    split_ifs
    · rfl
    · exact resolverOf_free n.1 n.2 q
  exhausted n h q r n' hn hr _ := by
    obtain ⟨⟨r', d⟩, hd, heq⟩ := Option.map_eq_some_iff.mp hn
    obtain ⟨rfl, rfl⟩ := Prod.mk.inj heq
    obtain ⟨query, hquery, rfl, -⟩ := DnsSocket.queryResult_eq_some hd
    refine ⟨_, Option.map_eq_some_iff.mpr ⟨query, hquery, rfl⟩, fun a ha => ?_⟩
    rw [DnsQuery.asked_of_result hr]
    exact ha
  cancelQuery n h q n' hn := by
    obtain ⟨d, hd, rfl⟩ := Option.map_eq_some_iff.mp hn
    obtain ⟨query, -, rfl⟩ := Option.map_eq_some_iff.mp hd
    exact resolverOf_free n.1 n.2 q
  ifacePoll_servers _ _ _ := rfl
  ifacePoll_slots n t packets q slot hslot := by
    obtain ⟨polled, hpolled, rfl⟩ := Option.map_eq_some_iff.mp hslot
    obtain ⟨query, hquery, rfl⟩ := Option.map_eq_some_iff.mp
      ((lookup_map_snd (DnsQuery.poll answers n.2.server t) n.2.queries q).symm.trans hpolled)
    obtain ⟨hname, hkind⟩ := query.poll_frame answers n.2.server t
    refine ⟨_, Option.map_eq_some_iff.mpr ⟨query, hquery, rfl⟩, hname, hkind, fun a ha => ?_⟩
    refine (DnsQuery.asked_poll answers n.1.source ha).imp_right fun hpacket => ?_
    refine ⟨queryPacket n.1.source a query.name query.kind, ?_, n.1.source,
      by rw [← hname, ← hkind]⟩
    refine List.mem_append_right _ (List.mem_map.mpr ⟨_, ?_, rfl⟩)
    exact List.mem_filterMap.mpr ⟨(q, query), mem_of_lookup hquery, hpacket⟩
  ifacePoll_asks n t packets packet a name kind hmem hasks := by
    obtain ⟨source, rfl⟩ := hasks
    rcases List.mem_append.mp hmem with hmem | hmem
    · rcases List.mem_append.mp hmem with hmem | hmem
      · simp at hmem
      · obtain ⟨s, -, hs⟩ := List.mem_filterMap.mp hmem
        split_ifs at hs
        all_goals exact absurd (DeviceOp.transmit.inj (Option.some.inj hs)) segment_ne_queryPacket
    · obtain ⟨packet, hpacket, heq⟩ := List.mem_map.mp hmem
      obtain rfl := DeviceOp.transmit.inj heq
      obtain ⟨⟨q, query⟩, -, hquery⟩ := List.mem_filterMap.mp hpacket
      obtain ⟨server, hserver, hquery⟩ := DnsQuery.packet_eq_some hquery
      rw [queryPacket_server hquery]
      simp [resolverOf, hserver]

end Reference

end Ovpnlane
