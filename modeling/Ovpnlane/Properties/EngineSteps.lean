import Ovpnlane.Properties.Relay
import Ovpnlane.Properties.LocalPort
import Ovpnlane.Construction.Netstack.Engine

/-!
# What the engine's operations do

One specification for each operation of the engine, under `NetContract`: the operation succeeds
when the handles and slots it is given are there, and its result is one of a short list of cases
(`Dialed`, `Requested`, `LookupVisit`, `FlowVisit`).  A case says how the engine's record changes,
what happens to the sockets and query slots, and exactly which entries the log gains.  The
invariants of the engine and the life of a request are both read off these cases; no later proof
unfolds an operation.
-/

namespace Ovpnlane

variable {B : Backend}

/-- A packet handed to the sink. -/
def Event.isTransmitted : Event B → Bool
  | .transmitted .. => true
  | _ => false

/-! ## The device -/

namespace PacketDevice

/-- One `Interface::poll`, as far as the queue goes: it takes packets from the front, as many as the
interface asks for and the queue has. -/
def Polled (B : Backend) (net : B.Net) (d d' : PacketDevice) : Prop :=
  ∃ timestamp asked, asked = (B.ifacePoll net timestamp d.incoming).1.countP (· = .receive) ∧
    d'.incoming = d.incoming.drop asked ∧ d'.received = d.received + min asked d.incoming.length

@[simp] lemma receive_incoming (d : PacketDevice) : d.receive.incoming = d.incoming.tail := by
  unfold receive
  split <;> simp [*]

@[simp] lemma receive_received (d : PacketDevice) :
    d.receive.received = d.received + min 1 d.incoming.length := by
  unfold receive
  split <;> simp [*]

@[simp] lemma receive_sink (d : PacketDevice) : d.receive.sink = d.sink := by
  unfold receive
  split <;> rfl

@[simp] lemma receive_failed (d : PacketDevice) : d.receive.failed = d.failed := by
  unfold receive
  split <;> rfl

end PacketDevice

/-! ## Flows -/

namespace Polling

lemma sendReply_ok {p : Polling B} {reply : Reply} (answer : B.Answer)
    (h : p.flow.reply = some reply) : ∃ out, p.sendReply answer = .ok out :=
  ⟨_, by rw [sendReply, h]⟩

lemma pollReply_ok {p : Polling B} (now : Instant)
    (h : p.flow.reply.isSome = true → p.flow.client.isSome = true) :
    ∃ out, p.pollReply now = .ok out := by
  unfold pollReply
  split
  · exact ⟨_, rfl⟩
  · next reply hreply =>
    obtain ⟨client, hclient⟩ := Option.isSome_iff_exists.mp (h (by simp [hreply]))
    have hflow : (p.isClosed reply).2.flow = p.flow := rfl
    simp only [hflow, hclient]
    split_ifs
    · exact ⟨_, rfl⟩
    · split
      · obtain ⟨out, hout⟩ := @sendReply_ok B (p.isClosed reply).2 reply _ hreply
        exact ⟨_, by rw [hout]; rfl⟩
      · obtain ⟨out, hout⟩ := @sendReply_ok B (p.isClosed reply).2.takeClient reply _ hreply
        rw [hout, except_ok_bind]
        split_ifs <;> exact ⟨_, rfl⟩
    · split
      · obtain ⟨out, hout⟩ := @sendReply_ok B (p.isClosed reply).2 reply _ hreply
        exact ⟨_, by rw [hout]; rfl⟩
      · exact ⟨_, rfl⟩

/-- A poll succeeds on a flow that still has its client as long as it has its reply. -/
lemma poll_ok {p : Polling B} (now idleTimeout : Instant)
    (h : p.flow.reply.isSome = true → p.flow.client.isSome = true) :
    ∃ p' keep, p.poll now idleTimeout = .ok (p', keep) := by
  obtain ⟨⟨q, result⟩, hreply⟩ := pollReply_ok now h
  rw [poll, hreply, except_ok_bind]
  cases result with
  | some keep => exact ⟨q, keep, rfl⟩
  | none =>
    simp only
    split_ifs
    · exact ⟨_, _, rfl⟩
    split
    · exact ⟨_, _, rfl⟩
    split
    · exact ⟨_, _, rfl⟩
    split <;> exact ⟨_, _, rfl⟩

end Polling

namespace Machine

/-! ## `connect_ip` -/

/-- What `connect_ip` does with a request: it answers it with an error, or a flow takes it over. -/
inductive Dialed (C : NetContract B) (m : Machine B) (ip : IpAddr) (port : ℕ) (reply : Reply)
    (deadline : Instant) (m' : Machine B) : Prop
  | refused (net : B.Net) (nextPort : ℕ) (error : IoError) (delivered : Bool)
      (hinventory : C.inventory net = C.inventory m.engine.net)
      (hnext : nextPort ∈ localPorts)
      (hengine : m'.engine = { m.engine with net := net, nextPort := nextPort })
      (hlog : m'.log =
        m.log ++ [.connectIp reply ip port, .sent reply (.error error) delivered])
  | opened (net : B.Net) (nextPort : ℕ) (flow : Flow B)
      (hfresh : flow.socket ∉
        (C.inventory m.engine.net).tcp ∪ (C.inventory m.engine.net).dns)
      (hinventory : C.inventory net = { C.inventory m.engine.net with
        tcp := insert flow.socket (C.inventory m.engine.net).tcp })
      (hnext : nextPort ∈ localPorts)
      (hport : flow.localAddr.port ∈ localPorts)
      (hunused : flow.localAddr.port ∉ m.engine.flows.map (·.localAddr.port))
      (hassigned : flow.localAddr.ip ∈ m.engine.settings.assigned)
      (hreply : flow.reply = some reply) (hrequest : flow.request = reply)
      (hclient : flow.client.isSome = true) (hdeadline : flow.deadline = deadline)
      (hengine : m'.engine = { m.engine with
        net := net, nextPort := nextPort, flows := m.engine.flows ++ [flow] })
      (hlog : m'.log = m.log ++ [.connectIp reply ip port])

lemma localIp_ok {settings : Settings} {ip : IpAddr} (h : settings.supportsFamily ip = true) :
    ∃ a, localIp settings ip = .ok a ∧ a ∈ settings.assigned := by
  cases ip with
  | v4 ip =>
    obtain ⟨a, ha⟩ := Option.isSome_iff_exists.mp h
    exact ⟨.v4 a, by simp [localIp, ha], by simp [Settings.assigned, ha]⟩
  | v6 ip =>
    obtain ⟨a, ha⟩ := Option.isSome_iff_exists.mp h
    exact ⟨.v6 a, by simp [localIp, ha], by simp [Settings.assigned, ha]⟩

@[simp] lemma note_engine (m : Machine B) (e : Event B) : (m.note e).engine = m.engine := rfl

@[simp] lemma refuse_engine (m : Machine B) (reply : Reply) (kind : ErrorKind)
    (message : String) : (m.refuse reply kind message).engine = m.engine := rfl

lemma refuse_log (m : Machine B) (reply : Reply) (kind : ErrorKind) (message : String) :
    ∃ delivered, (m.refuse reply kind message).log =
      m.log ++ [.sent reply (.error ⟨kind, message⟩) delivered] := ⟨_, rfl⟩

/-- The flow `openFlow` adds. -/
lemma openFlow_spec (C : NetContract B) (m : Machine B) (socket : B.Socket)
    (localAddr : SocketAddr) (reply : Reply) (deadline : Instant) :
    ∃ net flow, (m.openFlow socket localAddr reply deadline).engine =
        { m.engine with net := net, flows := m.engine.flows ++ [flow] } ∧
      (m.openFlow socket localAddr reply deadline).log = m.log ∧
      flow.socket ∉ (C.inventory m.engine.net).tcp ∪ (C.inventory m.engine.net).dns ∧
      C.inventory net = { C.inventory m.engine.net with
        tcp := insert flow.socket (C.inventory m.engine.net).tcp } ∧
      flow.localAddr = localAddr ∧ flow.reply = some reply ∧ flow.request = reply ∧
      flow.client.isSome = true ∧ flow.deadline = deadline :=
  ⟨(B.addTcp m.engine.net socket).2, ⟨(B.addTcp m.engine.net socket).1, _, some _,
    some reply, localAddr, deadline, _, false, false, reply⟩, rfl, rfl,
    C.addTcp_fresh m.engine.net socket, C.addTcp m.engine.net socket, rfl, rfl, rfl, rfl, rfl⟩

lemma dial_spec (C : NetContract B) {m : Machine B} (ip : IpAddr) (port : ℕ) (reply : Reply)
    (deadline : Instant) (hnext : m.engine.nextPort ∈ localPorts)
    (hlen : m.engine.flows.length < 16384)
    (hfamily : m.engine.settings.supportsFamily ip = true) :
    ∃ m', (m.note (.connectIp reply ip port)).dial ip port reply deadline = .ok m' ∧
      Dialed C m ip port reply deadline m' := by
  obtain ⟨⟨localPort, nextPort⟩, hfound⟩ := findPort_ok hnext hlen
  obtain ⟨hport, rfl, hunused⟩ := findPort_eq_some hnext hfound
  obtain ⟨a, ha, hassigned⟩ := localIp_ok hfamily
  have hnext' : nextLocalPort localPort ∈ localPorts := cyclicNext_mem hport
  have hinventory := C.tcpConnect m.engine.net (newSocket B) ip port localPort
  generalize hm₁ : ({ m.note (.connectIp reply ip port) with
    engine := { m.engine with nextPort := nextLocalPort localPort } } : Machine B).setNet
      (B.tcpConnect m.engine.net (newSocket B) ip port localPort).2 = m₁
  have hlog : m₁.log = m.log ++ [.connectIp reply ip port] := by rw [← hm₁]; rfl
  have hengine : m₁.engine = { m.engine with
      net := (B.tcpConnect m.engine.net (newSocket B) ip port localPort).2
      nextPort := nextLocalPort localPort } := by rw [← hm₁]; rfl
  rw [dial, show (m.note (.connectIp reply ip port)).engine = m.engine from rfl, hfound]
  simp only [hm₁]
  rcases (B.tcpConnect m.engine.net (newSocket B) ip port localPort).1 with text | socket
  · obtain ⟨delivered, hrefuse⟩ := refuse_log m₁ reply .other text
    refine ⟨_, rfl, .refused _ (nextLocalPort localPort) ⟨.other, text⟩ delivered hinventory hnext'
      hengine ?_⟩
    rw [hrefuse, hlog, List.append_assoc]
    rfl
  · obtain ⟨net, flow, hengine', hlog', hfresh, hinv, haddr, hreply, hrequest, hclient,
      hdeadline⟩ := openFlow_spec C m₁ socket ⟨a, localPort⟩ reply deadline
    simp only [hengine] at hengine' hfresh hinv
    rw [hinventory] at hfresh hinv
    rw [show m₁.engine.settings = m.engine.settings by rw [hengine], ha]
    refine ⟨_, rfl, .opened net (nextLocalPort localPort) flow hfresh hinv hnext' ?_ ?_ ?_ hreply
      hrequest hclient hdeadline hengine' (hlog'.trans hlog)⟩
    · rwa [haddr]
    · rwa [haddr]
    · rwa [haddr]

/-- **`connect_ip`.** -/
theorem connectIp_spec (C : NetContract B) (m : Machine B) (ip : IpAddr) (port : ℕ)
    (reply : Reply) (deadline : Instant) (hnext : m.engine.nextPort ∈ localPorts)
    (hlen : m.engine.flows.length < 16384) :
    ∃ m', m.connectIp ip port reply deadline = .ok m' ∧ Dialed C m ip port reply deadline m' := by
  unfold connectIp
  simp only
  split_ifs with hfamily hdestination
  · exact ⟨_, rfl, .refused m.engine.net m.engine.nextPort _ _ rfl hnext rfl
      (List.append_assoc ..)⟩
  · exact ⟨_, rfl, .refused m.engine.net m.engine.nextPort _ _ rfl hnext rfl
      (List.append_assoc ..)⟩
  · exact dial_spec C ip port reply deadline hnext hlen (by simpa using hfamily)

/-! ## The DNS socket -/

/-- A call of the DNS socket changes the sockets, the world and the log, and nothing else. -/
lemma startQuery_spec (C : NetContract B) {m : Machine B} (reply : Reply) (name : String)
    (kind : DnsQueryType) (hdns : m.engine.dns ∈ (C.inventory m.engine.net).dns) :
    ∃ handle m', m.startQuery reply name kind = .ok (handle, m') ∧
      (∃ net, m'.engine = { m.engine with net := net } ∧ C.inventory net =
        match handle with
        | .ok q => { C.inventory m.engine.net with
            queries := insert q (C.inventory m.engine.net).queries }
        | .error _ => C.inventory m.engine.net) ∧
      (∀ q, handle = .ok q → q ∉ (C.inventory m.engine.net).queries) ∧
      m'.log = m.log ++ [.query reply name kind handle] := by
  have hsocket : B.dnsSocket m.engine.net m.engine.dns = true := (C.dnsSocket _ _).mpr hdns
  refine ⟨(B.startQuery m.engine.net m.engine.dns name kind).1,
    (m.setNet (B.startQuery m.engine.net m.engine.dns name kind).2).note (.query reply name kind _),
    by rw [startQuery, dnsSocket, if_pos hsocket, except_ok_bind], ⟨_, rfl, ?_⟩, ?_, rfl⟩
  · exact C.startQuery m.engine.net m.engine.dns name kind
  · exact fun q => C.startQuery_fresh m.engine.net m.engine.dns name kind q

lemma getQueryResult_spec (C : NetContract B) {m : Machine B} (reply : Reply) {query : QueryHandle}
    (hdns : m.engine.dns ∈ (C.inventory m.engine.net).dns)
    (hquery : query ∈ (C.inventory m.engine.net).queries) :
    ∃ result m', m.getQueryResult reply query = .ok (result, m') ∧
      (∃ net, m'.engine = { m.engine with net := net } ∧ C.inventory net =
        if result = .pending then C.inventory m.engine.net
        else { C.inventory m.engine.net with
          queries := (C.inventory m.engine.net).queries.erase query }) ∧
      m'.log = m.log ++ [.queryResult reply query result] := by
  have hsocket : B.dnsSocket m.engine.net m.engine.dns = true := (C.dnsSocket _ _).mpr hdns
  obtain ⟨⟨result, net⟩, hresult⟩ :=
    Option.isSome_iff_exists.mp ((C.getQueryResult_isSome m.engine.net _ query hdns).mpr hquery)
  exact ⟨result, (m.setNet net).note (.queryResult reply query result),
    by rw [getQueryResult, dnsSocket, if_pos hsocket, except_ok_bind, hresult],
    ⟨net, rfl, C.getQueryResult _ _ _ _ _ hresult⟩, rfl⟩

lemma cancelQuery_spec (C : NetContract B) {m : Machine B} {query : QueryHandle}
    (hdns : m.engine.dns ∈ (C.inventory m.engine.net).dns)
    (hquery : query ∈ (C.inventory m.engine.net).queries) :
    ∃ m', m.cancelQuery query = .ok m' ∧
      (∃ net, m'.engine = { m.engine with net := net } ∧ C.inventory net =
        { C.inventory m.engine.net with
          queries := (C.inventory m.engine.net).queries.erase query }) ∧ m'.log = m.log := by
  have hsocket : B.dnsSocket m.engine.net m.engine.dns = true := (C.dnsSocket _ _).mpr hdns
  obtain ⟨net, hcancel⟩ :=
    Option.isSome_iff_exists.mp ((C.cancelQuery_isSome m.engine.net _ query hdns).mpr hquery)
  exact ⟨m.setNet net, by rw [cancelQuery, dnsSocket, if_pos hsocket, except_ok_bind, hcancel],
    ⟨net, rfl, C.cancelQuery _ _ _ _ hcancel⟩, rfl⟩

/-! ## `connect` -/

/-- What `connect` does with a request. -/
inductive Requested (C : NetContract B) (m : Machine B) (target : Target) (port : ℕ)
    (reply : Reply) (m' : Machine B) : Prop
  /-- Its receiver is gone. -/
  | gone (hengine : m'.engine = m.engine)
      (hlog : m'.log = m.log ++ [.observed reply true, .dropped reply .receiverClosed])
  /-- The engine holds as many flows and lookups as it may. -/
  | full (delivered : Bool)
      (hfull : m.engine.maxConnections ≤ m.engine.flows.length + m.engine.lookups.length)
      (hengine : m'.engine = m.engine)
      (hlog : m'.log = m.log ++ [.observed reply false,
        .sent reply (.error ⟨.other, "connection limit reached"⟩) delivered])
  /-- It is accepted, and dialed. -/
  | dialed (m₁ : Machine B) (deadline : Instant) (ip : IpAddr)
      (hroom : m.engine.flows.length + m.engine.lookups.length < m.engine.maxConnections)
      (htarget : target = .ip ip) (hengine : m₁.engine = m.engine)
      (hlog : m₁.log = m.log ++ [.observed reply false, .accepted reply deadline])
      (hdial : Dialed C m₁ ip port reply deadline m')
  /-- It is accepted, and cannot be looked up. -/
  | refused (net : B.Net) (deadline : Instant) (events : List (Event B)) (error : IoError)
      (delivered : Bool)
      (hroom : m.engine.flows.length + m.engine.lookups.length < m.engine.maxConnections)
      (hinventory : C.inventory net = C.inventory m.engine.net)
      (hengine : m'.engine = { m.engine with net := net })
      (hevents : events = [] ∨ ∃ name kind text, events = [.query reply name kind (.error text)])
      (hlog : m'.log = m.log ++ [.observed reply false, .accepted reply deadline] ++ events ++
        [.sent reply (.error error) delivered])
  /-- It is accepted, and a lookup takes it over. -/
  | lookedUp (net : B.Net) (lookup : Lookup) (kind : DnsQueryType)
      (hroom : m.engine.flows.length + m.engine.lookups.length < m.engine.maxConnections)
      (hfresh : lookup.query ∉ (C.inventory m.engine.net).queries)
      (hinventory : C.inventory net = { C.inventory m.engine.net with
        queries := insert lookup.query (C.inventory m.engine.net).queries })
      (hreply : lookup.reply = reply)
      (hengine : m'.engine = { m.engine with
        net := net, lookups := m.engine.lookups ++ [lookup] })
      (hlog : m'.log = m.log ++ [.observed reply false, .accepted reply lookup.deadline,
        .query reply lookup.name kind (.ok lookup.query)])

lemma lookUp_spec (C : NetContract B) {m m₀ : Machine B} (name : String) (port : ℕ)
    (reply : Reply) (deadline : Instant)
    (hdns : m.engine.dns ∈ (C.inventory m.engine.net).dns)
    (hroom : m.engine.flows.length + m.engine.lookups.length < m.engine.maxConnections)
    (hengine : m₀.engine = m.engine)
    (hlog : m₀.log = m.log ++ [.observed reply false, .accepted reply deadline]) :
    ∃ m', m₀.lookUp name port reply deadline = .ok m' ∧
      Requested C m (.domain name) port reply m' := by
  unfold lookUp
  by_cases hempty : m₀.engine.settings.dns.isEmpty = true
  · rw [if_pos hempty]
    obtain ⟨delivered, hrefuse⟩ := refuse_log m₀ reply .notFound
      "VPN supplied no DNS; use --dns or an IP address"
    exact ⟨_, rfl, .refused m.engine.net deadline [] _ delivered hroom rfl hengine (.inl rfl)
      (hrefuse.trans (by rw [hlog, List.append_nil]))⟩
  rw [if_neg hempty]
  obtain ⟨handle, m₁, hquery, ⟨net, hengine₁, hinventory⟩, hfresh, hlog₁⟩ :=
    startQuery_spec C reply name (queryType m₀.engine.settings) (hengine ▸ hdns)
  simp only [hquery, except_ok_bind]
  rw [hengine] at hengine₁ hinventory hfresh
  rw [hlog] at hlog₁
  cases handle with
  | ok query =>
    refine ⟨m₁.pushLookup ⟨query, name, fallbackType m₀.engine.settings, port, reply, deadline⟩,
      rfl, .lookedUp net ⟨query, name, fallbackType m₀.engine.settings, port, reply, deadline⟩
      (queryType m₀.engine.settings) hroom (hfresh query rfl) hinventory rfl ?_ ?_⟩
    · rw [pushLookup, hengine₁]
    · exact hlog₁.trans (List.append_assoc ..)
  | error text =>
    obtain ⟨delivered, hrefuse⟩ := refuse_log m₁ reply .invalidInput text
    refine ⟨_, rfl, .refused net deadline [.query reply name (queryType m₀.engine.settings)
      (.error text)] ⟨.invalidInput, text⟩ delivered hroom hinventory hengine₁
      (.inr ⟨_, _, _, rfl⟩) ?_⟩
    rw [hrefuse, hlog₁]

/-- **`connect`.** -/
theorem connect_spec (C : NetContract B) (m : Machine B) (target : Target) (port : ℕ)
    (reply : Reply) (hdns : m.engine.dns ∈ (C.inventory m.engine.net).dns)
    (hnext : m.engine.nextPort ∈ localPorts) (hlen : m.engine.flows.length < 16384) :
    ∃ m', m.connect target port reply = .ok m' ∧ Requested C m target port reply m' := by
  unfold connect
  have hengine : (m.isClosed reply).2.engine = m.engine := rfl
  have hlog : (m.isClosed reply).2.log = m.log ++ [.observed reply (m.isClosed reply).1] := rfl
  generalize m.isClosed reply = out at hengine hlog
  obtain ⟨closed, m₁⟩ := out
  simp only at hengine hlog ⊢
  cases closed
  · rw [if_neg (by simp)]
    by_cases hfull : m₁.engine.maxConnections ≤
        m₁.engine.flows.length + m₁.engine.lookups.length
    · rw [if_pos hfull]
      obtain ⟨delivered, hrefuse⟩ := refuse_log m₁ reply .other "connection limit reached"
      refine ⟨_, rfl, .full delivered (hengine ▸ hfull) hengine ?_⟩
      rw [hrefuse, hlog, List.append_assoc]
      rfl
    rw [if_neg hfull]
    rw [hengine, not_le] at hfull
    have hnow : m₁.now.2.engine = m.engine := hengine
    have hlog' : m₁.now.2.log = m.log ++ [.observed reply false] := hlog
    generalize m₁.now = out at hnow hlog'
    obtain ⟨t, m₂⟩ := out
    simp only at hnow hlog' ⊢
    have haccepted : (m₂.note (.accepted reply (t + m₂.engine.connectTimeout))).log =
        m.log ++ [.observed reply false, .accepted reply (t + m₂.engine.connectTimeout)] := by
      rw [note, hlog', List.append_assoc]
      rfl
    cases target with
    | ip ip =>
      obtain ⟨m', hdial, hdialed⟩ := connectIp_spec C
        (m₂.note (.accepted reply (t + m₂.engine.connectTimeout))) ip port reply
        (t + m₂.engine.connectTimeout) (by rwa [note_engine, hnow])
        (by rwa [note_engine, hnow])
      exact ⟨m', hdial, .dialed (m₂.note (.accepted reply _)) _ ip hfull rfl hnow haccepted hdialed⟩
    | domain name => exact lookUp_spec C name port reply _ hdns hfull hnow haccepted
  · rw [if_pos rfl]
    exact ⟨_, rfl, .gone hengine (by rw [note, hlog, List.append_assoc]; rfl)⟩

/-! ## The visits of a step -/

/-- What one visit of the lookup loop does. -/
inductive LookupVisit (C : NetContract B) (now : Instant) (m : Machine B) (lookup : Lookup)
    (m' : Machine B) : Verdict Lookup → Prop
  /-- Its receiver is gone, or it is too late. -/
  | expired (net : B.Net) (closed : Bool) (error : IoError) (delivered : Bool)
      (hinventory : C.inventory net = { C.inventory m.engine.net with
        queries := (C.inventory m.engine.net).queries.erase lookup.query })
      (hengine : m'.engine = { m.engine with net := net })
      (hlog : m'.log = m.log ++ [.observed lookup.reply closed,
        .sent lookup.reply (.error error) delivered]) : LookupVisit C now m lookup m' .remove
  /-- The query is pending. -/
  | pending (net : B.Net) (hnow : now < lookup.deadline)
      (hinventory : C.inventory net = C.inventory m.engine.net)
      (hengine : m'.engine = { m.engine with net := net })
      (hlog : m'.log = m.log ++ [.observed lookup.reply false,
        .queryResult lookup.reply lookup.query .pending]) :
      LookupVisit C now m lookup m' (.keep lookup)
  /-- The query has an address, which is dialed. -/
  | resolved (m₁ : Machine B) (net : B.Net) (result : QueryResult) (ip : IpAddr)
      (hnow : now < lookup.deadline)
      (hinventory : C.inventory net = { C.inventory m.engine.net with
        queries := (C.inventory m.engine.net).queries.erase lookup.query })
      (hengine : m₁.engine = { m.engine with net := net })
      (hlog : m₁.log = m.log ++ [.observed lookup.reply false,
        .queryResult lookup.reply lookup.query result])
      (hdial : Dialed C m₁ ip lookup.port lookup.reply lookup.deadline m') :
      LookupVisit C now m lookup m' .remove
  /-- The query has no address, and there is no other to make. -/
  | failed (net : B.Net) (result : QueryResult) (events : List (Event B)) (error : IoError)
      (delivered : Bool) (hnow : now < lookup.deadline)
      (hinventory : C.inventory net = { C.inventory m.engine.net with
        queries := (C.inventory m.engine.net).queries.erase lookup.query })
      (hengine : m'.engine = { m.engine with net := net })
      (hevents : events = [] ∨
        ∃ kind text, events = [.query lookup.reply lookup.name kind (.error text)])
      (hlog : m'.log = m.log ++ [.observed lookup.reply false,
        .queryResult lookup.reply lookup.query result] ++ events ++
        [.sent lookup.reply (.error error) delivered]) : LookupVisit C now m lookup m' .remove
  /-- The query has no address, and the fallback query takes its place. -/
  | again (freed net : B.Net) (result : QueryResult) (kind : DnsQueryType) (query : QueryHandle)
      (hnow : now < lookup.deadline) (hfallback : lookup.fallback = some kind)
      (hfreed : C.inventory freed = { C.inventory m.engine.net with
        queries := (C.inventory m.engine.net).queries.erase lookup.query })
      (hfresh : query ∉ (C.inventory freed).queries)
      (hinventory : C.inventory net = { C.inventory freed with
        queries := insert query (C.inventory freed).queries })
      (hengine : m'.engine = { m.engine with net := net })
      (hlog : m'.log = m.log ++ [.observed lookup.reply false,
        .queryResult lookup.reply lookup.query result,
        .query lookup.reply lookup.name kind (.ok query)]) :
      LookupVisit C now m lookup m' (.requeue { lookup with query := query, fallback := none })

lemma finishLookup_spec (C : NetContract B) {now : Instant} {m m₁ : Machine B} {lookup : Lookup}
    {result : QueryResult} {net : B.Net} (hnow : now < lookup.deadline)
    (hdns : m.engine.dns ∈ (C.inventory m.engine.net).dns)
    (hnext : m.engine.nextPort ∈ localPorts) (hlen : m.engine.flows.length < 16384)
    (hengine : m₁.engine = { m.engine with net := net })
    (hinventory : C.inventory net = { C.inventory m.engine.net with
      queries := (C.inventory m.engine.net).queries.erase lookup.query })
    (hlog : m₁.log = m.log ++ [.observed lookup.reply false,
      .queryResult lookup.reply lookup.query result]) :
    ∃ m' w, m₁.finishLookup lookup result = .ok (m', w) ∧ LookupVisit C now m lookup m' w := by
  unfold finishLookup
  rcases firstAddress result with _ | ip
  · rcases hfallback : lookup.fallback with _ | kind
    · obtain ⟨delivered, hrefuse⟩ := refuse_log m₁ lookup.reply .notFound "VPN DNS query failed"
      exact ⟨_, _, rfl, .failed net result [] ⟨.notFound, "VPN DNS query failed"⟩ delivered hnow
        hinventory hengine (.inl rfl) (by rw [hrefuse, hlog, List.append_nil])⟩
    obtain ⟨handle, m₂, hquery, ⟨net', hengine', hinventory'⟩, hfresh, hlog'⟩ :=
      @startQuery_spec B C m₁ lookup.reply lookup.name kind
        (by rw [hengine, hinventory]; exact hdns)
    rw [hengine] at hengine' hinventory' hfresh
    rw [hlog] at hlog'
    simp only [hquery, except_ok_bind]
    cases handle with
    | ok query =>
      exact ⟨m₂, _, rfl, .again net net' result kind query hnow hfallback hinventory
        (hfresh query rfl) hinventory' hengine' (hlog'.trans (List.append_assoc ..))⟩
    | error text =>
      obtain ⟨delivered, hrefuse⟩ := refuse_log m₂ lookup.reply .notFound "VPN DNS query failed"
      exact ⟨_, _, rfl, .failed net' result [.query lookup.reply lookup.name kind (.error text)]
        ⟨.notFound, "VPN DNS query failed"⟩ delivered hnow (hinventory'.trans hinventory) hengine'
        (.inr ⟨kind, text, rfl⟩) (by rw [hrefuse, hlog'])⟩
  · obtain ⟨m', hdial, hdialed⟩ := connectIp_spec C m₁ ip lookup.port lookup.reply
      lookup.deadline (by rwa [hengine]) (by rwa [hengine])
    simp only [hdial, except_ok_bind]
    exact ⟨m', _, rfl, .resolved m₁ net result ip hnow hinventory hengine hlog hdialed⟩

/-- **A visit of the lookup loop.** -/
theorem visitLookup_spec (C : NetContract B) (now : Instant) (m : Machine B) (lookup : Lookup)
    (hdns : m.engine.dns ∈ (C.inventory m.engine.net).dns)
    (hquery : lookup.query ∈ (C.inventory m.engine.net).queries)
    (hnext : m.engine.nextPort ∈ localPorts) (hlen : m.engine.flows.length < 16384) :
    ∃ m' w, visitLookup now m lookup = .ok (m', w) ∧ LookupVisit C now m lookup m' w := by
  unfold visitLookup
  have hengine₀ : (m.isClosed lookup.reply).2.engine = m.engine := rfl
  have hlog₀ : (m.isClosed lookup.reply).2.log =
      m.log ++ [.observed lookup.reply (m.isClosed lookup.reply).1] := rfl
  generalize m.isClosed lookup.reply = out at hengine₀ hlog₀
  obtain ⟨closed, m₀⟩ := out
  simp only at hengine₀ hlog₀ ⊢
  by_cases hexpired : (closed || decide (lookup.deadline ≤ now)) = true
  · rw [if_pos hexpired]
    obtain ⟨m₁, hcancel, ⟨net, hengine₁, hinventory⟩, hlog₁⟩ :=
      @cancelQuery_spec B C m₀ lookup.query (hengine₀ ▸ hdns) (hengine₀ ▸ hquery)
    rw [hengine₀] at hengine₁ hinventory
    obtain ⟨delivered, hrefuse⟩ := refuse_log m₁ lookup.reply .timedOut "VPN DNS timeout"
    rw [hcancel, except_ok_bind]
    exact ⟨_, _, rfl, .expired net closed _ delivered hinventory hengine₁
      (hrefuse.trans (by rw [hlog₁, hlog₀, List.append_assoc]; rfl))⟩
  rw [if_neg hexpired]
  obtain ⟨rfl, hnow⟩ : closed = false ∧ now < lookup.deadline := by simpa using hexpired
  obtain ⟨result, m₁, hresult, ⟨net, hengine₁, hinventory⟩, hlog₁⟩ :=
    @getQueryResult_spec B C m₀ lookup.reply lookup.query (hengine₀ ▸ hdns) (hengine₀ ▸ hquery)
  rw [hengine₀] at hengine₁ hinventory
  rw [hlog₀, List.append_assoc] at hlog₁
  simp only [hresult, except_ok_bind]
  by_cases hpending : result = .pending
  · rw [if_pos hpending]
    subst hpending
    exact ⟨_, _, rfl, .pending net hnow (by simpa using hinventory) hengine₁ hlog₁⟩
  rw [if_neg hpending]
  rw [if_neg hpending] at hinventory
  exact finishLookup_spec C hnow hdns hnext hlen hengine₁ hinventory hlog₁

/-- What one visit of the flow loop does: the flow is polled, and it stays or goes. -/
inductive FlowVisit (C : NetContract B) (now : Instant) (m : Machine B) (flow : Flow B)
    (m' : Machine B) : Verdict (Flow B) → Prop
  | kept (socket : B.Socket) (p : Polling B) (net : B.Net)
      (hpoll : flow.poll socket m.world now m.engine.idleTimeout = .ok (p, true))
      (hinventory : C.inventory net = C.inventory m.engine.net)
      (hengine : m'.engine = { m.engine with net := net })
      (hlog : m'.log = m.log ++ p.calls.map (.flow flow.request)) :
      FlowVisit C now m flow m' (.keep p.flow)
  | dropped (socket : B.Socket) (p : Polling B) (net : B.Net)
      (hpoll : flow.poll socket m.world now m.engine.idleTimeout = .ok (p, false))
      (hinventory : C.inventory net = { C.inventory m.engine.net with
        tcp := (C.inventory m.engine.net).tcp.erase flow.socket
        dns := (C.inventory m.engine.net).dns.erase flow.socket })
      (hengine : m'.engine = { m.engine with net := net })
      (hlog : m'.log = m.log ++ p.calls.map (.flow flow.request) ++
        p.flow.reply.toList.map (.dropped · .receiverClosed)) :
      FlowVisit C now m flow m' .remove

lemma dropFlow_spec (m : Machine B) (flow : Flow B) :
    (m.dropFlow flow).engine = m.engine ∧
      (m.dropFlow flow).log = m.log ++ flow.reply.toList.map (.dropped · .receiverClosed) := by
  unfold dropFlow
  cases flow.reply with
  | none => exact ⟨rfl, (List.append_nil _).symm⟩
  | some reply => exact ⟨rfl, rfl⟩

/-- **A visit of the flow loop.** -/
theorem visitFlow_spec (C : NetContract B) (now : Instant) (m : Machine B) (flow : Flow B)
    (hsocket : flow.socket ∈ (C.inventory m.engine.net).tcp)
    (hclient : flow.reply.isSome = true → flow.client.isSome = true) :
    ∃ m' w, visitFlow now m flow = .ok (m', w) ∧ FlowVisit C now m flow m' w := by
  obtain ⟨socket, hget⟩ := Option.isSome_iff_exists.mp ((C.tcpSocket _ _).mpr hsocket)
  obtain ⟨p, keep, hpoll⟩ :=
    @Polling.poll_ok B ⟨flow, socket, m.world, []⟩ now m.engine.idleTimeout hclient
  have hsame : p.flow.socket = flow.socket := (Polling.poll_step hpoll).frame.1
  have hset := C.setTcp m.engine.net flow.socket p.socket
  unfold visitFlow
  simp only [hget,
    show flow.poll socket m.world now m.engine.idleTimeout = .ok (p, keep) from hpoll,
    except_ok_bind]
  cases keep with
  | true => exact ⟨_, _, rfl, .kept socket p _ hpoll hset rfl rfl⟩
  | false =>
    have hnet : (m.afterPoll flow p).engine.net =
      B.setTcp m.engine.net flow.socket p.socket := rfl
    obtain ⟨net, hremove⟩ := Option.isSome_iff_exists.mp
      ((C.removeSocket_isSome (m.afterPoll flow p).engine.net p.flow.socket).mpr
        (by rw [hnet, hset, hsame]; exact Finset.mem_union_left _ hsocket))
    have hinventory := C.removeSocket _ _ _ hremove
    rw [hnet, hset, hsame] at hinventory
    obtain ⟨hengine, hlog⟩ := dropFlow_spec ((m.afterPoll flow p).setNet net) p.flow
    simp only [Bool.false_eq_true, if_false, removeFlow, hremove, except_ok_bind]
    exact ⟨_, _, rfl, .dropped socket p net hpoll hinventory hengine hlog⟩

/-! ## The interface -/

/-- What the interface may change: the sockets behind their handles, and the device, which hands
over packets from the front of its queue. -/
def Serviced (C : NetContract B) (m m' : Machine B) : Prop :=
  ∃ net device events, m'.engine = { m.engine with net := net, device := device } ∧
    C.inventory net = C.inventory m.engine.net ∧ m'.log = m.log ++ events ∧
    (∀ e ∈ events, e.isTransmitted = true) ∧
    m.engine.device.Polled B m.engine.net device

/-- The calls of a poll hand over a packet for each `receive`, as long as there are any. -/
lemma deviceOps_spec (ops : List DeviceOp) (m : Machine B) :
    ∃ device events, (ops.foldl deviceOp m).engine = { m.engine with device := device } ∧
      (ops.foldl deviceOp m).log = m.log ++ events ∧ (∀ e ∈ events, e.isTransmitted = true) ∧
      device.incoming = m.engine.device.incoming.drop (ops.countP (· = .receive)) ∧
      device.received = m.engine.device.received +
        min (ops.countP (· = .receive)) m.engine.device.incoming.length := by
  induction ops generalizing m with
  | nil => exact ⟨m.engine.device, [], rfl, by simp, by simp, by simp, by simp⟩
  | cons op ops ih =>
    obtain ⟨device, events, hengine, hlog, hevents, hincoming, hreceived⟩ := ih (m.deviceOp op)
    cases op with
    | receive =>
      refine ⟨device, events, hengine, hlog, hevents, ?_, ?_⟩
      · rw [List.countP_cons_of_pos (by simp), Nat.add_comm, ← List.drop_drop, List.drop_one,
          hincoming]
        simp [deviceOp]
      · rw [List.countP_cons_of_pos (by simp), hreceived]
        simp only [deviceOp, PacketDevice.receive_incoming, PacketDevice.receive_received,
          List.length_tail]
        omega
    | transmit packet =>
      refine ⟨device, .transmitted packet _ :: events, hengine,
        hlog.trans (List.append_assoc ..), ?_, ?_, ?_⟩
      · simpa [Event.isTransmitted] using hevents
      · rw [List.countP_cons_of_neg (by simp), hincoming]
        rfl
      · rw [List.countP_cons_of_neg (by simp), hreceived]
        rfl

lemma pollIface_spec (C : NetContract B) (m : Machine B) (timestamp : ℕ) :
    Serviced C m (m.pollIface timestamp) := by
  obtain ⟨device, events, hengine, hlog, hevents, hincoming, hreceived⟩ := deviceOps_spec
    (B.ifacePoll m.engine.net timestamp m.engine.device.incoming).1
    (m.setNet (B.ifacePoll m.engine.net timestamp m.engine.device.incoming).2)
  exact ⟨_, device, events, hengine,
    C.ifacePoll m.engine.net timestamp m.engine.device.incoming, hlog, hevents,
    timestamp, _, rfl, hincoming, hreceived⟩

/-! ## Inversions

The cases above leave open which net and which answer an operation ends with.  Where a result is
about these, it starts from the operations as they are written. -/

lemma startQuery_eq_ok {m m' : Machine B} {reply : Reply} {name : String} {kind : DnsQueryType}
    {handle : Except String QueryHandle} (h : m.startQuery reply name kind = .ok (handle, m')) :
    handle = (B.startQuery m.engine.net m.engine.dns name kind).1 ∧
      m' = (m.setNet (B.startQuery m.engine.net m.engine.dns name kind).2).note
        (.query reply name kind handle) := by
  obtain ⟨_, -, h⟩ := bind_eq_ok.mp h
  obtain ⟨rfl, rfl⟩ : _ = handle ∧ _ = m' := by simpa using h
  exact ⟨rfl, rfl⟩

lemma getQueryResult_eq_ok {m m' : Machine B} {reply : Reply} {query : QueryHandle}
    {result : QueryResult} (h : m.getQueryResult reply query = .ok (result, m')) :
    ∃ net, B.getQueryResult m.engine.net m.engine.dns query = some (result, net) ∧
      m' = (m.setNet net).note (.queryResult reply query result) := by
  obtain ⟨_, -, h⟩ := bind_eq_ok.mp h
  split at h
  · simp at h
  · next result' net hnet =>
    obtain ⟨rfl, rfl⟩ : result' = result ∧ _ = m' := by simpa using h
    exact ⟨net, hnet, rfl⟩

lemma cancelQuery_eq_ok {m m' : Machine B} {query : QueryHandle}
    (h : m.cancelQuery query = .ok m') :
    ∃ net, B.cancelQuery m.engine.net m.engine.dns query = some net ∧ m' = m.setNet net := by
  obtain ⟨_, -, h⟩ := bind_eq_ok.mp h
  split at h
  · simp at h
  · next net hnet => exact ⟨net, hnet, (Except.ok.inj h).symm⟩

/-- The machine once `connect_ip` has a port and has called `tcp::Socket::connect`. -/
def dialing (m : Machine B) (ip : IpAddr) (port localPort nextPort : ℕ) : Machine B :=
  ({ m with engine := { m.engine with nextPort := nextPort } } : Machine B).setNet
    (B.tcpConnect m.engine.net (newSocket B) ip port localPort).2

lemma dial_eq_ok {m m' : Machine B} {ip : IpAddr} {port : ℕ} {reply : Reply} {deadline : Instant}
    (h : m.dial ip port reply deadline = .ok m') :
    ∃ localPort nextPort,
      findPort m.engine.flows portFuel m.engine.nextPort = some (localPort, nextPort) ∧
        ((∃ text, m' = (m.dialing ip port localPort nextPort).refuse reply .other text) ∨
          ∃ socket a, (B.tcpConnect m.engine.net (newSocket B) ip port localPort).1 = .ok socket ∧
            m' = (m.dialing ip port localPort nextPort).openFlow socket ⟨a, localPort⟩ reply
              deadline) := by
  unfold dial at h
  split at h
  · simp at h
  · next localPort nextPort hfound =>
    refine ⟨localPort, nextPort, hfound, ?_⟩
    simp only at h
    split at h
    · next text _ => exact .inl ⟨text, (Except.ok.inj h).symm⟩
    · next socket hsocket =>
      obtain ⟨a, -, h⟩ := bind_eq_ok.mp h
      exact .inr ⟨socket, a, hsocket, (Except.ok.inj h).symm⟩

/-- A visit of the lookup loop, as it is written. -/
inductive Visited (now : Instant) (m : Machine B) (lookup : Lookup) :
    Machine B → Verdict Lookup → Prop
  | expired (s : Machine B)
      (hlate : (m.isClosed lookup.reply).1 = true ∨ lookup.deadline ≤ now)
      (hcancel : (m.isClosed lookup.reply).2.cancelQuery lookup.query = .ok s) :
      Visited now m lookup (s.refuse lookup.reply .timedOut "VPN DNS timeout") .remove
  | pending (s : Machine B)
      (hresult : (m.isClosed lookup.reply).2.getQueryResult lookup.reply lookup.query =
        .ok (.pending, s)) : Visited now m lookup s (.keep lookup)
  | resolved (s s' : Machine B) (result : QueryResult) (ip : IpAddr)
      (hresult : (m.isClosed lookup.reply).2.getQueryResult lookup.reply lookup.query =
        .ok (result, s)) (hended : result ≠ .pending) (haddress : firstAddress result = some ip)
      (hdial : s.connectIp ip lookup.port lookup.reply lookup.deadline = .ok s') :
      Visited now m lookup s' .remove
  | exhausted (s : Machine B) (result : QueryResult)
      (hresult : (m.isClosed lookup.reply).2.getQueryResult lookup.reply lookup.query =
        .ok (result, s)) (hended : result ≠ .pending) (hnone : firstAddress result = none)
      (hfallback : lookup.fallback = none) :
      Visited now m lookup (s.refuse lookup.reply .notFound "VPN DNS query failed") .remove
  | again (s s' : Machine B) (result : QueryResult) (kind : DnsQueryType) (query : QueryHandle)
      (hresult : (m.isClosed lookup.reply).2.getQueryResult lookup.reply lookup.query =
        .ok (result, s)) (hended : result ≠ .pending) (hnone : firstAddress result = none)
      (hfallback : lookup.fallback = some kind)
      (hquery : s.startQuery lookup.reply lookup.name kind = .ok (.ok query, s')) :
      Visited now m lookup s' (.requeue { lookup with query := query, fallback := none })
  | unstartable (s s' : Machine B) (result : QueryResult) (kind : DnsQueryType) (text : String)
      (hresult : (m.isClosed lookup.reply).2.getQueryResult lookup.reply lookup.query =
        .ok (result, s)) (hended : result ≠ .pending) (hnone : firstAddress result = none)
      (hfallback : lookup.fallback = some kind)
      (hquery : s.startQuery lookup.reply lookup.name kind = .ok (.error text, s')) :
      Visited now m lookup (s'.refuse lookup.reply .notFound "VPN DNS query failed") .remove

lemma visitLookup_eq_ok {now : Instant} {m m' : Machine B} {lookup : Lookup} {w : Verdict Lookup}
    (h : visitLookup now m lookup = .ok (m', w)) : Visited now m lookup m' w := by
  unfold visitLookup at h
  simp only at h
  split_ifs at h with hexpired
  · obtain ⟨s, hcancel, h⟩ := bind_eq_ok.mp h
    obtain ⟨rfl, rfl⟩ : _ = m' ∧ .remove = w := by simpa using h
    exact .expired s (by simpa using hexpired) hcancel
  obtain ⟨⟨result, s⟩, hresult, h⟩ := bind_eq_ok.mp h
  simp only at h
  split_ifs at h with hpending
  · obtain ⟨rfl, rfl⟩ : s = m' ∧ .keep lookup = w := by simpa using h
    exact .pending s (hpending ▸ hresult)
  unfold finishLookup at h
  rcases haddress : firstAddress result with _ | ip
  · rcases hfallback : lookup.fallback with _ | kind <;> simp only [haddress, hfallback] at h
    · obtain ⟨rfl, rfl⟩ : _ = m' ∧ .remove = w := by simpa using h
      exact .exhausted s result hresult hpending haddress hfallback
    · obtain ⟨⟨handle, s'⟩, hquery, h⟩ := bind_eq_ok.mp h
      cases handle with
      | ok query =>
        obtain ⟨rfl, rfl⟩ : s' = m' ∧ .requeue _ = w := by simpa using h
        exact .again s s' result kind query hresult hpending haddress hfallback hquery
      | error text =>
        obtain ⟨rfl, rfl⟩ : _ = m' ∧ .remove = w := by simpa using h
        exact .unstartable s s' result kind text hresult hpending haddress hfallback hquery
  · simp only [haddress] at h
    obtain ⟨s', hdial, h⟩ := bind_eq_ok.mp h
    obtain ⟨rfl, rfl⟩ : s' = m' ∧ .remove = w := by simpa using h
    exact .resolved s s' result ip hresult hpending haddress hdial

lemma visitFlow_eq_ok {now : Instant} {m m' : Machine B} {flow : Flow B} {w : Verdict (Flow B)}
    (h : visitFlow now m flow = .ok (m', w)) :
    ∃ socket p keep, B.tcpSocket m.engine.net flow.socket = some socket ∧
      flow.poll socket m.world now m.engine.idleTimeout = .ok (p, keep) ∧
        ((keep = true ∧ m' = m.afterPoll flow p ∧ w = .keep p.flow) ∨
          ∃ net, keep = false ∧
            B.removeSocket (m.afterPoll flow p).engine.net p.flow.socket = some net ∧
            m' = ((m.afterPoll flow p).setNet net).dropFlow p.flow ∧ w = .remove) := by
  unfold visitFlow at h
  split at h
  · simp at h
  next socket hsocket =>
    obtain ⟨⟨p, keep⟩, hpoll, h⟩ := bind_eq_ok.mp h
    refine ⟨socket, p, keep, hsocket, hpoll, ?_⟩
    cases keep with
    | true =>
      obtain ⟨rfl, rfl⟩ : m.afterPoll flow p = m' ∧ .keep p.flow = w := by simpa using h
      exact .inl ⟨rfl, rfl, rfl⟩
    | false =>
      obtain ⟨s, hremove, h⟩ := bind_eq_ok.mp h
      obtain ⟨rfl, rfl⟩ : s = m' ∧ .remove = w := by simpa using h
      unfold removeFlow at hremove
      split at hremove
      · simp at hremove
      · next net hnet => exact .inr ⟨net, rfl, hnet, (Except.ok.inj hremove).symm, rfl⟩

/-- The machine once `connect` has noted the deadline of a request. -/
def accepting (m : Machine B) (reply : Reply) : Machine B :=
  let (t, m) := (m.isClosed reply).2.now
  m.note (.accepted reply (t + m.engine.connectTimeout))

@[simp] lemma accepting_engine (m : Machine B) (reply : Reply) :
    (m.accepting reply).engine = m.engine := rfl

lemma accepting_log (m : Machine B) (reply : Reply) : ∃ closed deadline,
    (m.accepting reply).log = m.log ++ [.observed reply closed, .accepted reply deadline] :=
  ⟨_, _, List.append_assoc ..⟩

/-- `connect`, as it is written. -/
lemma connect_eq_ok {m m' : Machine B} {target : Target} {port : ℕ} {reply : Reply}
    (h : m.connect target port reply = .ok m') :
    m' = (m.isClosed reply).2.note (.dropped reply .receiverClosed) ∨
      m' = (m.isClosed reply).2.refuse reply .other "connection limit reached" ∨
      ∃ deadline, (∃ ip, target = .ip ip ∧
          (m.accepting reply).connectIp ip port reply deadline = .ok m') ∨
        ∃ name, target = .domain name ∧
          (m.accepting reply).lookUp name port reply deadline = .ok m' := by
  unfold connect at h
  simp only at h
  split_ifs at h
  · exact .inl (Except.ok.inj h).symm
  · exact .inr (.inl (Except.ok.inj h).symm)
  · cases target with
    | ip ip => exact .inr (.inr ⟨_, .inl ⟨ip, rfl, h⟩⟩)
    | domain name => exact .inr (.inr ⟨_, .inr ⟨name, rfl, h⟩⟩)

/-- `look_up`, as it is written: there is no server, a query is started, or it cannot be. -/
lemma lookUp_eq_ok {m m' : Machine B} {name : String} {port : ℕ} {reply : Reply}
    {deadline : Instant} (h : m.lookUp name port reply deadline = .ok m') :
    (m.engine.settings.dns.isEmpty = true ∧
        m' = m.refuse reply .notFound "VPN supplied no DNS; use --dns or an IP address") ∨
      ¬ m.engine.settings.dns.isEmpty = true ∧ ∃ handle s,
        m.startQuery reply name (queryType m.engine.settings) = .ok (handle, s) ∧
          ((∃ query, handle = .ok query ∧ m' = s.pushLookup
              ⟨query, name, fallbackType m.engine.settings, port, reply, deadline⟩) ∨
            ∃ text, handle = .error text ∧ m' = s.refuse reply .invalidInput text) := by
  unfold lookUp at h
  split_ifs at h with hempty
  · exact .inl ⟨hempty, (Except.ok.inj h).symm⟩
  · obtain ⟨⟨handle, s⟩, hquery, h⟩ := bind_eq_ok.mp h
    refine .inr ⟨hempty, handle, s, hquery, ?_⟩
    cases handle with
    | ok query => exact .inl ⟨query, rfl, (Except.ok.inj h).symm⟩
    | error text => exact .inr ⟨text, rfl, (Except.ok.inj h).symm⟩

/-- A query that is started leaves the lookups alone. -/
lemma startQuery_lookups {m m' : Machine B} {reply : Reply} {name : String} {kind : DnsQueryType}
    {handle : Except String QueryHandle} (h : m.startQuery reply name kind = .ok (handle, m')) :
    m'.engine.lookups = m.engine.lookups := by
  obtain ⟨-, rfl⟩ := startQuery_eq_ok h
  rfl

/-- What the device writes: an entry for each packet it is given. -/
lemma deviceOps_log (ops : List DeviceOp) (m : Machine B) :
    ∃ events, (ops.foldl deviceOp m).log = m.log ++ events ∧
      (∀ e ∈ events, ∃ packet taken, e = .transmitted packet taken ∧ .transmit packet ∈ ops) ∧
      ∀ packet, .transmit packet ∈ ops → ∃ taken, .transmitted packet taken ∈ events := by
  induction ops generalizing m with
  | nil => exact ⟨[], by simp, by simp, by simp⟩
  | cons op ops ih =>
    obtain ⟨events, hlog, hevents, hpackets⟩ := ih (m.deviceOp op)
    have hlater : ∀ e ∈ events, ∃ packet taken, e = .transmitted packet taken ∧
        .transmit packet ∈ op :: ops := by
      intro e he
      obtain ⟨packet, taken, heq, hmem⟩ := hevents e he
      exact ⟨packet, taken, heq, List.mem_cons_of_mem _ hmem⟩
    cases op with
    | receive =>
      refine ⟨events, hlog, hlater, fun packet hpacket => ?_⟩
      exact hpackets packet (by simpa using hpacket)
    | transmit packet =>
      obtain ⟨taken, hnote⟩ : ∃ taken, (m.deviceOp (.transmit packet)).log =
        m.log ++ [.transmitted packet taken] := ⟨_, rfl⟩
      refine ⟨.transmitted packet taken :: events, ?_, ?_, ?_⟩
      · rw [List.foldl_cons, hlog, hnote, List.append_assoc]
        rfl
      · exact List.forall_mem_cons.mpr ⟨⟨packet, taken, rfl, List.mem_cons_self ..⟩, hlater⟩
      · intro packet' hpacket'
        rcases List.mem_cons.mp hpacket' with heq | hmem
        · rw [DeviceOp.transmit.inj heq]
          exact ⟨taken, List.mem_cons_self ..⟩
        · obtain ⟨taken', htaken⟩ := hpackets packet' hmem
          exact ⟨taken', List.mem_cons_of_mem _ htaken⟩

/-- A poll of the interface changes the sockets and the device. -/
lemma pollIface_engine (m : Machine B) (t : ℕ) : ∃ device, (m.pollIface t).engine =
    { m.engine with
      net := (B.ifacePoll m.engine.net t m.engine.device.incoming).2, device := device } := by
  obtain ⟨device, -, hengine, -⟩ := deviceOps_spec
    (B.ifacePoll m.engine.net t m.engine.device.incoming).1
    (m.setNet (B.ifacePoll m.engine.net t m.engine.device.incoming).2)
  exact ⟨device, hengine⟩

/-- It writes an entry for each packet. -/
lemma pollIface_log (m : Machine B) (t : ℕ) :
    ∃ events, (m.pollIface t).log = m.log ++ events ∧
      (∀ e ∈ events, ∃ packet taken, e = .transmitted packet taken ∧
        .transmit packet ∈ (B.ifacePoll m.engine.net t m.engine.device.incoming).1) ∧
      ∀ packet, .transmit packet ∈ (B.ifacePoll m.engine.net t m.engine.device.incoming).1 →
        ∃ taken, .transmitted packet taken ∈ events :=
  deviceOps_log (B.ifacePoll m.engine.net t m.engine.device.incoming).1
    (m.setNet (B.ifacePoll m.engine.net t m.engine.device.incoming).2)

end Machine

end Ovpnlane
