import Ovpnlane.Properties.DnsFailure
import Ovpnlane.Construction.Netstack.Resets

/-!
# Aborted connections

Every call of `abort` in `Flow::poll` ends the poll with `false` (`Polling.PollStep.of_abort`), so
the flow leaves the loop of `Engine::step` and its socket leaves the socket set before the interface
is polled again.  The reset segment that `abort` asks for is sent by a poll that finds the socket,
and there is none: `abort_never_resets` says so for every abort of every step of every engine.

The argument follows local ports.  The sockets in the set are those of the flows, and a socket's
connection has the local port of its flow (`Machine.Tied`).  Local ports are distinct, so no flow
that is left has the connection of one that was aborted (`Machine.Stranded`).
-/

namespace Ovpnlane

variable {B : Backend}

/-- An entry about a flow. -/
def Event.isFlow : Event B → Bool
  | .flow .. => true
  | _ => false

/-! ## The aborts of a poll -/

namespace Polling

variable {S : SocketContract B} {R : ResetContract B} {p q r p' : Polling B} {now : Instant}

/-- What follows `p` up to `q` is about one connection, and an abort leaves its socket closed. -/
structure Bound (R : ResetContract B) (p q : Polling B) : Prop where
  connection_eq : R.connection q.socket = R.connection p.socket
  closed : B.state p.socket = .closed → B.state q.socket = .closed
  calls_eq : ∃ cs, q.calls = p.calls ++ cs ∧ ∀ s, .abort s ∈ cs →
    R.connection s = R.connection p.socket ∧ B.state q.socket = .closed

lemma Bound.refl (p : Polling B) : Bound R p p := ⟨rfl, id, [], by simp, by simp⟩

lemma Bound.trans (h : Bound R p q) (h' : Bound R q r) : Bound R p r := by
  obtain ⟨cs, hcs, haborts⟩ := h.calls_eq
  obtain ⟨ds, hds, haborts'⟩ := h'.calls_eq
  refine ⟨h'.connection_eq.trans h.connection_eq, fun hclosed => h'.closed (h.closed hclosed),
    cs ++ ds, by rw [hds, hcs, List.append_assoc], fun s hs => ?_⟩
  rcases List.mem_append.mp hs with hs | hs
  · obtain ⟨hconnection, hclosed⟩ := haborts s hs
    exact ⟨hconnection, h'.closed hclosed⟩
  · obtain ⟨hconnection, hclosed⟩ := haborts' s hs
    exact ⟨hconnection.trans h.connection_eq, hclosed⟩

/-- The socket is left alone, or used for a transfer. -/
lemma Bound.of_calls (cs : List (FlowCall B)) (hcalls : q.calls = p.calls ++ cs)
    (haborts : ∀ s, .abort s ∉ cs) (hconnection : R.connection q.socket = R.connection p.socket)
    (hclosed : B.state p.socket = .closed → B.state q.socket = .closed) : Bound R p q :=
  ⟨hconnection, hclosed, cs, hcalls, fun s hs => absurd hs (haborts s)⟩

lemma abort_bound (p : Polling B) : Bound R p p.abort :=
  ⟨R.abort p.socket, fun _ => R.state_abort p.socket, [.abort p.socket], rfl, fun s hs => by
    have hs : s = p.socket := by simpa using hs
    exact ⟨by rw [hs], R.state_abort p.socket⟩⟩

lemma isClosed_bound (reply : Reply) : Bound R p (p.isClosed reply).2 :=
  .of_calls [_] rfl (by simp) rfl id

lemma sendReply_bound {answer : B.Answer} {delivered : Bool}
    (h : p.sendReply answer = .ok (delivered, q)) : Bound R p q := by
  obtain ⟨reply, -, -, rfl⟩ := sendReply_eq_ok h
  exact .of_calls [_] rfl (by simp) rfl id

lemma Move.bound (S : SocketContract B) (h : Move now p q) : Bound R p q := by
  cases h with
  | touch => exact .of_calls [] (List.append_nil _).symm (by simp) rfl id
  | abort => exact abort_bound p
  | recv data =>
    exact .of_calls [_] rfl (by simp) (R.dequeue _ _) fun h => (S.state_dequeue _ _).trans h
  | recvError => exact .of_calls [_] rfl (by simp) rfl id
  | shutdown =>
    split_ifs <;> exact .of_calls [_] rfl (by simp) rfl id
  | send room =>
    exact .of_calls [_] rfl (by simp) (R.enqueue _ _) fun h => (S.state_enqueue _ _).trans h
  | finish room =>
    refine .of_calls [_, _] (List.append_assoc ..) (by simp)
      ((R.close _).trans (R.enqueue _ _)) fun h => ?_
    apply (S.state_close _).trans
    rw [show B.state (p.send room).2.socket = .closed from (S.state_enqueue _ _).trans h]
    rfl
  | sendError => exact .of_calls [_] rfl (by simp) rfl id

lemma Moves.bound (S : SocketContract B) (h : Moves now p q) : Bound R p q := by
  induction h with
  | refl => exact .refl p
  | tail _ hmove ih => exact ih.trans (hmove.bound S)

lemma ReplyStep.bound {result : Option Bool} (h : ReplyStep p now p' result) : Bound R p p' := by
  have hanswer : ∀ {reply client delivered q}, (p.isClosed reply).2.takeClient.sendReply
      (.ok ⟨client, p.flow.localAddr⟩) = .ok (delivered, q) → Bound R p q := by
    intro reply client delivered q hsend
    have htake : Bound R (p.isClosed reply).2 (p.isClosed reply).2.takeClient :=
      .of_calls [] (List.append_nil _).symm (by simp) rfl id
    exact ((isClosed_bound reply).trans htake).trans (sendReply_bound hsend)
  cases h with
  | idle => exact .refl p
  | gone reply => exact (isClosed_bound reply).trans (abort_bound _)
  | failed reply kind delivered q _ _ hsend =>
    exact ((isClosed_bound reply).trans (sendReply_bound hsend)).trans (abort_bound q)
  | answered reply client q _ _ _ _ hsend =>
    exact (hanswer hsend).trans (.of_calls [] (List.append_nil _).symm (by simp) rfl id)
  | refused reply client q _ _ _ _ hsend => exact (hanswer hsend).trans (abort_bound q)
  | waits reply => exact isClosed_bound reply

lemma PollStep.bound (S : SocketContract B) {keep : Bool} (h : PollStep p now p' keep) :
    Bound R p p' := by
  rcases h.moves with hq | ⟨q, hq, hmoves⟩
  · exact hq.bound
  · exact hq.bound.trans (Moves.bound S hmoves)

/-- **An abort ends the poll**, and is of the flow's connection. -/
lemma PollStep.of_abort (S : SocketContract B) {keep : Bool} {s : B.Socket}
    (h : PollStep p now p' keep) (hcalls : p.calls = []) (hs : .abort s ∈ p'.calls) :
    keep = false ∧ R.connection s = R.connection p.socket := by
  obtain ⟨cs, hcs, haborts⟩ := (h.bound (R := R) S).calls_eq
  rw [hcalls, List.nil_append] at hcs
  rw [hcs] at hs
  obtain ⟨hconnection, hclosed⟩ := haborts s hs
  refine ⟨?_, hconnection⟩
  cases h with
  | reply hreply =>
    cases hreply with
    | gone | failed | refused => rfl
    | waits reply =>
      have hnone : (p.isClosed reply).2.calls = p.calls ++ [.isClosed reply (p.isClosed reply).1] :=
        rfl
      rw [← hcs, hnone, hcalls] at hs
      simp at hs
  | aborted => rfl
  | moved => simp [hclosed]

end Polling

/-! ## The sockets of an engine -/

namespace Machine

variable {C : NetContract B} {S : SocketContract B} {R : ResetContract B} {m m' s : Machine B}
  {flows flows' : List (Flow B)} {now : Instant} {reply : Reply}

/-- A socket's connection has the local port of its flow. -/
def Tied (R : ResetContract B) (net : B.Net) (flows : List (Flow B)) : Prop :=
  ∀ f ∈ flows, ∀ socket c, B.tcpSocket net f.socket = some socket →
    R.connection socket = some c → c.localPort = f.localAddr.port

lemma Tied.frame {net net' : B.Net} (h : Tied R net flows) (hsub : flows' ⊆ flows)
    (hsame : ∀ f ∈ flows', B.tcpSocket net' f.socket = B.tcpSocket net f.socket) :
    Tied R net' flows' := by
  intro f hf socket c hsocket hc
  exact h f (hsub hf) socket c (hsame f hf ▸ hsocket) hc

/-- A poll of the interface. -/
lemma Tied.poll {net : B.Net} (h : Tied R net flows) (t : ℕ) (packets : List Packet) :
    Tied R (B.ifacePoll net t packets).2 flows := by
  intro f hf socket c hsocket hc
  obtain ⟨before, hbefore, hlost | hkept⟩ := R.ifacePoll net t packets f.socket socket hsocket
  · rw [hlost] at hc
    simp at hc
  · exact h f hf before c hbefore (hkept ▸ hc)

/-- The TCP sockets and the flows stay, and so does the device. -/
structure Unplugged (m m' : Machine B) : Prop where
  flows_eq : m'.engine.flows = m.engine.flows
  device_eq : m'.engine.device = m.engine.device
  sockets_eq : ∀ h, B.tcpSocket m'.engine.net h = B.tcpSocket m.engine.net h

lemma Unplugged.trans {m₁ m₂ : Machine B} (h : Unplugged m m₁) (h' : Unplugged m₁ m₂) :
    Unplugged m m₂ :=
  ⟨h'.flows_eq.trans h.flows_eq, h'.device_eq.trans h.device_eq,
    fun k => (h'.sockets_eq k).trans (h.sockets_eq k)⟩

lemma Unplugged.note (e : Event B) : Unplugged m (m.note e) := ⟨rfl, rfl, fun _ => rfl⟩

lemma Unplugged.isClosed (reply : Reply) : Unplugged m (m.isClosed reply).2 :=
  ⟨rfl, rfl, fun _ => rfl⟩

lemma Unplugged.pushLookup (lookup : Lookup) : Unplugged m (m.pushLookup lookup) :=
  ⟨rfl, rfl, fun _ => rfl⟩

lemma Unplugged.refuse (reply : Reply) (kind : ErrorKind) (message : String) :
    Unplugged m (m.refuse reply kind message) := ⟨rfl, rfl, fun _ => rfl⟩

lemma Unplugged.tied (h : Unplugged m m') (ht : Tied R m.engine.net m.engine.flows) :
    Tied R m'.engine.net m'.engine.flows := by
  rw [h.flows_eq]
  exact ht.frame (List.Subset.refl _) fun f _ => h.sockets_eq f.socket

/-- What the calls that concern no flow leave alone. -/
structure Apart (R : ResetContract B) (m m' : Machine B) : Prop where
  device_eq : m'.engine.device = m.engine.device
  tied : Tied R m.engine.net m.engine.flows → Tied R m'.engine.net m'.engine.flows

lemma Unplugged.apart (h : Unplugged m m') : Apart R m m' := ⟨h.device_eq, h.tied⟩

lemma Apart.trans {m₁ m₂ : Machine B} (h : Apart R m m₁) (h' : Apart R m₁ m₂) : Apart R m m₂ :=
  ⟨h'.device_eq.trans h.device_eq, fun ht => h'.tied (h.tied ht)⟩

/-- The new flow has the port its socket is connected from. -/
lemma openFlow_apart (C : NetContract B) {socket : B.Socket} {localAddr : SocketAddr}
    {deadline : Instant} (hflows : ∀ f ∈ m.engine.flows, f.socket ∈ (C.inventory m.engine.net).tcp)
    (hport : ∀ c, R.connection socket = some c → c.localPort = localAddr.port) :
    Apart R m (m.openFlow socket localAddr reply deadline) := by
  refine ⟨rfl, fun ht => ?_⟩
  intro f hf s c hs hc
  change f ∈ m.engine.flows ++ [_] at hf
  change B.tcpSocket (B.addTcp m.engine.net socket).2 f.socket = some s at hs
  rcases List.mem_append.mp hf with hf | hf
  · have hne : f.socket ≠ (B.addTcp m.engine.net socket).1 := fun heq =>
      C.addTcp_fresh m.engine.net socket (Finset.mem_union_left _ (heq ▸ hflows f hf))
    rw [R.addTcp_of_ne _ _ _ hne] at hs
    exact ht f hf s c hs hc
  · rw [List.mem_singleton.mp hf] at hs ⊢
    rw [R.addTcp] at hs
    rw [← Option.some.inj hs] at hc
    exact hport c hc

lemma dial_apart {ip : IpAddr} {port : ℕ} {deadline : Instant}
    (hnext : m.engine.nextPort ∈ localPorts)
    (hflows : ∀ f ∈ m.engine.flows, f.socket ∈ (C.inventory m.engine.net).tcp)
    (h : m.dial ip port reply deadline = .ok m') : Apart R m m' := by
  obtain ⟨localPort, nextPort, hfound, hcases⟩ := dial_eq_ok h
  obtain ⟨hport, -, -⟩ := findPort_eq_some hnext hfound
  rw [localPorts, Finset.mem_Icc] at hport
  have hdialing : Unplugged m (m.dialing ip port localPort nextPort) :=
    ⟨rfl, rfl, R.tcpConnect_socket m.engine.net (newSocket B) ip port localPort⟩
  rcases hcases with ⟨text, rfl⟩ | ⟨socket, a, hsocket, rfl⟩
  · exact (hdialing.trans (.refuse ..)).apart
  · refine hdialing.apart.trans (openFlow_apart C ?_ fun c hc => ?_)
    · intro f hf
      show f.socket ∈ (C.inventory (B.tcpConnect m.engine.net _ ip port localPort).2).tcp
      rw [C.tcpConnect]
      exact hflows f hf
    · have hbound : localPort < 65536 := by omega
      exact R.tcpConnect _ _ _ _ _ _ c hbound hsocket hc

lemma connectIp_apart {ip : IpAddr} {port : ℕ} {deadline : Instant}
    (hnext : m.engine.nextPort ∈ localPorts)
    (hflows : ∀ f ∈ m.engine.flows, f.socket ∈ (C.inventory m.engine.net).tcp)
    (h : m.connectIp ip port reply deadline = .ok m') : Apart R m m' := by
  have hnote : Unplugged m (m.note (.connectIp reply ip port)) := .note _
  unfold connectIp at h
  simp only at h
  split_ifs at h
  · obtain rfl := Except.ok.inj h
    exact (hnote.trans (.refuse ..)).apart
  · obtain rfl := Except.ok.inj h
    exact (hnote.trans (.refuse ..)).apart
  · exact hnote.apart.trans (dial_apart (C := C) hnext hflows h)

lemma startQuery_unplugged (R : ResetContract B) {name : String} {kind : DnsQueryType}
    {handle : Except String QueryHandle} (h : m.startQuery reply name kind = .ok (handle, m')) :
    Unplugged m m' := by
  obtain ⟨-, rfl⟩ := startQuery_eq_ok h
  exact ⟨rfl, rfl, R.startQuery m.engine.net m.engine.dns name kind⟩

lemma getQueryResult_unplugged (R : ResetContract B) {query : QueryHandle} {result : QueryResult}
    (h : (m.isClosed reply).2.getQueryResult reply query = .ok (result, m')) : Unplugged m m' := by
  obtain ⟨net, hget, rfl⟩ := getQueryResult_eq_ok h
  exact ⟨rfl, rfl, fun k => R.getQueryResult _ _ _ _ _ k hget⟩

/-- A visit of a lookup. -/
lemma visitLookup_apart {lookup : Lookup} {w : Verdict Lookup} {lookups : List Lookup}
    (hholds : m.engine.Holds C m.engine.flows lookups)
    (h : visitLookup now m lookup = .ok (m', w)) : Apart R m m' := by
  have hflows : ∀ f ∈ m.engine.flows, f.socket ∈ (C.inventory m.engine.net).tcp := by
    intro f hf
    rw [hholds.tcp, List.mem_toFinset]
    exact List.mem_map_of_mem hf
  cases visitLookup_eq_ok h with
  | expired s hlate hcancel =>
    obtain ⟨net, hfree, rfl⟩ := cancelQuery_eq_ok hcancel
    exact Unplugged.apart ⟨rfl, rfl, fun k => R.cancelQuery _ _ _ _ k hfree⟩
  | pending s hresult => exact (getQueryResult_unplugged R hresult).apart
  | resolved s _ result ip hresult hne haddress hdial =>
    obtain ⟨net, hget, rfl⟩ := getQueryResult_eq_ok hresult
    have hinventory := C.getQueryResult _ _ _ _ _ hget
    rw [if_neg hne] at hinventory
    refine (getQueryResult_unplugged R hresult).apart.trans
      (connectIp_apart (C := C) hholds.next ?_ hdial)
    intro f hf
    show f.socket ∈ (C.inventory net).tcp
    rw [hinventory]
    exact hflows f hf
  | exhausted s result hresult =>
    exact ((getQueryResult_unplugged R hresult).trans (.refuse ..)).apart
  | again s _ result kind query hresult _ _ _ hquery =>
    exact ((getQueryResult_unplugged R hresult).trans (startQuery_unplugged R hquery)).apart
  | unstartable s s' result kind text hresult _ _ _ hquery =>
    have hstarted := (getQueryResult_unplugged R hresult).trans (startQuery_unplugged R hquery)
    exact (hstarted.trans (.refuse ..)).apart

/-- A visit of a flow. -/
lemma visitFlow_tied (S : SocketContract B) {flow : Flow B} {w : Verdict (Flow B)}
    {v r : List (Flow B)} {lookups : List Lookup}
    (hholds : m.engine.Holds C (v ++ flow :: r) lookups)
    (ht : Tied R m.engine.net (v ++ flow :: r)) (h : visitFlow now m flow = .ok (m', w)) :
    w.After (fun v r => Tied R m'.engine.net (v ++ r)) v r := by
  obtain ⟨socket, p, keep, hsocket, hpoll, hcases⟩ := visitFlow_eq_ok h
  have hstep := Polling.poll_step hpoll
  have hne : ∀ f ∈ v ++ r, f.socket ≠ flow.socket := key_ne_of_nodup hholds.sockets
  have hfirst : Tied R m.engine.net (flow :: (v ++ r)) :=
    ht.frame (fun f hf => List.perm_middle.mem_iff.mpr hf) fun _ _ => rfl
  have hrest : Tied R (m.afterPoll flow p).engine.net (v ++ r) := by
    refine hfirst.frame (List.subset_cons_self _ _) fun f hf => ?_
    exact R.setTcp_of_ne m.engine.net flow.socket p.socket f.socket (hne f hf)
  refine Verdict.after_of_rest (J := fun l => Tied R m'.engine.net l)
    (fun _ _ hl h => h.frame (fun f hf => hl.mem_iff.mpr hf) fun _ _ => rfl) ?_
  rcases hcases with ⟨-, rfl, rfl⟩ | ⟨net, -, hremove, rfl, rfl⟩
  · intro f hf s c hs hc
    rcases List.mem_cons.mp hf with rfl | hf
    · rw [hstep.frame.1] at hs
      rw [hstep.frame.2.1]
      have hset := R.setTcp m.engine.net flow.socket p.socket (by rw [hsocket]; rfl)
      obtain rfl : p.socket = s := Option.some.inj (hset.symm.trans hs)
      rw [(hstep.bound (R := R) S).connection_eq] at hc
      exact hfirst flow (List.mem_cons_self ..) socket c hsocket hc
    · exact hrest f hf s c hs hc
  · rw [(dropFlow_spec _ p.flow).1]
    refine hrest.frame (List.Subset.refl _) fun f hf => ?_
    exact R.removeSocket_of_ne _ _ _ f.socket hremove (by rw [hstep.frame.1]; exact hne f hf)

/-! ## A step -/

/-- No packet waits after a poll of the interface. -/
lemma pollIface_incoming (R : ResetContract B) (m : Machine B) (t : ℕ) :
    (m.pollIface t).engine.device.incoming = [] := by
  obtain ⟨device, -, hengine, -, -, hincoming, -⟩ := deviceOps_spec
    (B.ifacePoll m.engine.net t m.engine.device.incoming).1
    (m.setNet (B.ifacePoll m.engine.net t m.engine.device.incoming).2)
  have hdevice : (m.pollIface t).engine.device = device := congrArg Engine.device hengine
  rw [hdevice, hincoming]
  exact List.drop_eq_nil_of_le (R.ifacePoll_receive m.engine.net t m.engine.device.incoming)

lemma LookupVisit.flowless {lookup : Lookup} {w : Verdict Lookup}
    (h : LookupVisit C now m lookup m' w) :
    ∃ es, m'.log = m.log ++ es ∧ ∀ e ∈ es, e.isFlow = false := by
  cases h with
  | expired _ _ _ _ _ _ hlog | pending _ _ _ _ hlog => exact ⟨_, hlog, by simp [Event.isFlow]⟩
  | resolved _ _ _ _ _ _ _ hlog hdial =>
    cases hdial with
    | refused _ _ _ _ _ _ _ hlog' | opened _ _ _ _ _ _ _ _ _ _ _ _ _ _ hlog' =>
      exact ⟨_, by rw [hlog', hlog, List.append_assoc], by simp [Event.isFlow]⟩
  | failed _ _ _ _ _ _ _ _ hevents hlog =>
    refine ⟨_, by rw [hlog, List.append_assoc, List.append_assoc], ?_⟩
    rcases hevents with rfl | ⟨_, _, rfl⟩ <;> simp [Event.isFlow]
  | again _ _ _ _ _ _ _ _ _ _ _ hlog => exact ⟨_, hlog, by simp [Event.isFlow]⟩

/-- Since `m`, flows were only polled after the last packet was handed to the sink, and none that is
left has the port of a connection that was aborted. -/
structure Stranded (R : ResetContract B) (m s : Machine B) (flows : List (Flow B)) : Prop where
  tied : Tied R s.engine.net flows
  idle : s.engine.device.incoming = []
  log_eq : ∃ pre es, s.log = m.log ++ pre ++ es ∧ (∀ e ∈ pre, e.isFlow = false) ∧
    (∀ e ∈ es, e.isTransmitted = false) ∧ ∀ request socket c,
      .flow request (.abort socket) ∈ es → R.connection socket = some c →
        ∀ f ∈ flows, f.localAddr.port ≠ c.localPort

/-- The visit of a flow. -/
lemma Stranded.visit (S : SocketContract B) {flow : Flow B} {w : Verdict (Flow B)}
    {v r : List (Flow B)} {lookups : List Lookup} (hs : m.Stranded R s (v ++ flow :: r))
    (hholds : s.engine.Holds C (v ++ flow :: r) lookups)
    (h : visitFlow now s flow = .ok (m', w)) :
    w.After (fun v r => m.Stranded R m' (v ++ r)) v r := by
  have htied := visitFlow_tied S hholds hs.tied h
  obtain ⟨socket, p, keep, hsocket, hpoll, hcases⟩ := visitFlow_eq_ok h
  have hstep := Polling.poll_step hpoll
  obtain ⟨pre, es, hlog, hpre, hes, haborts⟩ := hs.log_eq
  have hsilent : ∀ e ∈ es ++ p.calls.map (Event.flow flow.request), e.isTransmitted = false := by
    intro e he
    rcases List.mem_append.mp he with he | he
    · exact hes e he
    · obtain ⟨_, -, rfl⟩ := List.mem_map.mp he
      rfl
  rcases hcases with ⟨rfl, rfl, rfl⟩ | ⟨net, rfl, hremove, rfl, rfl⟩
  · refine ⟨htied, hs.idle, pre, es ++ p.calls.map (.flow flow.request), ?_, hpre, hsilent, ?_⟩
    · rw [afterPoll, hlog, List.append_assoc]
    · intro request a c ha hc f hf
      rcases List.mem_append.mp ha with ha | ha
      · rw [List.append_assoc, List.singleton_append] at hf
        rcases List.mem_cons.mp (List.perm_middle.mem_iff.mp hf) with rfl | hf
        · rw [hstep.frame.2.1]
          exact haborts request a c ha hc flow (by simp)
        · exact haborts request a c ha hc f
            (List.perm_middle.mem_iff.mpr (List.mem_cons_of_mem _ hf))
      · obtain ⟨call, hcall, heq⟩ := List.mem_map.mp ha
        obtain ⟨-, rfl⟩ : flow.request = request ∧ call = .abort a := by simpa using heq
        exact absurd (hstep.of_abort (R := R) S rfl hcall).1 (by simp)
  · intro r' hr
    obtain ⟨hengine, hdropped⟩ := dropFlow_spec ((s.afterPoll flow p).setNet net) p.flow
    refine ⟨htied r' hr, by rw [hengine]; exact hs.idle, pre,
      es ++ p.calls.map (.flow flow.request) ++
      p.flow.reply.toList.map (.dropped · .receiverClosed), ?_, hpre, ?_, ?_⟩
    · rw [hdropped]
      show s.log ++ p.calls.map (.flow flow.request) ++ _ = _
      rw [hlog]
      simp only [List.append_assoc]
    · intro e he
      rcases List.mem_append.mp he with he | he
      · exact hsilent e he
      · obtain ⟨_, -, rfl⟩ := List.mem_map.mp he
        rfl
    · intro request a c ha hc f hf
      have hf' : f ∈ v ++ r := (hr.append_left v).mem_iff.mp hf
      have ha' : .flow request (.abort a) ∈ es ++ p.calls.map (Event.flow flow.request) := by
        refine (List.mem_append.mp ha).resolve_right fun hmem => ?_
        simp at hmem
      rcases List.mem_append.mp ha' with ha | ha
      · exact haborts request a c ha hc f
          (List.perm_middle.mem_iff.mpr (List.mem_cons_of_mem _ hf'))
      · obtain ⟨call, hcall, heq⟩ := List.mem_map.mp ha
        obtain ⟨-, rfl⟩ : flow.request = request ∧ call = .abort a := by simpa using heq
        rw [(hstep.of_abort (R := R) S rfl hcall).2] at hc
        rw [hs.tied flow (by simp) socket c hsocket hc]
        exact key_ne_of_nodup hholds.ports f hf'

/-- What the log of `m'` says after an abort does not reset its connection. -/
def Unreset (R : ResetContract B) (m m' : Machine B) : Prop :=
  ∀ before request socket c after,
    m'.log = m.log ++ (before ++ .flow request (.abort socket) :: after) →
      R.connection socket = some c →
        ¬ ∃ packet taken, .transmitted packet taken ∈ after ∧ R.Resets packet c

/-- The last poll of the interface finds none of the aborted connections. -/
lemma Stranded.unreset {l : List (Flow B)} {lookups : List Lookup} (hs : m.Stranded R s l)
    (hholds : s.engine.Holds C l lookups) (t : ℕ) :
    m.Unreset R ((s.setFlows l).pollIface t) := by
  intro before request socket c after hsplit hc
  rintro ⟨packet, taken, hpacket, hresets⟩
  obtain ⟨pre, es, hlog, hpre, hes, haborts⟩ := hs.log_eq
  obtain ⟨events, hlog', hevents, -⟩ := pollIface_log (s.setFlows l) t
  change ((s.setFlows l).pollIface t).log = s.log ++ events at hlog'
  rw [hlog', hlog, List.append_assoc, List.append_assoc, List.append_cancel_left_eq] at hsplit
  -- The abort stands after the first poll of the interface, and so does what follows it.
  obtain ⟨mid, hmid⟩ : ∃ mid, es ++ events = mid ++ .flow request (.abort socket) :: after := by
    rcases List.append_eq_append_iff.mp hsplit with ⟨mid, -, hmid⟩ | ⟨cut, hcut, hrest⟩
    · exact ⟨mid, hmid⟩
    · cases cut with
      | nil => exact ⟨[], hrest.symm⟩
      | cons e cut =>
        obtain ⟨rfl, -⟩ := List.cons.inj hrest
        exact absurd (hpre (.flow request (.abort socket)) (by simp [hcut]))
          (by simp [Event.isFlow])
  have hflow : .flow request (.abort socket) ∈ es := by
    have hmem : Event.flow request (.abort socket) ∈ es ++ events := by simp [hmid]
    refine (List.mem_append.mp hmem).resolve_right fun hmem => ?_
    obtain ⟨_, _, heq, -⟩ := hevents _ hmem
    simp at heq
  have hlast : .transmitted packet taken ∈ events := by
    have hmem : Event.transmitted packet taken ∈ es ++ events := by simp [hmid, hpacket]
    refine (List.mem_append.mp hmem).resolve_left fun hmem => ?_
    exact absurd (hes _ hmem) (by simp [Event.isTransmitted])
  obtain ⟨packet', taken', heq, hop⟩ := hevents _ hlast
  obtain ⟨rfl, rfl⟩ : packet = packet' ∧ taken = taken' := by simpa using heq
  change .transmit packet ∈ (B.ifacePoll s.engine.net t s.engine.device.incoming).1 at hop
  rw [hs.idle] at hop
  obtain ⟨h, socket', hsocket, hc'⟩ := R.ifacePoll_resets _ _ _ _ hop hresets
  have hmem : h ∈ (C.inventory s.engine.net).tcp := by
    rw [← C.tcpSocket, hsocket]
    rfl
  rw [hholds.tcp, List.mem_toFinset] at hmem
  obtain ⟨f, hf, rfl⟩ := List.mem_map.mp hmem
  exact haborts request socket c hflow hc f hf (hs.tied f hf socket' c hsocket hc').symm

/-- **A step.** -/
lemma step_unreset (S : SocketContract B) (h : m.engine.Valid C)
    (ht : Tied R m.engine.net m.engine.flows) :
    ∃ m', m.step = .ok m' ∧ m'.engine.Valid C ∧ Tied R m'.engine.net m'.engine.flows ∧
      m.Unreset R m' := by
  obtain ⟨t, now, s, l, hok, hvalid, hF⟩ := @step_visits B C m
    (fun _ s _ _ => Tied R s.engine.net s.engine.flows ∧ s.engine.device.incoming = [] ∧
      ∃ pre, s.log = m.log ++ pre ∧ ∀ e ∈ pre, e.isFlow = false)
    (fun _ s v r => m.Stranded R s (v ++ r) ∧ s.engine.Holds C (v ++ r) s.engine.lookups) h
    (fun t now s hpolled => by
      obtain ⟨world, world', rfl⟩ := hpolled
      obtain ⟨device, hengine⟩ := pollIface_engine { m with world := world } t
      obtain ⟨events, hlog, hevents, -⟩ := pollIface_log { m with world := world } t
      refine ⟨?_, pollIface_incoming R { m with world := world } t, events ++ [.stepAt now], ?_, ?_⟩
      · show Tied R (({ m with world := world } : Machine B).pollIface t).engine.net
          (({ m with world := world } : Machine B).pollIface t).engine.flows
        rw [hengine]
        exact ht.poll t _
      · show (({ m with world := world } : Machine B).pollIface t).log ++ [_] = _
        rw [hlog, List.append_assoc]
      · intro e he
        rcases List.mem_append.mp he with he | he
        · obtain ⟨_, _, rfl, -⟩ := hevents e he
          rfl
        · rw [List.mem_singleton.mp he]
          rfl)
    (fun now s v a r s' w hholds hL hok hv => w.after_of_forall fun _ _ => by
      obtain ⟨htied, hidle, pre, hlog, hpre⟩ := hL
      obtain ⟨es, hes, hflowless⟩ := hv.flowless
      have hapart := visitLookup_apart (R := R) hholds hok
      refine ⟨hapart.tied htied, by rw [hapart.device_eq]; exact hidle, pre ++ es,
        by rw [hes, hlog, List.append_assoc], fun e he => ?_⟩
      rcases List.mem_append.mp he with he | he
      · exact hpre e he
      · exact hflowless e he)
    (fun now s l hholds hL => by
      obtain ⟨htied, hidle, pre, hlog, hpre⟩ := hL
      exact ⟨⟨htied, hidle, pre, [], by rw [List.append_nil]; exact hlog, hpre, by simp, by simp⟩,
        { hholds with }⟩)
    (fun now s v a r s' w hholds hF hok hv => by
      have hkept := hv.holds hholds
      rw [← hv.lookups] at hkept
      exact (hF.1.visit S hholds hok).and hkept)
  rw [List.append_nil] at hF
  refine ⟨_, hok, hvalid, ?_, hF.1.unreset hF.2 t⟩
  obtain ⟨device, hengine⟩ := pollIface_engine (s.setFlows l) t
  rw [hengine]
  exact hF.1.tied.poll t _

/-- A request. -/
lemma connect_apart {target : Target} {port : ℕ} (h : m.engine.Valid C)
    (hok : m.connect target port reply = .ok m') : Apart R m m' := by
  have haccepted : Unplugged m (m.accepting reply) :=
    (Unplugged.isClosed reply).trans ⟨rfl, rfl, fun _ => rfl⟩
  have hflows : ∀ f ∈ m.engine.flows, f.socket ∈ (C.inventory m.engine.net).tcp := by
    intro f hf
    rw [h.tcp, List.mem_toFinset]
    exact List.mem_map_of_mem hf
  rcases connect_eq_ok hok with rfl | rfl | ⟨deadline, ⟨ip, -, hdial⟩ | ⟨name, -, hlook⟩⟩
  · exact ((Unplugged.isClosed reply).trans (.note _)).apart
  · exact ((Unplugged.isClosed reply).trans (.refuse ..)).apart
  · exact haccepted.apart.trans (connectIp_apart (C := C) h.next hflows hdial)
  rcases lookUp_eq_ok hlook with ⟨-, rfl⟩ | ⟨-, handle, s, hquery, hcases⟩
  · exact (haccepted.trans (.refuse ..)).apart
  have hstarted := haccepted.trans (startQuery_unplugged R hquery)
  rcases hcases with ⟨query, -, rfl⟩ | ⟨text, -, rfl⟩
  · exact (hstarted.trans (.pushLookup _)).apart
  · exact (hstarted.trans (.refuse ..)).apart

end Machine

/-- In every state an engine can reach, a socket's connection has the local port of its flow. -/
lemma engine_tied (C : NetContract B) (S : SocketContract B) (R : ResetContract B)
    {s : Except Fault (Machine B)} (h : (engineSystem B).Reachable s) :
    ∃ m, s = .ok m ∧ m.engine.Valid C ∧ Machine.Tied R m.engine.net m.engine.flows := by
  refine Machine.reachable_rule (I := fun m => Machine.Tied R m.engine.net m.engine.flows) h ?_ ?_
  · intro m hflows _ _
    simp [Machine.Tied, hflows]
  intro m a hvalid htied
  cases a with
  | connect target port reply =>
    obtain ⟨m', hok, -, hvalid'⟩ := Machine.connect_rule hvalid target port reply
    exact ⟨m', hok, hvalid', (Machine.connect_apart hvalid hok).tied htied⟩
  | step =>
    obtain ⟨m', hok, hvalid', htied', -⟩ := Machine.step_unreset S hvalid htied
    exact ⟨m', hok, hvalid', htied'⟩
  | incoming packet =>
    exact ⟨_, rfl, hvalid.service (m.engine.pushIncoming packet).device rfl, htied⟩
  | outside world bridge =>
    refine ⟨_, rfl, { hvalid.bridges bridge with }, ?_⟩
    intro f hf socket c hsocket hc
    obtain ⟨f, hmem, rfl⟩ := List.mem_map.mp hf
    exact htied f hmem socket c hsocket hc

/-! ## An idle connection -/

/-- The connection that is aborted, if the entry is an abort. -/
def Event.aborted? (connection : B.Socket → Option Connection) :
    Event B → Option (Reply × Connection)
  | .flow request (.abort socket) => (connection socket).map (request, ·)
  | _ => none

lemma mem_of_aborted {connection : B.Socket → Option Connection} {log : List (Event B)}
    {request : Reply} {c : Connection}
    (h : log.filterMap (Event.aborted? connection) = [(request, c)]) :
    ∃ socket, .flow request (.abort socket) ∈ log ∧ connection socket = some c := by
  have hmem : (request, c) ∈ log.filterMap (Event.aborted? connection) := by rw [h]; simp
  obtain ⟨e, he, haborted⟩ := List.mem_filterMap.mp hmem
  unfold Event.aborted? at haborted
  split at haborted
  · next request' socket =>
    obtain ⟨c', hc, heq⟩ := Option.map_eq_some_iff.mp haborted
    obtain ⟨rfl, rfl⟩ := Prod.mk.inj heq
    exact ⟨socket, he, hc⟩
  · simp at haborted

/-- A server's SYN-ACK. -/
def synAck : Packet :=
  [0x45, 0, 0, 40, 0, 0, 0, 0, 64, 6, 0, 0, 198, 51, 100, 7, 10, 8, 0, 2,
    0, 80, 0xc0, 0, 0, 0, 0, 0, 0, 0, 0, 0, 0x50, 0x12, 0xff, 0xff, 0, 0, 0, 0]

/-- The SYN it answers. -/
def synPacket : Packet :=
  [0x45, 0, 0, 40, 0, 0, 0, 0, 64, 6, 0, 0, 10, 8, 0, 2, 198, 51, 100, 7,
    0xc0, 0, 0, 80, 0, 0, 0, 0, 0, 0, 0, 0, 0x50, 2, 0xff, 0xff, 0, 0, 0, 0]

/-- A connection is made, and nothing happens for ten seconds. -/
def connectThenIdle : List (EngineAct (resetting fun _ _ => .failed)) :=
  [.connect (.ip (.v4 (.new 198 51 100 7))) 80 5, .step, .incoming synAck, .step,
    .outside ⟨10000000000, [], []⟩ fun f => f.bridge]

/-- With an idle timeout of five seconds the connection is aborted, while it is established.  The
SYN is the only packet of the run. -/
lemma idle_connection_aborted :
    let remote : SocketAddr := ⟨.v4 (.new 198 51 100 7), 80⟩
    ∃ (m m' : Machine (resetting fun _ _ => .failed)) (before after : List (Event _))
      (socket : Reference.Socket),
      (engineSystem _).Reachable (.ok m) ∧ m.step = .ok m' ∧
      m'.log = m.log ++ (before ++ .flow 5 (.abort socket) :: after) ∧
      socket.connection = some ⟨49152, remote⟩ ∧ socket.state = .established ∧
      m'.log.filterMap Event.handed? = [(synPacket, true)] := by
  intro remote
  have hrun : (Engine.new (resetting fun _ _ => .failed) ⟨some (.new 10 8 0 2), none, [], 1400⟩ 0
      30000000000 5000000000 8 0 49152 >>= fun e =>
        connectThenIdle.foldlM Machine.perform ⟨e, ⟨0, [], []⟩, []⟩ >>= fun m =>
          m.step >>= fun m' => .ok (m, m')).map
        (fun p => ((p.2.log.drop p.1.log.length).filterMap (Event.aborted?
            fun s : Reference.Socket => if s.state = .established then s.connection else none),
          p.2.log.filterMap Event.handed?)) =
      .ok ([(5, ⟨49152, remote⟩)], [(synPacket, true)]) := by decide +kernel
  obtain ⟨⟨m, m'⟩, hm, hobserved⟩ := except_map_eq_ok.mp hrun
  obtain ⟨haborted, hpackets⟩ := Prod.mk.inj hobserved
  obtain ⟨e, hnew, hm⟩ := bind_eq_ok.mp hm
  obtain ⟨m₁, hacts, hm⟩ := bind_eq_ok.mp hm
  obtain ⟨m₂, hstep, hm⟩ := bind_eq_ok.mp hm
  obtain ⟨rfl, rfl⟩ := Prod.mk.inj (Except.ok.inj hm)
  have hreachable : (engineSystem (resetting fun _ _ => .failed)).Reachable (.ok m₁) :=
    ⟨_, _, ⟨⟨some (.new 10 8 0 2), none, [], 1400⟩, 0, 30000000000, 5000000000, 8, 0, 49152, e,
      ⟨0, [], []⟩, by decide, by decide, hnew, rfl⟩, Machine.run_of_foldlM hacts⟩
  obtain ⟨_, heq, hvalid, -⟩ := engine_tied (Reference.resettingNetContract fun _ _ => .failed)
    (Reference.resettingSocketContract fun _ _ => .failed)
    (Reference.resetContract fun _ _ => .failed) hreachable
  obtain rfl := Except.ok.inj heq
  obtain ⟨_, now, es, hok, hlog, -⟩ := Machine.step_consults hvalid
  obtain rfl := Except.ok.inj (hstep.symm.trans hok)
  rw [hlog, List.drop_left] at haborted
  obtain ⟨socket, hmem, hconnection⟩ := mem_of_aborted haborted
  obtain ⟨before, after, hsplit⟩ := List.append_of_mem hmem
  obtain ⟨hestablished, hconnection⟩ : socket.state = .established ∧
      socket.connection = some ⟨49152, remote⟩ := by
    simpa only [Option.ite_none_right_eq_some] using hconnection
  exact ⟨_, _, before, after, socket, hreachable, hstep, by rw [hlog, hsplit], hconnection,
    hestablished, hpackets⟩

/-! ## The result -/

/-- **An abort resets nothing.**  In every state an engine can reach, a step aborts connections
without a reset segment for any of them before it returns. -/
theorem abort_never_resets (C : NetContract B) (S : SocketContract B) (R : ResetContract B)
    {m : Machine B} (h : (engineSystem B).Reachable (.ok m)) :
    ∃ m', m.step = .ok m' ∧ m.Unreset R m' := by
  obtain ⟨_, heq, hvalid, htied⟩ := engine_tied C S R h
  obtain rfl := Except.ok.inj heq
  obtain ⟨m', hok, -, -, hunreset⟩ := Machine.step_unreset S hvalid htied
  exact ⟨m', hok, hunreset⟩

/-- The idle connection is aborted without a reset segment. -/
theorem abort_never_resets_idle :
    ∃ (m m' : Machine (resetting fun _ _ => .failed)) (before after : List (Event _))
      (socket : Reference.Socket) (c : Connection), m.step = .ok m' ∧
      m'.log = m.log ++ (before ++ .flow 5 (.abort socket) :: after) ∧
      socket.connection = some c ∧
      ¬ ∃ packet taken, .transmitted packet taken ∈ after ∧ Reference.Resets packet c := by
  obtain ⟨m, m', before, after, socket, hreachable, hstep, hlog, hconnection, -⟩ :=
    idle_connection_aborted
  obtain ⟨_, hok, hunreset⟩ := abort_never_resets
    (Reference.resettingNetContract fun _ _ => .failed)
    (Reference.resettingSocketContract fun _ _ => .failed)
    (Reference.resetContract fun _ _ => .failed) hreachable
  obtain rfl := Except.ok.inj (hstep.symm.trans hok)
  exact ⟨m, m', before, after, socket, _, hstep, hlog, hconnection,
    hunreset before 5 socket _ after hlog hconnection⟩

/-- The server of an established connection that was aborted is not told, although the sink takes
every packet: the step returns without a reset segment. -/
theorem abort_without_reset :
    ∃ (m m' : Machine (resetting fun _ _ => .failed)) (before after : List (Event _))
      (socket : Reference.Socket) (c : Connection),
      (engineSystem _).Reachable (.ok m) ∧ m.step = .ok m' ∧
      m'.log = m.log ++ (before ++ .flow 5 (.abort socket) :: after) ∧
      socket.connection = some c ∧ socket.state = .established ∧
      (∀ packet taken, .transmitted packet taken ∈ m'.log → taken = true) ∧
      ¬ ∃ packet taken, .transmitted packet taken ∈ after ∧ Reference.Resets packet c := by
  obtain ⟨m, m', before, after, socket, hreachable, hstep, hlog, hconnection, hestablished,
    hpackets⟩ := idle_connection_aborted
  have honly : ∀ packet taken, .transmitted packet taken ∈ m'.log →
      packet = synPacket ∧ taken = true := by
    intro packet taken hmem
    have hhanded : (packet, taken) ∈ m'.log.filterMap Event.handed? :=
      List.mem_filterMap.mpr ⟨_, hmem, rfl⟩
    simpa [hpackets] using hhanded
  refine ⟨m, m', before, after, socket, _, hreachable, hstep, hlog, hconnection, hestablished,
    fun packet taken hmem => (honly packet taken hmem).2, ?_⟩
  rintro ⟨packet, taken, hmem, hreset, -⟩
  obtain ⟨rfl, -⟩ := honly packet taken (by rw [hlog]; simp [hmem])
  exact absurd hreset (by decide)

end Ovpnlane
