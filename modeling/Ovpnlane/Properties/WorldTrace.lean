import Ovpnlane.Properties.EngineSteps
import Ovpnlane.Construction.Netstack.Worker

/-!
# What the log says of the world

The clock, the reply channels and the packet sinks are outside of the engine, and the log has an
entry for each call of theirs that matters.  `Event.Happens` says which call an entry stands for:
it was made in the world as it was then, and returned what the entry says.  So the log of an
operation is a trace of the world (`worldSystem`), whose hidden steps are the readings of the clock
that nothing is decided by and the streams that are made.

Each operation of the engine has its lemma (`Machine.Did`), down to the calls of a poll; a step is
the trace up to its reading of the clock, that reading, and the trace after it (`Machine.StepsAt`);
and so is every action of the thread (`Worker.act_traces`).
-/

namespace Ovpnlane

variable {B : Backend}

/-! ## The world as a system -/

/-- The beginning of a step. -/
def Event.isStep : Event B → Bool
  | .stepAt _ => true
  | _ => false

/-- What the world does in an entry, from `w` to `w'`: the call the entry records, with the result
it records.  The other entries are about no call of the world. -/
def Event.Happens (sink : SinkId) (timeout : Instant) (w w' : B.World) : Event B → Prop
  | .accepted _ deadline => ∃ t, B.now w = (t, w') ∧ deadline = t + timeout
  | .observed reply closed | .flow _ (.isClosed reply closed) => B.isClosed reply w = (closed, w')
  | .sent reply answer delivered | .flow _ (.sendReply _ reply answer delivered) =>
    B.sendReply reply answer w = (delivered, w')
  | .transmitted packet taken => B.sinkSend sink packet w = (taken, w')
  | .stepAt now => B.now w = (now, w')
  | _ => w' = w

/-- What the world does without an entry: its clock is read, or a stream is made. -/
def Backend.Unseen (B : Backend) (w w' : B.World) : Prop :=
  w' = (B.now w).2 ∨ w' = (B.duplex bufferSize w).2

/-- The world, as an engine with this sink and this connect timeout uses it. -/
def worldSystem (B : Backend) (sink : SinkId) (timeout : Instant) :
    System B.World (Option (Event B)) where
  init _ := True
  step w l w' := l.elim (B.Unseen w w') (Event.Happens sink timeout w w')

/-! ## A poll of a flow -/

namespace Polling

variable {p q p' : Polling B} {now : Instant}

/-- From `p` to `q`, the world did what the calls say. -/
def Did (p q : Polling B) : Prop :=
  ∃ calls, q.calls = p.calls ++ calls ∧ ∀ sink timeout request,
    (worldSystem B sink timeout).Traces p.world (calls.map (.flow request)) q.world

lemma Did.trans (h : p.Did q) (h' : q.Did p') : p.Did p' := by
  obtain ⟨calls, hcalls, htraces⟩ := h
  obtain ⟨calls', hcalls', htraces'⟩ := h'
  refine ⟨calls ++ calls', by rw [hcalls', hcalls, List.append_assoc],
    fun sink timeout request => ?_⟩
  rw [List.map_append]
  exact (htraces sink timeout request).append (htraces' sink timeout request)

lemma Did.of_eq (hcalls : q.calls = p.calls) (hworld : q.world = p.world) : p.Did q :=
  ⟨[], by simp [hcalls], fun _ _ _ => by rw [hworld]; exact .nil⟩

/-- One call. -/
lemma Did.call {c : FlowCall B} (hcalls : q.calls = p.calls ++ [c])
    (hhappens : ∀ sink timeout request,
      (Event.flow request c).Happens sink timeout p.world q.world) : p.Did q :=
  ⟨[c], hcalls, fun sink timeout request => .single (hhappens sink timeout request)⟩

lemma abort_did (p : Polling B) : p.Did p.abort := .call rfl fun _ _ _ => rfl

lemma isClosed_did (p : Polling B) (reply : Reply) : p.Did (p.isClosed reply).2 :=
  .call (c := .isClosed reply (p.isClosed reply).1) rfl fun _ _ _ => rfl

lemma sendReply_did {answer : B.Answer} {delivered : Bool}
    (h : p.sendReply answer = .ok (delivered, q)) : p.Did q := by
  obtain ⟨reply, -, rfl, rfl⟩ := sendReply_eq_ok h
  exact .call rfl fun _ _ _ => rfl

lemma ReplyStep.did {result : Option Bool} (h : ReplyStep p now q result) : p.Did q := by
  have htake : ∀ reply, p.Did (p.isClosed reply).2.takeClient := fun reply =>
    (isClosed_did p reply).trans (.of_eq rfl rfl)
  cases h with
  | idle => exact .of_eq rfl rfl
  | gone reply => exact (isClosed_did p reply).trans (abort_did _)
  | failed reply _ _ _ _ _ hsend =>
    exact ((isClosed_did p reply).trans (sendReply_did hsend)).trans (abort_did _)
  | answered reply _ _ _ _ _ _ hsend =>
    exact ((htake reply).trans (sendReply_did hsend)).trans (.of_eq rfl rfl)
  | refused reply _ _ _ _ _ _ hsend =>
    exact ((htake reply).trans (sendReply_did hsend)).trans (abort_did _)
  | waits reply => exact isClosed_did p reply

/-- The world has no part in a move. -/
lemma Move.did (h : Move now p q) : p.Did q := by
  cases h with
  | touch => exact .of_eq rfl rfl
  | abort => exact abort_did p
  | recv data => exact .call (c := .recv p.socket data _ _) rfl fun _ _ _ => rfl
  | recvError => exact .call rfl fun _ _ _ => rfl
  | shutdown =>
    refine .call (c := .shutdown p.socket (B.pollShutdown p.flow.bridge).1) ?_ fun _ _ _ => ?_ <;>
      split_ifs <;> rfl
  | send room => exact .call (c := .send p.socket room _ _) rfl fun _ _ _ => rfl
  | finish room =>
    have hsend : p.Did (p.send room).2 := .call (c := .send p.socket room _ _) rfl fun _ _ _ => rfl
    exact hsend.trans (.call rfl fun _ _ _ => rfl)
  | sendError => exact .call rfl fun _ _ _ => rfl

lemma Moves.did (h : Moves now p q) : p.Did q := by
  induction h with
  | refl => exact .of_eq rfl rfl
  | tail _ hmove ih => exact ih.trans hmove.did

lemma poll_did {idleTimeout : Instant} {keep : Bool} (h : p.poll now idleTimeout = .ok (q, keep)) :
    p.Did q := by
  rcases (poll_step h).moves with hstep | ⟨_, hstep, hmoves⟩
  · exact hstep.did
  · exact hstep.did.trans (Moves.did hmoves)

end Polling

/-! ## The operations of the engine -/

namespace Machine

variable {m m' s : Machine B} {now : Instant}

/-- The world of an engine, with its sink and its timeout. -/
def surroundings (m : Machine B) : System B.World (Option (Event B)) :=
  worldSystem B m.engine.device.sink m.engine.connectTimeout

/-- From `m` to `m'`, no step began, and the world did what the entries say. -/
structure Did (m m' : Machine B) : Prop where
  sink : m'.engine.device.sink = m.engine.device.sink
  timeout : m'.engine.connectTimeout = m.engine.connectTimeout
  log : ∃ es, m'.log = m.log ++ es ∧ (∀ e ∈ es, e.isStep = false) ∧
    m.surroundings.Traces m.world es m'.world

lemma Did.surroundings_eq (h : m.Did s) : s.surroundings = m.surroundings := by
  rw [surroundings, h.sink, h.timeout, surroundings]

lemma Did.trans (h : m.Did s) (h' : s.Did m') : m.Did m' := by
  refine ⟨h'.sink.trans h.sink, h'.timeout.trans h.timeout, ?_⟩
  obtain ⟨es, hlog, hes, htraces⟩ := h.log
  obtain ⟨es', hlog', hes', htraces'⟩ := h'.log
  rw [h.surroundings_eq] at htraces'
  exact ⟨es ++ es', by rw [hlog', hlog, List.append_assoc], List.forall_mem_append.mpr ⟨hes, hes'⟩,
    htraces.append htraces'⟩

/-- Neither the world nor the log is touched. -/
lemma Did.of_eq (hworld : m'.world = m.world) (hlog : m'.log = m.log)
    (hsink : m'.engine.device.sink = m.engine.device.sink)
    (htimeout : m'.engine.connectTimeout = m.engine.connectTimeout) : m.Did m' :=
  ⟨hsink, htimeout, [], by simp [hlog], by simp, by rw [hworld]; exact .nil⟩

lemma Did.refl (m : Machine B) : m.Did m := .of_eq rfl rfl rfl rfl

/-- One entry. -/
lemma Did.entry {e : Event B} (hlog : m'.log = m.log ++ [e])
    (hhappens : e.Happens m.engine.device.sink m.engine.connectTimeout m.world m'.world)
    (hstep : e.isStep = false) (hsink : m'.engine.device.sink = m.engine.device.sink)
    (htimeout : m'.engine.connectTimeout = m.engine.connectTimeout) : m.Did m' :=
  ⟨hsink, htimeout, [e], hlog, List.forall_mem_singleton.mpr hstep, .single hhappens⟩

/-- The world does something without an entry. -/
lemma Did.unseen {world : B.World} (h : B.Unseen m.world world) :
    m.Did { m with world := world } :=
  ⟨rfl, rfl, [], by simp, by simp, .hidden h⟩

lemma isClosed_did (m : Machine B) (reply : Reply) : m.Did (m.isClosed reply).2 :=
  .entry (e := .observed reply (m.isClosed reply).1) rfl rfl rfl rfl rfl

lemma answer_did (m : Machine B) (reply : Reply) (answer : B.Answer) :
    m.Did (m.answer reply answer) :=
  .entry (e := .sent reply answer (B.sendReply reply answer m.world).1) rfl rfl rfl rfl rfl

lemma refuse_did (m : Machine B) (reply : Reply) (kind : ErrorKind) (message : String) :
    m.Did (m.refuse reply kind message) := m.answer_did reply _

lemma startQuery_did {reply : Reply} {name : String} {kind : DnsQueryType}
    {handle : Except String QueryHandle} (h : m.startQuery reply name kind = .ok (handle, m')) :
    m.Did m' := by
  obtain ⟨-, rfl⟩ := startQuery_eq_ok h
  exact .entry (e := .query reply name kind handle) rfl rfl rfl rfl rfl

lemma getQueryResult_did {reply : Reply} {query : QueryHandle} {result : QueryResult}
    (h : m.getQueryResult reply query = .ok (result, m')) : m.Did m' := by
  obtain ⟨_, -, rfl⟩ := getQueryResult_eq_ok h
  exact .entry (e := .queryResult reply query result) rfl rfl rfl rfl rfl

lemma cancelQuery_did {query : QueryHandle} (h : m.cancelQuery query = .ok m') : m.Did m' := by
  obtain ⟨_, -, rfl⟩ := cancelQuery_eq_ok h
  exact .of_eq rfl rfl rfl rfl

lemma openFlow_did (m : Machine B) (socket : B.Socket) (localAddr : SocketAddr) (reply : Reply)
    (deadline : Instant) : m.Did (m.openFlow socket localAddr reply deadline) := by
  have hstreams : m.Did { m with world := (B.duplex bufferSize m.world).2 } := .unseen (.inr rfl)
  have hclock : ∀ w, Machine.Did { m with world := w } { m with world := (B.now w).2 } :=
    fun w => .unseen (.inl rfl)
  exact (hstreams.trans (hclock _)).trans (.of_eq rfl rfl rfl rfl)

lemma dial_did {ip : IpAddr} {port : ℕ} {reply : Reply} {deadline : Instant}
    (h : m.dial ip port reply deadline = .ok m') : m.Did m' := by
  obtain ⟨localPort, nextPort, -, ⟨text, rfl⟩ | ⟨socket, a, -, rfl⟩⟩ := dial_eq_ok h
  · exact (Did.of_eq rfl rfl rfl rfl : m.Did (m.dialing ip port localPort nextPort)).trans
      (refuse_did _ _ _ _)
  · exact (Did.of_eq rfl rfl rfl rfl : m.Did (m.dialing ip port localPort nextPort)).trans
      (openFlow_did _ _ _ _ _)

lemma connectIp_did {ip : IpAddr} {port : ℕ} {reply : Reply} {deadline : Instant}
    (h : m.connectIp ip port reply deadline = .ok m') : m.Did m' := by
  have hnote : m.Did (m.note (.connectIp reply ip port)) := .entry rfl rfl rfl rfl rfl
  unfold connectIp at h
  simp only at h
  split_ifs at h
  · obtain rfl := Except.ok.inj h
    exact hnote.trans (refuse_did _ _ _ _)
  · obtain rfl := Except.ok.inj h
    exact hnote.trans (refuse_did _ _ _ _)
  · exact hnote.trans (dial_did h)

lemma lookUp_did {name : String} {port : ℕ} {reply : Reply} {deadline : Instant}
    (h : m.lookUp name port reply deadline = .ok m') : m.Did m' := by
  obtain ⟨-, rfl⟩ | ⟨-, handle, s, hquery, ⟨query, -, rfl⟩ | ⟨text, -, rfl⟩⟩ := lookUp_eq_ok h
  · exact refuse_did _ _ _ _
  · exact (startQuery_did hquery).trans (.of_eq rfl rfl rfl rfl)
  · exact (startQuery_did hquery).trans (refuse_did _ _ _ _)

/-- A request. -/
lemma connect_did {target : Target} {port : ℕ} {reply : Reply}
    (h : m.connect target port reply = .ok m') : m.Did m' := by
  have hclosed := m.isClosed_did reply
  have haccepting : m.Did (m.accepting reply) :=
    hclosed.trans (.entry rfl ⟨_, rfl, rfl⟩ rfl rfl rfl)
  obtain rfl | rfl | ⟨deadline, ⟨ip, -, hdial⟩ | ⟨name, -, hlook⟩⟩ := connect_eq_ok h
  · exact hclosed.trans (.entry rfl rfl rfl rfl rfl)
  · exact hclosed.trans (refuse_did _ _ _ _)
  · exact haccepting.trans (connectIp_did hdial)
  · exact haccepting.trans (lookUp_did hlook)

/-! ### A step -/

lemma deviceOps_did (ops : List DeviceOp) (m : Machine B) : m.Did (ops.foldl deviceOp m) := by
  induction ops generalizing m with
  | nil => exact .refl m
  | cons op ops ih =>
    have hop : m.Did (m.deviceOp op) := by
      cases op with
      | receive => exact .of_eq rfl rfl m.engine.device.receive_sink rfl
      | transmit packet =>
        exact .entry (e := .transmitted packet (B.sinkSend m.engine.device.sink packet m.world).1)
          rfl rfl rfl rfl rfl
    exact hop.trans (ih _)

lemma pollIface_did (m : Machine B) (t : ℕ) : m.Did (m.pollIface t) := by
  have hnet : m.Did (m.setNet (B.ifacePoll m.engine.net t m.engine.device.incoming).2) :=
    .of_eq rfl rfl rfl rfl
  exact hnet.trans (deviceOps_did (B.ifacePoll m.engine.net t m.engine.device.incoming).1 _)

lemma visitLookup_did {lookup : Lookup} {w : Verdict Lookup}
    (h : visitLookup now m lookup = .ok (m', w)) : m.Did m' := by
  have hclosed := m.isClosed_did lookup.reply
  cases visitLookup_eq_ok h with
  | expired _ _ hcancel =>
      exact (hclosed.trans (cancelQuery_did hcancel)).trans (refuse_did _ _ _ _)
  | pending _ hresult => exact hclosed.trans (getQueryResult_did hresult)
  | resolved _ _ _ _ hresult _ _ hdial =>
    exact (hclosed.trans (getQueryResult_did hresult)).trans (connectIp_did hdial)
  | exhausted _ _ hresult =>
    exact (hclosed.trans (getQueryResult_did hresult)).trans (refuse_did _ _ _ _)
  | again _ _ _ _ _ hresult _ _ _ hquery =>
    exact (hclosed.trans (getQueryResult_did hresult)).trans (startQuery_did hquery)
  | unstartable _ _ _ _ _ hresult _ _ _ hquery =>
    exact ((hclosed.trans (getQueryResult_did hresult)).trans (startQuery_did hquery)).trans
      (refuse_did _ _ _ _)

lemma dropFlow_did (m : Machine B) (flow : Flow B) : m.Did (m.dropFlow flow) := by
  unfold dropFlow
  split
  · exact .refl m
  · exact .entry rfl rfl rfl rfl rfl

lemma visitFlow_did {flow : Flow B} {w : Verdict (Flow B)}
    (h : visitFlow now m flow = .ok (m', w)) : m.Did m' := by
  obtain ⟨socket, p, keep, -, hpoll, hend⟩ := visitFlow_eq_ok h
  have hpolled : m.Did (m.afterPoll flow p) := by
    obtain ⟨calls, hcalls, htraces⟩ := Polling.poll_did hpoll
    obtain rfl : p.calls = calls := by simpa using hcalls
    refine ⟨rfl, rfl, _, rfl, fun e he => ?_, htraces _ _ flow.request⟩
    obtain ⟨_, -, rfl⟩ := List.mem_map.mp he
    rfl
  obtain ⟨-, rfl, -⟩ | ⟨net, -, -, rfl, -⟩ := hend
  · exact hpolled
  · have hremoved : (m.afterPoll flow p).Did ((m.afterPoll flow p).setNet net) :=
      .of_eq rfl rfl rfl rfl
    exact (hpolled.trans hremoved).trans (dropFlow_did _ p.flow)

lemma pollLookups_did (h : m.pollLookups now = .ok m') : m.Did m' := by
  obtain ⟨⟨s, lookups⟩, hsweep, h⟩ := bind_eq_ok.mp h
  obtain rfl := Except.ok.inj h
  have hvisits : (m.setLookups []).Did s :=
    sweep_trans Did.refl (fun _ _ _ => Did.trans) (fun _ _ _ _ => visitLookup_did) hsweep
  exact ((Did.of_eq rfl rfl rfl rfl : m.Did (m.setLookups [])).trans hvisits).trans
    (.of_eq rfl rfl rfl rfl)

lemma pollFlows_did (h : m.pollFlows now = .ok m') : m.Did m' := by
  obtain ⟨⟨s, flows⟩, hsweep, h⟩ := bind_eq_ok.mp h
  obtain rfl := Except.ok.inj h
  have hvisits : (m.setFlows []).Did s :=
    sweep_trans Did.refl (fun _ _ _ => Did.trans) (fun _ _ _ _ => visitFlow_did) hsweep
  exact ((Did.of_eq rfl rfl rfl rfl : m.Did (m.setFlows [])).trans hvisits).trans
    (.of_eq rfl rfl rfl rfl)

/-- A reading of the clock. -/
lemma now_eq (h : m.now = (now, s)) :
    B.now m.world = (now, s.world) ∧ s.engine = m.engine ∧ s.log = m.log := by
  obtain ⟨rfl, rfl⟩ := Prod.mk.inj h
  exact ⟨rfl, rfl, rfl⟩

lemma timestamp_did {t : ℕ} (h : m.timestamp = (t, s)) : m.Did s := by
  obtain ⟨-, rfl⟩ := Prod.mk.inj h
  exact .unseen (.inl rfl)

/-- The entries `es` of a step: `now` is what the clock says in the middle of it, and no other entry
is the beginning of a step. -/
def StepsAt (m : Machine B) (now : Instant) (es : List (Event B)) (m' : Machine B) : Prop :=
  ∃ before after w w', es = before ++ .stepAt now :: after ∧ m'.log = m.log ++ es ∧
    m.surroundings.Traces m.world before w ∧ B.now w = (now, w') ∧
      m.surroundings.Traces w' after m'.world ∧
        (∀ e ∈ before, e.isStep = false) ∧ ∀ e ∈ after, e.isStep = false

/-- The time of a step is the only one its entries have. -/
lemma StepsAt.now_eq {es : List (Event B)} {t : Instant} (h : m.StepsAt now es m')
    (ht : .stepAt t ∈ es) : t = now := by
  obtain ⟨before, after, _, _, rfl, -, -, -, -, hbefore, hafter⟩ := h
  rcases List.mem_append.mp ht with ht | ht
  · exact absurd (hbefore _ ht) (by simp [Event.isStep])
  rcases List.mem_cons.mp ht with ht | ht
  · exact Event.stepAt.inj ht
  · exact absurd (hafter _ ht) (by simp [Event.isStep])

/-- **A step** begins at the time that its second reading of the clock returns. -/
lemma step_stepsAt (h : m.step = .ok m') :
    ∃ now es, m.StepsAt now es m' ∧ m'.engine.device.sink = m.engine.device.sink ∧
      m'.engine.connectTimeout = m.engine.connectTimeout := by
  obtain ⟨t, m₁, now, m₂, htimestamp, hnow⟩ : ∃ t m₁ now m₂, m.timestamp = (t, m₁) ∧
    (m₁.pollIface t).now = (now, m₂) := ⟨_, _, _, _, rfl, rfl⟩
  rw [step, htimestamp] at h
  simp only [hnow] at h
  obtain ⟨s₁, hs₁, h⟩ := bind_eq_ok.mp h
  obtain ⟨s₂, hs₂, h⟩ := bind_eq_ok.mp h
  obtain rfl := Except.ok.inj h
  have hfirst := (timestamp_did htimestamp).trans (m₁.pollIface_did t)
  have hrest := ((pollLookups_did hs₁).trans (pollFlows_did hs₂)).trans (s₂.pollIface_did t)
  obtain ⟨hclock, hengine, hnoted⟩ := now_eq hnow
  obtain ⟨before, hbefore, hquiet, htraces⟩ := hfirst.log
  obtain ⟨after, hafter, hquiet', htraces'⟩ := hrest.log
  have hsame : (m₂.note (.stepAt now)).surroundings = m.surroundings := by
    rw [← hfirst.surroundings_eq, surroundings, surroundings, ← hengine]
    rfl
  rw [hsame] at htraces'
  refine
    ⟨now, _, ⟨before, after, _, _, rfl, ?_, htraces, hclock, htraces', hquiet, hquiet'⟩, ?_, ?_⟩
  · rw [hafter, note, hnoted, hbefore]
    simp
  · exact hrest.sink.trans ((congrArg (·.device.sink) hengine).trans hfirst.sink)
  · exact hrest.timeout.trans ((congrArg (·.connectTimeout) hengine).trans hfirst.timeout)

end Machine

/-! ## The thread -/

/-- What the world does in an entry of the worker, whose engine before the action is `engine`. -/
def WorkerEvent.Happens (engine : Option (ℕ × Engine B)) (w w' : B.World) : WorkerEvent B → Prop
  | .engine generation event => ∃ e, engine = some (generation, e) ∧
      event.Happens e.device.sink e.connectTimeout w w'
  | .refused reply delivered => B.sendReply reply (.error closedError) w = (delivered, w')
  | _ => w' = w

/-- The world, as the thread uses it in an action that it begins with this engine. -/
def threadWorld (engine : Option (ℕ × Engine B)) :
    System B.World (Option (WorkerEvent B)) where
  init _ := True
  step w l w' := l.elim (B.Unseen w w') (WorkerEvent.Happens engine w w')

lemma traces_engine {e : Engine B} {generation : ℕ} {es : List (Event B)} {w w' : B.World}
    (h : (worldSystem B e.device.sink e.connectTimeout).Traces w es w') :
    (threadWorld (some (generation, e))).Traces w (es.map (.engine generation)) w' := by
  refine h.map fun w l w' hstep => ?_
  cases l with
  | none => exact hstep
  | some event => exact ⟨e, rfl, hstep⟩

namespace Worker

variable {engine : Option (ℕ × Engine B)} {w v u : Worker B}

/-- From `w` to `v`, the world did what the entries say. -/
def Did (engine : Option (ℕ × Engine B)) (w v : Worker B) : Prop :=
  ∃ es, v.log = w.log ++ es ∧ (threadWorld engine).Traces w.world es v.world

lemma Did.trans (h : w.Did engine v) (h' : v.Did engine u) : w.Did engine u := by
  obtain ⟨es, hlog, htraces⟩ := h
  obtain ⟨es', hlog', htraces'⟩ := h'
  exact ⟨es ++ es', by rw [hlog', hlog, List.append_assoc], htraces.append htraces'⟩

/-- Entries about no call of the world. -/
lemma Did.quiet {es : List (WorkerEvent B)} (hlog : v.log = w.log ++ es)
    (hworld : v.world = w.world)
    (hes : ∀ e ∈ es, e.Happens engine w.world w.world) : w.Did engine v :=
  ⟨es, hlog, by rw [hworld]; exact .stays hes⟩

lemma Did.of_eq (hlog : v.log = w.log) (hworld : v.world = w.world) : w.Did engine v :=
  .quiet (hlog.trans (List.append_nil _).symm) hworld (by simp)

/-- One such entry. -/
lemma Did.note {e : WorkerEvent B} (hlog : v.log = w.log ++ [e]) (hworld : v.world = w.world)
    (he : e.Happens engine w.world w.world) : w.Did engine v :=
  .quiet hlog hworld (List.forall_mem_singleton.mpr he)

lemma dropEngine_did (w : Worker B) : w.Did engine w.dropEngine := by
  unfold dropEngine
  split
  · exact .of_eq rfl rfl
  · refine .quiet (List.append_assoc ..) rfl fun e he => ?_
    simp only [List.mem_append, List.mem_map, List.mem_singleton] at he
    obtain ⟨_, -, rfl⟩ | rfl := he <;> rfl

lemma finish_did (w : Worker B) (phase : Phase) : w.Did engine (w.finish phase) := by
  refine w.dropEngine_did.trans (.quiet rfl rfl fun e he => ?_)
  obtain ⟨_, -, rfl⟩ := List.mem_map.mp he
  rfl

lemma online_did (w : Worker B) (generation : ℕ) (settings : Settings) (sink : SinkId)
    (nextPort : ℕ) : w.Did engine (w.online generation settings sink nextPort) := by
  unfold online
  split
  · exact w.finish_did _
  · exact w.dropEngine_did.trans (.note rfl rfl rfl)

lemma offline_did (w : Worker B) (generation : ℕ) : w.Did engine (w.offline generation) := by
  unfold offline
  split
  · split_ifs
    · exact w.dropEngine_did
    · exact .of_eq rfl rfl
  · exact .of_eq rfl rfl

/-- A method of the engine. -/
lemma onEngine_did {generation : ℕ} {e : Engine B} {method : Machine B → Except Fault (Machine B)}
    (hmethod : ∀ m', method ⟨e, w.world, []⟩ = .ok m' →
      (worldSystem B e.device.sink e.connectTimeout).Traces w.world m'.log m'.world)
    (h : w.onEngine generation e method = .ok v) : w.Did (some (generation, e)) v := by
  obtain ⟨m', hm', rfl⟩ := except_map_eq_ok.mp h
  exact ⟨_, rfl, traces_engine (hmethod m' hm')⟩

lemma connect_did (w : Worker B) (target : Target) (port : ℕ) (reply : Reply) :
    w.Did w.engine (w.connect target port reply) := by
  unfold connect
  rcases hengine : w.engine with _ | ⟨generation, e⟩
  · exact ⟨[.refused reply _], rfl, .single rfl⟩
  simp only
  split
  · next v hv =>
    refine onEngine_did (fun m' hm' => ?_) hv
    obtain ⟨es, hlog, -, htraces⟩ := (Machine.connect_did hm').log
    obtain rfl : m'.log = es := by simpa using hlog
    exact htraces
  · refine Did.trans ?_ (finish_did _ _)
    exact .note (e := .dropped reply .engineGone) rfl rfl rfl

lemma takePacket_did (w : Worker B) (tag : ℕ) (packet : Packet) :
    w.Did engine (w.takePacket tag packet) := by
  have hone : ∀ (u : Worker B) (e : WorkerEvent B), (∀ x, e.Happens engine x x) →
      ∀ engine', u.Did engine { u with engine := engine', log := u.log ++ [e] } :=
    fun u e he _ => .note rfl rfl (he u.world)
  have hdequeued := fun current => hone w (.dequeued tag packet current) (fun _ => rfl)
  unfold takePacket
  rcases w.engine with _ | ⟨generation, e⟩
  · exact hdequeued none none
  simp only
  split_ifs
  · exact (hdequeued (some generation) (some (generation, e))).trans
      (hone _ (.pushed generation packet) (fun _ => rfl) _)
  · exact hdequeued (some generation) (some (generation, e))

lemma afterSelect_did (w : Worker B) : w.Did engine w.afterSelect := by
  unfold afterSelect
  split_ifs <;> exact .of_eq rfl rfl

lemma stepEngine_did (w : Worker B) : w.Did w.engine w.stepEngine := by
  unfold stepEngine
  rcases hengine : w.engine with _ | ⟨generation, e⟩
  · exact .of_eq rfl rfl
  simp only
  split
  · next v hv =>
    refine (onEngine_did (fun m' hm' => ?_) hv : w.Did _ v).trans (.of_eq rfl rfl)
    obtain ⟨now, es, ⟨before, after, u, u', rfl, hlog, htraces, hclock, htraces', -⟩, -⟩ :=
      Machine.step_stepsAt hm'
    rw [hlog, List.nil_append, List.append_cons]
    have hstep : (worldSystem B e.device.sink e.connectTimeout).Traces u [.stepAt now] u' :=
      .single hclock
    exact (htraces.append hstep).append htraces'
  · exact w.finish_did _

lemma checkFailed_did (w : Worker B) : w.Did engine w.checkFailed := by
  have hdrop : w.Did engine w.dropEngine := w.dropEngine_did
  unfold checkFailed
  simp only
  split_ifs
  · exact hdrop.trans (.of_eq rfl rfl)
  · exact .of_eq rfl rfl

lemma select_did {choice : Choice} (h : w.select choice = some v) : w.Did w.engine v := by
  cases choice with
  | command nextPort =>
    rcases hcommands : w.commands with _ | ⟨command, rest⟩ <;> simp only [select, hcommands] at h
    · simp at h
    obtain rfl := Option.some.inj h
    have hpop : w.Did w.engine { w with commands := rest } := .of_eq rfl rfl
    refine (hpop.trans ?_).trans (afterSelect_did _)
    cases command with
    | online generation settings sink => exact online_did _ _ _ _ _
    | offline generation => exact offline_did _ _
    | connect target port reply => exact connect_did { w with commands := rest } target port reply
    | shutdown => exact finish_did _ _
  | packet =>
    rcases hpackets : w.packets with _ | ⟨⟨tag, packet⟩, rest⟩ <;> simp only [select, hpackets] at h
    · simp at h
    obtain rfl := Option.some.inj h
    have hpop : w.Did w.engine { w with packets := rest } := .of_eq rfl rfl
    exact (hpop.trans (takePacket_did _ _ _)).trans (afterSelect_did _)
  | hangup =>
    simp only [select] at h
    split_ifs at h
    obtain rfl := Option.some.inj h
    exact w.finish_did _
  | packetHangup | timeout =>
    simp only [select] at h
    split_ifs at h
    obtain rfl := Option.some.inj h
    exact w.afterSelect_did
  | wake =>
    simp only [select] at h
    split_ifs at h
    obtain rfl := Option.some.inj h
    exact (Did.of_eq rfl rfl : w.Did w.engine { w with wake := false }).trans (afterSelect_did _)

/-- **One action of the thread** is a trace of the world. -/
lemma act_traces {action : Action} (h : w.act action = some v) :
    ∃ es, v.log = w.log ++ es ∧ (threadWorld w.engine).Traces w.world es v.world := by
  suffices hdid : w.Did w.engine v from hdid
  cases action with
  | select choice =>
    simp only [act] at h
    split_ifs at h
    exact select_did h
  | advance =>
    simp only [act] at h
    split at h
    · next left _ =>
      obtain rfl := Option.some.inj h
      unfold drain
      split
      · exact (Did.of_eq rfl rfl : w.Did w.engine _).trans (takePacket_did _ _ _)
      · exact .of_eq rfl rfl
    · obtain rfl := Option.some.inj h
      exact w.stepEngine_did
    · obtain rfl := Option.some.inj h
      exact w.checkFailed_did
    · simp at h

end Worker

end Ovpnlane
