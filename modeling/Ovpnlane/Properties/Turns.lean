import Ovpnlane.Properties.Replies

/-!
# What an action of the thread does

`Worker.Turn` says once what an action of the thread does to the engine, the two queues and the
log.  What happens inside the engine is the method that was called, and it has a rule of its own
(`Machine.connect_rule`, `Machine.step_rule`); of the entries it adds to the log only this is said,
that none is about a packet or a new engine.
-/

namespace Ovpnlane

variable {B : Backend} {C : NetContract B}

/-! ## The device -/

/-- What a step does to the device: two polls of the interface. -/
def Engine.Serves (e e' : Engine B) : Prop :=
  ∃ device net, e.device.Polled B e.net device ∧ device.Polled B net e'.device

namespace Machine

variable {m m' : Machine B} {now : Instant}

lemma Dialed.device {ip : IpAddr} {port : ℕ} {reply : Reply} {deadline : Instant}
    (hd : Dialed C m ip port reply deadline m') : m'.engine.device = m.engine.device := by
  cases hd with
  | refused _ _ _ _ _ _ hengine | opened _ _ _ _ _ _ _ _ _ _ _ _ _ hengine => rw [hengine]

lemma LookupVisit.device {lookup : Lookup} {w : Verdict Lookup}
    (hv : LookupVisit C now m lookup m' w) : m'.engine.device = m.engine.device := by
  cases hv with
  | expired _ _ _ _ _ hengine | pending _ _ _ hengine | failed _ _ _ _ _ _ _ hengine
  | again _ _ _ _ _ _ _ _ _ _ hengine => rw [hengine]
  | resolved m₁ _ _ _ _ _ hengine _ hdial => rw [hdial.device, hengine]

lemma FlowVisit.device {flow : Flow B} {w : Verdict (Flow B)}
    (hv : FlowVisit C now m flow m' w) : m'.engine.device = m.engine.device := by
  cases hv with
  | kept _ _ _ _ _ hengine | dropped _ _ _ _ _ hengine => rw [hengine]

/-- A request leaves the incoming packets alone. -/
lemma connect_device {target : Target} {port : ℕ} {reply : Reply} (h : m.engine.Valid C)
    (hok : m.connect target port reply = .ok m') : m'.engine.device = m.engine.device := by
  obtain ⟨m'', hok', hrequested, -⟩ := connect_rule h target port reply
  obtain rfl := Except.ok.inj (hok.symm.trans hok')
  cases hrequested with
  | gone hengine | full _ _ hengine | refused _ _ _ _ _ _ _ hengine
  | lookedUp _ _ _ _ _ _ _ hengine => rw [hengine]
  | dialed _ _ _ _ _ hengine _ hdial => rw [hdial.device, hengine]

/-- A step takes packets from the device in its two polls of the interface only. -/
lemma step_serves (h : m.engine.Valid C) (hok : m.step = .ok m') : m.engine.Serves m'.engine := by
  have hserviced : ∀ {s s' : Machine B}, Serviced C s s' →
      s.engine.device.Polled B s.engine.net s'.engine.device := by
    rintro s s' ⟨_, _, _, hengine, -, -, -, hpolled⟩
    rwa [hengine]
  obtain ⟨m'', _, s, l, hok', -, hs, hend⟩ :=
    @step_rule B C m (fun _ s _ _ => m.engine.device.Polled B m.engine.net s.engine.device)
      (fun _ s _ _ => m.engine.device.Polled B m.engine.net s.engine.device) h
      (fun _ s hstart => show m.engine.device.Polled B _ s.engine.device from hserviced hstart)
      (fun _ _ _ _ _ _ w _ hL hv => w.after_of_forall fun _ _ => by rwa [hv.device])
      (fun _ _ _ _ hL => hL)
      (fun _ _ _ _ _ _ w _ hF hv => w.after_of_forall fun _ _ => by rwa [hv.device])
  obtain rfl := Except.ok.inj (hok.symm.trans hok')
  exact ⟨(s.setFlows l).engine.device, (s.setFlows l).engine.net, hs, hserviced hend⟩

end Machine

/-! ## What an entry says about packets -/

namespace WorkerEvent

/-- The packet an entry takes from the queue, with its tag. -/
def dequeues : WorkerEvent B → List (ℕ × Packet)
  | .dequeued tag packet _ => [(tag, packet)]
  | _ => []

/-- The packet an entry takes from the queue while the engine of its generation is current. -/
def due : WorkerEvent B → List (ℕ × Packet)
  | .dequeued tag packet current => if current = some tag then [(tag, packet)] else []
  | _ => []

/-- The packet an entry appends to an engine's incoming queue, with the engine's generation. -/
def pushes : WorkerEvent B → List (ℕ × Packet)
  | .pushed generation packet => [(generation, packet)]
  | _ => []

/-- The packets the last engine built has been given. -/
def given (packets : List Packet) : WorkerEvent B → List Packet
  | .built _ => []
  | .pushed _ packet => packets ++ [packet]
  | _ => packets

/-- Whether an entry is about packets or a new engine. -/
def isTransport : WorkerEvent B → Bool
  | .built _ | .dequeued .. | .pushed .. => true
  | _ => false

lemma not_transport {es : List (WorkerEvent B)} (h : ∀ e ∈ es, e.isTransport = false) :
    es.flatMap dequeues = [] ∧ es.flatMap due = [] ∧ es.flatMap pushes = [] ∧
      ∀ packets, es.foldl given packets = packets := by
  induction es with
  | nil => simp
  | cons e es ih =>
    obtain ⟨he, hes⟩ := List.forall_mem_cons.mp h
    obtain ⟨h₁, h₂, h₃, h₄⟩ := ih hes
    cases e with
    | built | dequeued | pushed => simp [isTransport] at he
    | _ => simp [dequeues, due, pushes, given, h₁, h₂, h₃, h₄]

end WorkerEvent

/-! ## What an action of the thread does -/

namespace Worker

variable {w w' : Worker B}

/-- What processing a command does to the engine, with the entries it leaves; `limit` is the
worker's. -/
inductive Processed (limit : ℕ) (engine : Option (ℕ × Engine B)) :
    Command → Option (ℕ × Engine B) → List (WorkerEvent B) → Prop
  | online (generation : ℕ) (settings : Settings) (sink : SinkId) (e : Engine B)
      (es : List (WorkerEvent B)) (hes : ∀ e ∈ es, e.isTransport = false)
      (hdevice : e.device.incoming = [] ∧ e.device.received = 0)
      (hempty : e.flows = [] ∧ e.lookups = []) (hlimit : e.maxConnections = limit) :
      Processed limit engine (.online generation settings sink) (some (generation, e))
        (es ++ [.built generation])
  | removed (generation : ℕ) (e : Engine B) (es : List (WorkerEvent B))
      (hes : ∀ e ∈ es, e.isTransport = false) (hengine : engine = some (generation, e)) :
      Processed limit engine (.offline generation) none es
  | late (generation : ℕ) (hengine : ∀ e, engine ≠ some (generation, e)) :
      Processed limit engine (.offline generation) engine []
  | connect (target : Target) (port : ℕ) (reply : Reply) (generation : ℕ) (e e' : Engine B)
      (es : List (WorkerEvent B)) (hes : ∀ e ∈ es, e.isTransport = false)
      (hengine : engine = some (generation, e))
      (hdevice : e'.device = e.device)
      (hcall : ∃ world m', (⟨e, world, []⟩ : Machine B).connect target port reply = .ok m' ∧
        m'.engine = e') :
      Processed limit engine (.connect target port reply) (some (generation, e')) es
  | refused (target : Target) (port : ℕ) (reply : Reply) (es : List (WorkerEvent B))
      (hes : ∀ e ∈ es, e.isTransport = false) (hengine : engine = none) :
      Processed limit engine (.connect target port reply) none es

/-- What an action of the thread does to the engine, the queues and the log. -/
inductive Turn (w w' : Worker B) : Prop
  /-- The thread goes on. -/
  | idle (hcommands : w'.commands = w.commands) (hpackets : w'.packets = w.packets)
      (hengine : w'.engine = w.engine) (hlog : w'.log = w.log) (halive : w'.alive = true)
  /-- A packet is for the current engine. -/
  | delivered (tag : ℕ) (packet : Packet) (e : Engine B) (hcommands : w'.commands = w.commands)
      (hpackets : w.packets = (tag, packet) :: w'.packets) (hengine : w.engine = some (tag, e))
      (hengine' : w'.engine = some (tag, e.pushIncoming packet))
      (hlog : w'.log = w.log ++ [.dequeued tag packet (some tag), .pushed tag packet])
      (halive : w'.alive = true)
  /-- A packet is for no engine. -/
  | discarded (tag : ℕ) (packet : Packet) (hcommands : w'.commands = w.commands)
      (hpackets : w.packets = (tag, packet) :: w'.packets)
      (hcurrent : w.engine.map Prod.fst ≠ some tag) (hengine : w'.engine = w.engine)
      (hlog : w'.log = w.log ++ [.dequeued tag packet (w.engine.map Prod.fst)])
      (halive : w'.alive = true)
  | processed (command : Command) (es : List (WorkerEvent B))
      (hcommands : w.commands = command :: w'.commands) (hpackets : w'.packets = w.packets)
      (hcommand : Processed w.config.maxConnections w.engine command w'.engine es)
      (hlog : w'.log = w.log ++ es)
      (halive : w'.alive = true)
  | stepped (generation : ℕ) (e e' : Engine B) (es : List (WorkerEvent B))
      (hcommands : w'.commands = w.commands) (hpackets : w'.packets = w.packets)
      (hengine : w.engine = some (generation, e)) (hengine' : w'.engine = some (generation, e'))
      (hserves : e.Serves e')
      (hes : ∀ e ∈ es, e.isTransport = false) (hlog : w'.log = w.log ++ es)
      (halive : w'.alive = true)
      (hcall : ∃ world m', (⟨e, world, []⟩ : Machine B).step = .ok m' ∧ m'.engine = e')
  /-- A failed engine is removed. -/
  | failed (es : List (WorkerEvent B)) (hcommands : w'.commands = w.commands)
      (hpackets : w'.packets = w.packets) (hengine : w'.engine = none)
      (hes : ∀ e ∈ es, e.isTransport = false) (hlog : w'.log = w.log ++ es)
      (halive : w'.alive = true)
  /-- The thread ends. -/
  | ended (es : List (WorkerEvent B)) (hpackets : w'.packets = []) (hengine : w'.engine = none)
      (hes : ∀ e ∈ es, e.isTransport = false) (hlog : w'.log = w.log ++ es)
      (halive : w'.alive = false)

lemma dropEngine_log (w : Worker B) :
    ∃ es, w.dropEngine.log = w.log ++ es ∧ ∀ e ∈ es, e.isTransport = false := by
  rcases hengine : w.engine with _ | ⟨generation, e⟩
  · exact ⟨[], by simp [dropEngine, hengine], by simp⟩
  · refine ⟨e.replies.map (.dropped · .engineGone) ++ [.removed generation],
      by simp [dropEngine, hengine], ?_⟩
    simp only [List.mem_append, List.mem_map, List.mem_singleton]
    rintro _ (⟨reply, -, rfl⟩ | rfl) <;> rfl

@[simp] lemma dropEngine_packets (w : Worker B) : w.dropEngine.packets = w.packets := by
  rcases hengine : w.engine with _ | ⟨generation, e⟩ <;> simp [dropEngine, hengine]

lemma finish_turn {v : Worker B} {phase : Phase} (hlog : v.log = w.log)
    (hphase : (v.finish phase).alive = false) : w.Turn (v.finish phase) := by
  obtain ⟨es, hdrop, hes⟩ := v.dropEngine_log
  refine .ended (es ++ v.queued.map (.dropped · .queueGone)) rfl (by simp [finish]) ?_ ?_ hphase
  · intro e he
    rcases List.mem_append.mp he with he | he
    · exact hes e he
    · obtain ⟨reply, -, rfl⟩ := List.mem_map.mp he
      rfl
  · rw [← List.append_assoc, ← hlog, ← hdrop]
    simp [finish, queued]

lemma takePacket_turn {v : Worker B} {tag : ℕ} {packet : Packet}
    (hcommands : v.commands = w.commands) (hpackets : w.packets = (tag, packet) :: v.packets)
    (hengine : v.engine = w.engine) (hlog : v.log = w.log) (halive : v.alive = true) :
    w.Turn (v.takePacket tag packet) := by
  have halive' : (v.takePacket tag packet).alive = true :=
    (alive_of_phase (v.takePacket_frame tag packet).1).trans halive
  revert halive'
  unfold takePacket
  rcases hv : v.engine with _ | ⟨generation, e⟩
  · intro halive'
    have hw : w.engine = none := hengine.symm.trans hv
    exact .discarded tag packet hcommands hpackets (by simp [hw]) (by simp [hw])
      (by simp [hlog, hw]) halive'
  have hw : w.engine = some (generation, e) := hengine.symm.trans hv
  simp only
  split_ifs with htag
  · intro halive'
    subst htag
    exact .delivered tag packet e hcommands hpackets hw rfl (by simp [hlog]) halive'
  · intro halive'
    exact .discarded tag packet hcommands hpackets (by simpa [hw] using Ne.symm htag)
      (by simp [hw]) (by simp [hlog, hw]) halive'

/-- Only the phase differs. -/
lemma Turn.afterSelect (h : w.Turn w') : w.Turn w'.afterSelect := by
  by_cases halive : w'.alive = true
  · have heq : w'.afterSelect =
        { w' with phase := if w'.engine.isSome then .drain packetBatch else .select } := by
      rw [Worker.afterSelect, if_pos halive]
    have halive' : w'.afterSelect.alive = true := by
      rw [heq, alive]
      split_ifs <;> rfl
    rw [heq] at halive' ⊢
    cases h with
    | idle h₁ h₂ h₃ h₄ => exact .idle h₁ h₂ h₃ h₄ halive'
    | delivered tag packet e h₁ h₂ h₃ h₄ h₅ => exact .delivered tag packet e h₁ h₂ h₃ h₄ h₅ halive'
    | discarded tag packet h₁ h₂ h₃ h₄ h₅ => exact .discarded tag packet h₁ h₂ h₃ h₄ h₅ halive'
    | processed command es h₁ h₂ h₃ h₄ => exact .processed command es h₁ h₂ h₃ h₄ halive'
    | stepped generation e e' es h₁ h₂ h₃ h₄ h₅ h₆ h₇ _ hcall =>
      exact .stepped generation e e' es h₁ h₂ h₃ h₄ h₅ h₆ h₇ halive' hcall
    | failed es h₁ h₂ h₃ h₄ h₅ => exact .failed es h₁ h₂ h₃ h₄ h₅ halive'
    | ended _ _ _ _ _ hdead => simp [hdead] at halive
  · rwa [Worker.afterSelect, if_neg halive]

lemma online_turn {v : Worker B} {generation : ℕ} {settings : Settings} {sink : SinkId}
    {nextPort : ℕ} (hcommands : w.commands = .online generation settings sink :: v.commands)
    (hpackets : v.packets = w.packets) (hconfig : v.config = w.config) (hlog : v.log = w.log)
    (halive : v.alive = true) :
    w.Turn (v.online generation settings sink nextPort) := by
  unfold online
  split
  · exact finish_turn hlog rfl
  · next e hnew =>
    obtain ⟨_, _, _, _, -, -, -, rfl⟩ := Engine.new_eq_ok hnew
    obtain ⟨es, hdrop, hes⟩ := v.dropEngine_log
    refine .processed (.online generation settings sink) (es ++ [.built generation]) ?_ ?_
      (.online generation settings sink _ es hes ⟨rfl, rfl⟩ ⟨rfl, rfl⟩
        (congrArg WorkerConfig.maxConnections hconfig)) ?_ ?_
    · simpa using hcommands
    · simpa using hpackets
    · simp [hdrop, hlog]
    · exact (alive_of_phase v.dropEngine_phase).trans halive

lemma offline_turn {v : Worker B} {generation : ℕ}
    (hcommands : w.commands = .offline generation :: v.commands) (hpackets : v.packets = w.packets)
    (hengine : v.engine = w.engine) (hlog : v.log = w.log) (halive : v.alive = true) :
    w.Turn (v.offline generation) := by
  unfold offline
  rcases hv : v.engine with _ | ⟨current, e⟩
  · simp only
    exact .processed _ [] hcommands hpackets (hengine ▸ .late generation (by simp [hv]))
      (by simp [hlog]) halive
  simp only
  split_ifs with hcurrent
  · subst hcurrent
    obtain ⟨es, hdrop, hes⟩ := v.dropEngine_log
    refine .processed (.offline current) es ?_ ?_ ?_ ?_ ?_
    · simpa using hcommands
    · simpa using hpackets
    · rw [dropEngine_engine]
      exact .removed current e es hes (hengine.symm.trans hv)
    · rw [hdrop, hlog]
    · exact (alive_of_phase v.dropEngine_phase).trans halive
  · refine .processed _ [] hcommands hpackets (hengine ▸ .late generation fun e' he' => hcurrent ?_)
      (by simp [hlog]) halive
    rw [hv] at he'
    exact (Prod.mk.inj (Option.some.inj he')).1

lemma connect_turn {v : Worker B} {target : Target} {port : ℕ} {reply : Reply}
    (hvalid : ∀ g e, v.engine = some (g, e) → e.Valid C)
    (hcommands : w.commands = .connect target port reply :: v.commands)
    (hpackets : v.packets = w.packets) (hengine : v.engine = w.engine) (hlog : v.log = w.log)
    (halive : v.alive = true) : w.Turn (v.connect target port reply) := by
  unfold connect
  rcases hv : v.engine with _ | ⟨generation, e⟩
  · have hrefused : ∀ delivered,
      Processed w.config.maxConnections w.engine (.connect target port reply) none
        [.refused reply delivered] := fun _ =>
      .refused target port reply _ (List.forall_mem_singleton.mpr rfl) (hengine.symm.trans hv)
    exact .processed _ _ hcommands hpackets (hrefused _) (by rw [hlog]) halive
  · obtain ⟨m', es, deadline, new, hok, -, -, -, -, -⟩ :=
      @Machine.connect_handled B C ⟨e, v.world, []⟩ (hvalid generation e hv) target port reply
    have hdevice := Machine.connect_device (hvalid generation e hv) hok
    simp only [onEngine, hok, Except.map]
    refine .processed _ (m'.log.map (.engine generation)) hcommands hpackets
      (.connect target port reply generation e m'.engine _ ?_ (hengine.symm.trans hv)
        hdevice ⟨_, m', hok, rfl⟩) (by simp [hlog]) halive
    intro x hx
    obtain ⟨y, -, rfl⟩ := List.mem_map.mp hx
    rfl

/-! ### The configuration -/

lemma finish_config (w : Worker B) (phase : Phase) : (w.finish phase).config = w.config :=
  w.dropEngine_config

lemma onEngine_config {generation : ℕ} {e : Engine B}
    {method : Machine B → Except Fault (Machine B)}
    (h : w.onEngine generation e method = .ok w') : w'.config = w.config := by
  obtain ⟨m, -, rfl⟩ := except_map_eq_ok.mp h
  rfl

lemma online_config (w : Worker B) (generation : ℕ) (settings : Settings) (sink : SinkId)
    (nextPort : ℕ) : (w.online generation settings sink nextPort).config = w.config := by
  unfold online
  split
  · exact w.finish_config _
  · exact w.dropEngine_config

lemma offline_config (w : Worker B) (generation : ℕ) :
    (w.offline generation).config = w.config := by
  unfold offline
  split
  · split_ifs
    · exact w.dropEngine_config
    · rfl
  · rfl

lemma connect_config (w : Worker B) (target : Target) (port : ℕ) (reply : Reply) :
    (w.connect target port reply).config = w.config := by
  unfold connect
  split
  · split
    · next hok => exact onEngine_config hok
    · exact finish_config _ _
  · rfl

lemma afterSelect_config (w : Worker B) : w.afterSelect.config = w.config := by
  unfold afterSelect
  split_ifs <;> rfl

lemma checkFailed_config (w : Worker B) : w.checkFailed.config = w.config := by
  unfold checkFailed
  simp only
  split_ifs
  · exact w.dropEngine_config
  · rfl

lemma stepEngine_config (w : Worker B) : w.stepEngine.config = w.config := by
  unfold stepEngine
  split
  · rfl
  · split
    · next w₁ hok => exact (onEngine_config hok : w₁.config = w.config)
    · exact w.finish_config _

lemma select_config {choice : Choice} (h : w.select choice = some w') : w'.config = w.config := by
  cases choice with
  | command nextPort =>
    rcases hcommands : w.commands with _ | ⟨command, rest⟩ <;> simp only [select, hcommands] at h
    · simp at h
    obtain rfl := Option.some.inj h
    rw [afterSelect_config]
    cases command with
    | online => exact online_config _ _ _ _ _
    | offline => exact offline_config _ _
    | connect => exact connect_config _ _ _ _
    | shutdown => exact finish_config _ _
  | packet =>
    rcases hpackets : w.packets with _ | ⟨⟨tag, packet⟩, rest⟩ <;>
      simp only [select, hpackets] at h
    · simp at h
    obtain rfl := Option.some.inj h
    rw [afterSelect_config]
    exact (takePacket_frame _ _ _).2.1
  | hangup =>
    simp only [select] at h
    split_ifs at h
    obtain rfl := Option.some.inj h
    exact w.finish_config _
  | packetHangup | wake | timeout =>
    simp only [select] at h
    split_ifs at h
    obtain rfl := Option.some.inj h
    exact afterSelect_config _

/-- No action changes the configuration. -/
lemma act_config {action : Action} (h : w.act action = some w') : w'.config = w.config := by
  cases action with
  | select choice =>
    simp only [act] at h
    split_ifs at h
    exact select_config h
  | advance =>
    simp only [act] at h
    split at h
    · obtain rfl := Option.some.inj h
      unfold drain
      split
      · exact (takePacket_frame _ _ _).2.1
      · rfl
    · obtain rfl := Option.some.inj h
      exact w.stepEngine_config
    · obtain rfl := Option.some.inj h
      exact w.checkFailed_config
    · simp at h

/-! ### The inversion -/

/-- **What an action of the thread does.** -/
lemma act_turn {action : Action} (h : w.Sound C) (hact : w.act action = some w') : w.Turn w' := by
  cases action with
  | select choice =>
    simp only [act] at hact
    split_ifs at hact with hphase
    have halive : w.alive = true := by simp [alive, hphase]
    have hidle : w.Turn w := .idle rfl rfl rfl rfl halive
    cases choice with
    | command nextPort =>
      rcases hcommands : w.commands with _ | ⟨command, rest⟩ <;>
        simp only [select, hcommands] at hact
      · simp at hact
      obtain rfl := Option.some.inj hact
      apply Turn.afterSelect
      cases command with
      | online generation settings sink => exact online_turn hcommands rfl rfl rfl halive
      | offline generation => exact offline_turn hcommands rfl rfl rfl halive
      | connect target port reply => exact connect_turn h.valid hcommands rfl rfl rfl halive
      | shutdown => exact finish_turn rfl rfl
    | hangup =>
      simp only [select] at hact
      split_ifs at hact
      obtain rfl := Option.some.inj hact
      exact finish_turn rfl rfl
    | packet =>
      rcases hpackets : w.packets with _ | ⟨⟨tag, packet⟩, rest⟩ <;>
        simp only [select, hpackets] at hact
      · simp at hact
      obtain rfl := Option.some.inj hact
      have htake : w.Turn (({ w with packets := rest } : Worker B).takePacket tag packet) :=
        takePacket_turn rfl hpackets rfl rfl halive
      exact htake.afterSelect
    | packetHangup | timeout =>
      simp only [select] at hact
      split_ifs at hact
      obtain rfl := Option.some.inj hact
      exact hidle.afterSelect
    | wake =>
      simp only [select] at hact
      split_ifs at hact
      obtain rfl := Option.some.inj hact
      exact (Turn.idle rfl rfl rfl rfl halive : w.Turn { w with wake := false }).afterSelect
  | advance =>
    simp only [act] at hact
    split at hact
    · next left hphase =>
      obtain rfl := Option.some.inj hact
      unfold drain
      split
      · next left tag packet rest hpackets => exact takePacket_turn rfl hpackets rfl rfl rfl
      · exact .idle rfl rfl rfl rfl rfl
    · next hphase =>
      obtain rfl := Option.some.inj hact
      rcases hengine : w.engine with _ | ⟨generation, e⟩
      · have heq : w.stepEngine = { w with phase := .check } := by rw [stepEngine, hengine]
        rw [heq]
        exact .idle rfl rfl rfl rfl rfl
      · obtain ⟨m', _, _, hok, -⟩ :=
          @Machine.step_handled B C ⟨e, w.world, []⟩ (h.valid generation e hengine)
        have hserves := Machine.step_serves (h.valid generation e hengine) hok
        have heq : w.stepEngine = { w with
            engine := some (generation, m'.engine), world := m'.world, phase := .check
            log := w.log ++ m'.log.map (.engine generation) } := by
          simp only [stepEngine, hengine, onEngine, hok, Except.map]
        rw [heq]
        refine .stepped generation e m'.engine _ rfl rfl hengine rfl hserves ?_ rfl rfl
          ⟨_, m', hok, rfl⟩
        intro x hx
        obtain ⟨y, -, rfl⟩ := List.mem_map.mp hx
        rfl
    · next hphase =>
      obtain rfl := Option.some.inj hact
      unfold checkFailed
      simp only
      split_ifs
      · obtain ⟨es, hdrop, hes⟩ := w.dropEngine_log
        exact .failed es (by simp) (by simp) (by simp) hes hdrop rfl
      · exact .idle rfl rfl rfl rfl rfl
    · simp at hact

end Worker

end Ovpnlane
