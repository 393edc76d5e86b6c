import Ovpnlane.Properties.Turns
import Ovpnlane.Construction.Vpn

/-!
# Generations keep sessions apart

Packets and commands reach the worker through two queues without a common order, and the handler's
callbacks run while the worker does.  Every packet carries the generation it was accepted in, every
engine the generation it was built for.

From what an action of the thread does (`Worker.Turn`) come the two results: in every run packets
only reach the engine of their generation, in the order they were accepted (`Vpn.Isolated`); and
when the callbacks run one at a time, an engine exists only as long as the commands the worker has
processed leave its generation up (`Vpn.Settled`).
-/

namespace Ovpnlane

variable {B : Backend} {C : NetContract B}

/-! ## Packets -/

/-- The queue has the packets that were given to the device, less those it has handed over. -/
def PacketDevice.HeldOf (d : PacketDevice) (packets : List Packet) : Prop :=
  d.received ≤ packets.length ∧ d.incoming = packets.drop d.received

lemma PacketDevice.heldOf_nil {d : PacketDevice} (hincoming : d.incoming = [])
    (hreceived : d.received = 0) : d.HeldOf [] := by simp [HeldOf, hincoming, hreceived]

/-- A poll of the interface hands over the packets it takes. -/
lemma PacketDevice.HeldOf.polled {net : B.Net} {d d' : PacketDevice} {packets : List Packet}
    (h : d.HeldOf packets) (hpolled : d.Polled B net d') : d'.HeldOf packets := by
  obtain ⟨hle, hincoming⟩ := h
  obtain ⟨_, asked, -, hincoming', hreceived⟩ := hpolled
  have hlength : d.incoming.length = packets.length - d.received := by simp [hincoming]
  refine ⟨by omega, ?_⟩
  rw [hincoming', hincoming, List.drop_drop, hreceived]
  by_cases hasked : asked ≤ d.incoming.length
  · rw [Nat.min_eq_left hasked]
  · rw [List.drop_eq_nil_of_le (by omega), List.drop_eq_nil_of_le (by omega)]

lemma Engine.Serves.held {e e' : Engine B} {packets : List Packet} (h : e.Serves e')
    (hheld : e.device.HeldOf packets) : e'.device.HeldOf packets := by
  obtain ⟨_, _, hfirst, hsecond⟩ := h
  exact (hheld.polled hfirst).polled hsecond

lemma PacketDevice.HeldOf.push {e : Engine B} {packets : List Packet}
    (h : e.device.HeldOf packets) (packet : Packet) :
    (e.pushIncoming packet).device.HeldOf (packets ++ [packet]) := by
  obtain ⟨hle, hincoming⟩ := h
  refine ⟨by simpa [Engine.pushIncoming] using Nat.le_succ_of_le hle, ?_⟩
  simp [Engine.pushIncoming, hincoming, List.drop_append_of_le_length hle]

/-- What may happen to the device of an engine: nothing, or packets are appended to its queue, or
its step takes packets from the front, or the engine is a new one. -/
inductive Engine.Moved (e e' : Engine B) : Prop
  | kept (hreceived : e'.device.received = e.device.received)
      (hincoming : e.device.incoming <+: e'.device.incoming)
  | stepped (hserves : e.Serves e')
  | built (hreceived : e'.device.received = 0) (hincoming : e'.device.incoming = [])

lemma Engine.Moved.of_eq {e e' : Engine B} (h : e'.device = e.device) : e.Moved e' :=
  .kept (by rw [h]) (by rw [h])

namespace Worker

variable {w w' : Worker B}

/-- Packets reach the engine of their generation and no other. -/
structure Delivers (w : Worker B) : Prop where
  /-- Exactly the packets dequeued while their engine is current are appended to its queue. -/
  appended : w.log.flatMap WorkerEvent.pushes = w.log.flatMap WorkerEvent.due
  /-- The engine has what it was given, less what it has handed over from the front. -/
  incoming : ∀ g e, w.engine = some (g, e) →
    e.device.HeldOf (w.log.foldl WorkerEvent.given [])

/-- Entries that are not about packets. -/
lemma Delivers.quiet {es : List (WorkerEvent B)} (h : w.Delivers)
    (hes : ∀ e ∈ es, e.isTransport = false) (hlog : w'.log = w.log ++ es)
    (hincoming : ∀ g e', w'.engine = some (g, e') → ∃ e, w.engine = some (g, e) ∧
      ∀ packets, e.device.HeldOf packets → e'.device.HeldOf packets) : w'.Delivers := by
  obtain ⟨-, hdue, hpushes, hgiven⟩ := WorkerEvent.not_transport hes
  constructor
  · rw [hlog, List.flatMap_append, List.flatMap_append, hdue, hpushes, h.appended]
  · intro g e' he'
    obtain ⟨e, he, hheld⟩ := hincoming g e' he'
    rw [hlog, List.foldl_append, hgiven]
    exact hheld _ (h.incoming g e he)

lemma Turn.delivers (h : w.Turn w') (hd : w.Delivers) : w'.Delivers := by
  cases h with
  | idle _ _ hengine hlog =>
    exact @Delivers.quiet B w w' [] hd (by simp) (by simp [hlog]) fun g e he =>
      ⟨e, hengine ▸ he, fun _ => id⟩
  | delivered tag packet e _ _ hengine hengine' hlog =>
    constructor
    · simp [hlog, hd.appended, WorkerEvent.pushes, WorkerEvent.due]
    · intro g e' he'
      obtain ⟨rfl, rfl⟩ : tag = g ∧ e.pushIncoming packet = e' := by
        simpa [hengine'] using he'
      simpa [hlog, WorkerEvent.given] using (hd.incoming tag e hengine).push packet
  | discarded tag packet _ _ hcurrent hengine hlog =>
    constructor
    · simp [hlog, hd.appended, WorkerEvent.pushes, WorkerEvent.due, hcurrent]
    · intro g e he
      simpa [hlog, WorkerEvent.given] using hd.incoming g e (hengine ▸ he)
  | processed command es _ _ hcommand hlog =>
    generalize hengine' : w'.engine = engine' at hcommand
    cases hcommand with
    | online generation settings sink e es hes hdevice =>
      obtain ⟨-, hdue, hpushes, -⟩ := WorkerEvent.not_transport hes
      constructor
      · simp only [hlog, List.flatMap_append, hdue, hpushes, hd.appended]
        rfl
      · intro g e' he'
        obtain ⟨rfl, rfl⟩ : generation = g ∧ e = e' := by simpa [hengine'] using he'
        simpa [hlog, WorkerEvent.given] using PacketDevice.heldOf_nil hdevice.1 hdevice.2
    | removed generation e es hes | refused target port reply es hes =>
      exact hd.quiet hes hlog (by simp [hengine'])
    | late generation =>
      exact hd.quiet (by simp) hlog fun g e he => ⟨e, hengine' ▸ he, fun _ => id⟩
    | connect target port reply generation e e' es hes hengine hdevice =>
      refine hd.quiet hes hlog fun g e'' he'' => ?_
      obtain ⟨rfl, rfl⟩ : generation = g ∧ e' = e'' := by simpa [hengine'] using he''
      exact ⟨e, hengine, fun _ => hdevice ▸ id⟩
  | stepped generation e e' es _ _ hengine hengine' hserves hes hlog =>
    refine hd.quiet hes hlog fun g e'' he'' => ?_
    obtain ⟨rfl, rfl⟩ : generation = g ∧ e' = e'' := by simpa [hengine'] using he''
    exact ⟨e, hengine, fun _ => hserves.held⟩
  | failed es _ _ hengine hes hlog | ended es _ hengine hes hlog =>
    exact hd.quiet hes hlog (by simp [hengine])

/-- Only a step takes packets out of the queue of an engine. -/
lemma Turn.moved (h : w.Turn w') {g g' : ℕ} {e e' : Engine B} (he : w.engine = some (g, e))
    (he' : w'.engine = some (g', e')) : e.Moved e' := by
  cases h with
  | idle _ _ hengine | discarded _ _ _ _ _ hengine =>
    obtain ⟨rfl, rfl⟩ : g' = g ∧ e' = e := by simpa [he, he'] using hengine
    exact .of_eq rfl
  | delivered tag packet e₀ _ _ hengine hengine' =>
    obtain ⟨rfl, rfl⟩ : g = tag ∧ e = e₀ := by simpa [he] using hengine
    obtain ⟨rfl, rfl⟩ : g' = g ∧ e' = e.pushIncoming packet := by simpa [he'] using hengine'
    exact .kept rfl (List.prefix_append _ _)
  | processed command es _ _ hcommand =>
    rw [he, he'] at hcommand
    generalize hbefore : some (g, e) = before at hcommand
    generalize hafter : some (g', e') = after at hcommand
    cases hcommand with
    | online _ _ _ _ _ _ hdevice =>
      obtain ⟨-, rfl⟩ : g' = _ ∧ e' = _ := by simpa using hafter
      exact .built hdevice.2 hdevice.1
    | late =>
      obtain ⟨-, rfl⟩ : g' = g ∧ e' = e := by simpa [← hbefore] using hafter
      exact .of_eq rfl
    | removed | refused => simp at hafter
    | connect _ _ _ _ e₀ _ _ _ hengine hdevice =>
      obtain ⟨-, rfl⟩ : g = _ ∧ e = e₀ := by simpa [← hbefore] using hengine
      obtain ⟨-, rfl⟩ : g' = _ ∧ e' = _ := by simpa using hafter
      exact .of_eq hdevice
  | stepped _ e₁ e₂ _ _ _ hengine hengine' hserves =>
    obtain ⟨-, rfl⟩ : g = _ ∧ e = e₁ := by simpa [he] using hengine
    obtain ⟨-, rfl⟩ : g' = _ ∧ e' = e₂ := by simpa [he'] using hengine'
    exact .stepped hserves
  | failed _ _ _ hengine | ended _ _ hengine => simp [he'] at hengine

/-- The packets are dequeued in order. -/
lemma Turn.dequeues (h : w.Turn w') :
    w'.alive = true → w'.log.flatMap WorkerEvent.dequeues ++ w'.packets =
      w.log.flatMap WorkerEvent.dequeues ++ w.packets := by
  intro halive
  cases h with
  | idle _ hpackets _ hlog => rw [hpackets, hlog]
  | delivered tag packet e _ hpackets _ _ hlog | discarded tag packet _ hpackets _ _ hlog =>
    simp [hlog, hpackets, WorkerEvent.dequeues]
  | processed command es _ hpackets hcommand hlog =>
    have hnone : es.flatMap WorkerEvent.dequeues = [] := by
      generalize w'.engine = engine' at hcommand
      cases hcommand with
      | online generation settings sink e es hes =>
        rw [List.flatMap_append, (WorkerEvent.not_transport hes).1]
        rfl
      | removed _ _ _ hes | connect _ _ _ _ _ _ _ hes | refused _ _ _ _ hes =>
        exact (WorkerEvent.not_transport hes).1
      | late => rfl
    rw [hpackets, hlog, List.flatMap_append, hnone, List.append_nil]
  | stepped _ _ _ es _ hpackets _ _ _ hes hlog | failed es _ hpackets _ hes hlog =>
    rw [hpackets, hlog, List.flatMap_append, (WorkerEvent.not_transport hes).1, List.append_nil]
  | ended _ _ _ _ _ hdead => simp [hdead] at halive

/-- A thread that ends dequeues nothing more. -/
lemma Turn.dequeues_of_ended (h : w.Turn w') (hdead : w'.alive = false) :
    w'.log.flatMap WorkerEvent.dequeues = w.log.flatMap WorkerEvent.dequeues ∧
      w'.packets = [] := by
  cases h with
  | ended es hpackets _ hes hlog =>
    exact ⟨by rw [hlog, List.flatMap_append, (WorkerEvent.not_transport hes).1, List.append_nil],
      hpackets⟩
  | idle _ _ _ _ halive | delivered _ _ _ _ _ _ _ _ halive | discarded _ _ _ _ _ _ _ halive
  | processed _ _ _ _ _ _ halive | stepped _ _ _ _ _ _ _ _ _ _ _ halive
  | failed _ _ _ _ _ _ halive => simp [hdead] at halive

/-- What sending a command leaves alone. -/
lemma send_frame (w : Worker B) (command : Command) :
    (Tunnel.send w command).1.engine = w.engine ∧ (Tunnel.send w command).1.packets = w.packets ∧
      (Tunnel.send w command).1.phase = w.phase ∧
      (Tunnel.send w command).1.commands =
        (if w.alive then w.commands ++ [command] else w.commands) ∧
      ∃ es, (Tunnel.send w command).1.log = w.log ++ es ∧ ∀ e ∈ es, e.isTransport = false := by
  unfold Tunnel.send
  split_ifs with halive
  · exact ⟨rfl, rfl, rfl, rfl, [], by simp, by simp⟩
  · refine ⟨rfl, rfl, rfl, rfl, _, rfl, fun e he => ?_⟩
    obtain ⟨reply, -, rfl⟩ := List.mem_map.mp he
    rfl

/-- A packet is queued or refused. -/
lemma receive_frame (w : Worker B) (generation : ℕ) (packet : Packet) :
    (Tunnel.receive w generation packet).1 = { w with packets := w.packets ++
        if (Tunnel.receive w generation packet).2 then [(generation, packet)] else [] } ∧
      ((Tunnel.receive w generation packet).2 = true → w.alive = true) := by
  by_cases haccept : (decide (packet.length ≤ 65535) && w.alive &&
      decide (w.packets.length < maxPackets)) = true
  · have heq : Tunnel.receive w generation packet =
        ({ w with packets := w.packets ++ [(generation, packet)] }, true) := if_pos haccept
    simp only [Bool.and_eq_true] at haccept
    rw [heq]
    exact ⟨rfl, fun _ => haccept.1.2⟩
  · have heq : Tunnel.receive w generation packet = (w, false) := if_neg haccept
    rw [heq]
    exact ⟨by simp, by simp⟩

/-- Only a thread that is alive acts. -/
lemma alive_of_act {action : Action} (h : w.act action = some w') :
    w.alive = true := by
  cases action with
  | select choice =>
    simp only [act] at h
    split_ifs at h with hphase
    simp [alive, hphase]
  | advance =>
    rcases hphase : w.phase <;> simp_all [act, alive]

end Worker

/-! ## The worker of every run -/

namespace Stack

/-- A thread that has ended does not come back. -/
lemma alive_of_act {s t : Stack B} {a : StackAct B} (hact : s.act a = some t)
    (halive : t.worker.alive = true) : s.worker.alive = true := by
  cases a with
  | thread action =>
    simp only [Stack.act] at hact
    split_ifs at hact
    obtain ⟨w, hw, -⟩ := Option.map_eq_some_iff.mp hact
    exact Worker.alive_of_act hw
  | send command =>
    simp only [Stack.act] at hact
    split_ifs at hact
    obtain rfl := Option.some.inj hact
    exact (Worker.alive_of_phase (s.worker.send_frame command).2.2.1).symm.trans halive
  | receive generation packet =>
    obtain rfl := Option.some.inj hact
    rwa [(s.worker.receive_frame generation packet).1] at halive
  | wake =>
    obtain rfl := Option.some.inj hact
    unfold Tunnel.wake at halive
    split_ifs at halive <;> exact halive
  | outside world bridge =>
    obtain rfl := Option.some.inj hact
    exact halive

end Stack

namespace Vpn

variable {v v' : Vpn B}

/-- Sending a command without a reply is an action of the stack. -/
lemma command_stack (v : Vpn B) {command : Command} (h : command.reply = none) :
    v.stack.act (.send command) = some (v.command command).1.stack := by
  simp [Stack.act, h, Vpn.command, sending]

/-- A callback, as far as the worker's stack goes. -/
def Touches (v v' : Vpn B) : Prop :=
  v'.stack = v.stack ∨ ∃ a, v.stack.act a = some v'.stack

lemma resume_touches (v : Vpn B) (activated : Bool) (starting : Starting) :
    v.Touches (v.resume activated starting).1 := by
  cases starting with
  | called options io =>
    left
    unfold resume
    simp only
    split <;> rfl
  | parsed settings io => exact .inl rfl
  | tagged generation settings io =>
    right
    refine ⟨.send (.online generation settings io), ?_⟩
    rw [v.command_stack rfl, resume, online_eq]
    rcases v.command (.online generation settings io) with ⟨v', result | error⟩ <;> rfl
  | activating generation => exact .inl rfl
  | failing generation => exact .inr ⟨_, v.command_stack rfl⟩

/-- What an action does; a `start` in progress goes on or returns. -/
inductive Acted (v : Vpn B) : VpnAct B → Vpn B → Prop
  | thread {action : Worker.Action} {w : Worker B} (hw : v.stack.worker.act action = some w) :
      Acted v (.thread action) { v with stack := { v.stack with worker := w } }
  | client {command : Command} (hclient : command.fromClient = true) :
      Acted v (.client command) { (v.command command).1 with
        stack := ⟨(Tunnel.send v.stack.worker command).1,
          v.stack.issued ++ command.reply.toList⟩ }
  | wake : Acted v .wake { v with stack := { v.stack with worker := Tunnel.wake v.stack.worker } }
  | outside (world : B.World) (bridge : Flow B → B.Stream) :
      Acted v (.outside world bridge) { v with stack := { v.stack with worker :=
        { v.stack.worker with
          engine := v.stack.worker.engine.map fun (generation, e) =>
            (generation, e.setBridges bridge)
          world := world } } }
  | configure {layer mtu : ℕ} (mtu' : ℕ) :
      Acted v (.configure layer mtu) { v with state := { v.state with mtu := mtu' } }
  | start (options : String) (io : SinkId) :
      Acted v (.start options io) { v with starts := v.starts ++ [.called options io] }
  | goesOn {i : ℕ} {activated : Bool} {starting next : Starting} {u : Vpn B}
      (hi : v.starts[i]? = some starting) (hu : v.resume activated starting = (u, some next)) :
      Acted v (.resume i activated) { u with starts := v.starts.set i next }
  | returns {i : ℕ} {activated : Bool} {starting : Starting} {u : Vpn B}
      (hi : v.starts[i]? = some starting) (hu : v.resume activated starting = (u, none)) :
      Acted v (.resume i activated) { u with starts := v.starts.eraseIdx i }
  | stop : Acted v .stop v.stop
  | send (packet : Packet) (hio : v.state.io.isSome = true) :
      Acted v (.send packet) { v with
        stack := { v.stack with
          worker := (Tunnel.receive v.stack.worker v.state.generation packet).1 }
        log := if (Tunnel.receive v.stack.worker v.state.generation packet).2 then
          v.log ++ [.accepted v.state packet] else v.log }
  | refuse (packet : Packet) : Acted v (.send packet) v

/-- The inversion of an action. -/
lemma act_acted {a : VpnAct B} (h : v.act a = some v') : v.Acted a v' := by
  cases a with
  | thread action =>
    obtain ⟨stack, hstack, rfl⟩ := Option.map_eq_some_iff.mp h
    simp only [Stack.act] at hstack
    split_ifs at hstack
    obtain ⟨w, hw, rfl⟩ := Option.map_eq_some_iff.mp hstack
    exact .thread hw
  | client command =>
    by_cases hclient : command.fromClient = true
    case neg => simp [act, hclient] at h
    rw [act, if_pos hclient] at h
    obtain ⟨u, hu, rfl⟩ := Option.map_eq_some_iff.mp h
    obtain ⟨stack, hstack, rfl⟩ := Option.map_eq_some_iff.mp hu
    simp only [Stack.act] at hstack
    split_ifs at hstack
    obtain rfl := Option.some.inj hstack
    exact .client hclient
  | wake =>
    obtain rfl := Option.some.inj h
    exact .wake
  | outside world bridge =>
    obtain rfl := Option.some.inj h
    exact .outside world bridge
  | configure layer mtu =>
    obtain rfl := Option.some.inj h
    unfold configure
    split_ifs
    · exact .configure v.state.mtu
    · exact .configure mtu
    · exact .configure 1500
  | start options io =>
    obtain rfl := Option.some.inj h
    exact .start options io
  | resume i activated =>
    obtain ⟨starting, hi, rfl⟩ := Option.map_eq_some_iff.mp h
    rcases hu : v.resume activated starting with ⟨u, _ | next⟩
    · exact .returns hi hu
    · exact .goesOn hi hu
  | stop =>
    obtain rfl := Option.some.inj h
    exact .stop
  | send packet =>
    obtain rfl := Option.some.inj h
    unfold Vpn.send
    split_ifs with hio
    · exact .send packet hio
    · exact .refuse packet

lemma act_touches {a : VpnAct B} (h : v.act a = some v') : v.Touches v' := by
  have honStack : ∀ {b : StackAct B} {u : Vpn B}, v.onStack b = some u → v.Touches u := by
    intro b u hu
    obtain ⟨stack, hstack, rfl⟩ := Option.map_eq_some_iff.mp hu
    exact .inr ⟨b, hstack⟩
  cases a with
  | thread | wake | outside => exact honStack h
  | client command =>
    by_cases hclient : command.fromClient = true
    case neg => simp [act, hclient] at h
    rw [act, if_pos hclient] at h
    obtain ⟨u, hu, rfl⟩ := Option.map_eq_some_iff.mp h
    have htouches := honStack hu
    exact htouches
  | configure =>
    cases act_acted h
    exact .inl rfl
  | start =>
    cases act_acted h
    exact .inl rfl
  | resume i activated =>
    cases act_acted h with
    | @goesOn _ _ starting _ _ _ hu | @returns _ _ starting _ _ hu =>
      have htouches := v.resume_touches activated starting
      rw [hu] at htouches
      exact htouches
  | stop =>
    cases act_acted h
    exact .inr ⟨.send (.offline v.state.generation),
      command_stack { v with state := { v.state with io := none } } rfl⟩
  | send packet =>
    cases act_acted h with
    | send => exact .inr ⟨.receive v.state.generation packet, rfl⟩
    | refuse => exact .inl rfl

lemma alive_of_act {a : VpnAct B} (hact : v.act a = some v')
    (halive : v'.stack.worker.alive = true) : v.stack.worker.alive = true := by
  rcases act_touches hact with heq | ⟨b, hb⟩
  · rwa [← heq]
  · exact Stack.alive_of_act hb halive

/-- The worker of a run of everyone is a worker among its clients. -/
lemma stack_reachable (h : (vpnSystem B).Reachable v) : (stackSystem B).Reachable v.stack := by
  refine h.invariant (I := fun v => (stackSystem B).Reachable v.stack) ?_ ?_
  · rintro v ⟨dns, stack, hinit, rfl⟩
    exact .of_init hinit
  · intro v a v' hv hact
    rcases act_touches hact with heq | ⟨b, hb⟩
    · rwa [heq]
    · exact hv.step hb

end Vpn

/-! ## Packets in order -/

/-- The packet an entry of the handler gives to the worker, with the generation it is tagged
with. -/
def VpnEvent.accepts : VpnEvent → List (ℕ × Packet)
  | .accepted state packet => [(state.generation, packet)]
  | .error .. => []

/-- The worker takes packets in the order the handler accepted them; what is left when it ends is
lost. -/
def Fifo (w : Worker B) (log : List VpnEvent) : Prop :=
  ∃ rest, log.flatMap VpnEvent.accepts =
    w.log.flatMap WorkerEvent.dequeues ++ w.packets ++ rest ∧ (w.alive = true → rest = [])

namespace Fifo

variable {w w' : Worker B} {log : List VpnEvent}

lemma of_eq (h : Fifo w log) (hdequeues : w'.log.flatMap WorkerEvent.dequeues =
    w.log.flatMap WorkerEvent.dequeues) (hpackets : w'.packets = w.packets)
    (halive : w'.alive = w.alive) : Fifo w' log := by
  obtain ⟨rest, hrest, hnone⟩ := h
  exact ⟨rest, by rw [hdequeues, hpackets, hrest], halive ▸ hnone⟩

lemma send (h : Fifo w log) (command : Command) : Fifo (Tunnel.send w command).1 log := by
  obtain ⟨-, hpackets, hphase, -, es, hlog, hes⟩ := w.send_frame command
  refine h.of_eq ?_ hpackets (Worker.alive_of_phase hphase)
  rw [hlog, List.flatMap_append, (WorkerEvent.not_transport hes).1, List.append_nil]

lemma turn (h : Fifo w log) (halive : w.alive = true)
    (hturn : w.Turn w') : Fifo w' log := by
  obtain ⟨rest, hrest, hnone⟩ := h
  obtain rfl := hnone halive
  rw [List.append_nil] at hrest
  by_cases halive' : w'.alive = true
  · exact ⟨[], by rw [hrest, ← hturn.dequeues halive', List.append_nil], fun _ => rfl⟩
  · obtain ⟨hdequeues, hpackets⟩ := hturn.dequeues_of_ended (by simpa using halive')
    exact ⟨w.packets, by rw [hrest, hdequeues, hpackets, List.append_nil],
      fun halive => absurd halive halive'⟩

lemma note (h : Fifo w log) (io : SinkId) (text : String) :
    Fifo w (log ++ [.error io text]) := by
  simpa [Fifo, VpnEvent.accepts] using h

lemma receive (h : Fifo w log) (state : VpnState) (packet : Packet) :
    Fifo (Tunnel.receive w state.generation packet).1
      (if (Tunnel.receive w state.generation packet).2 then log ++ [.accepted state packet]
        else log) := by
  obtain ⟨heq, halive⟩ := w.receive_frame state.generation packet
  rw [heq]
  split_ifs with htaken
  · obtain ⟨rest, hrest, hnone⟩ := h
    obtain rfl := hnone (halive htaken)
    refine ⟨[], ?_, fun _ => rfl⟩
    rw [List.flatMap_append, hrest, List.append_nil, List.append_nil, List.append_assoc]
    rfl
  · exact h.of_eq rfl (List.append_nil _) rfl

end Fifo

namespace Vpn

variable {v v' : Vpn B}

/-- What every action keeps about packets. -/
structure Ordered (v : Vpn B) : Prop where
  fifo : Fifo v.stack.worker v.log
  present : ∀ state packet, .accepted state packet ∈ v.log → state.io.isSome = true

lemma Ordered.note (h : v.Ordered) (io : SinkId) (text : String) :
    (v.note (.error io text)).Ordered where
  fifo := h.fifo.note io text
  present := fun state packet hmem => h.present state packet (by simpa [Vpn.note] using hmem)

lemma Ordered.command (h : v.Ordered) (command : Command) : (v.command command).1.Ordered where
  fifo := h.fifo.send command
  present := h.present

lemma Ordered.resume (h : v.Ordered) (activated : Bool) (starting : Starting) :
    (v.resume activated starting).1.Ordered := by
  cases starting with
  | called options io =>
    unfold Vpn.resume
    simp only
    split
    · exact h
    · exact h.note _ _
  | parsed settings io => exact ⟨h.fifo, h.present⟩
  | tagged generation settings io =>
    have hcommand := h.command (.online generation settings io)
    unfold Vpn.resume
    simp only [online_eq]
    rcases hv : v.command (.online generation settings io) with ⟨u, error | result⟩ <;>
      rw [hv] at hcommand
    · exact hcommand.note _ _
    · exact hcommand
  | activating generation => exact h
  | failing generation => exact h.command _

lemma Ordered.act (hkept : v.stack.Kept C) {a : VpnAct B} (h : v.Ordered)
    (hact : v.act a = some v') : v'.Ordered := by
  cases act_acted hact with
  | thread hw =>
    exact ⟨h.fifo.turn (Worker.alive_of_act hw) (Worker.act_turn hkept.sound hw), h.present⟩
  | client => exact ⟨h.fifo.send _, h.present⟩
  | wake =>
    refine ⟨?_, h.present⟩
    unfold Tunnel.wake
    split_ifs <;> exact h.fifo.of_eq rfl rfl rfl
  | outside => exact ⟨h.fifo.of_eq rfl rfl rfl, h.present⟩
  | configure | start => exact ⟨h.fifo, h.present⟩
  | @goesOn _ activated starting _ _ _ hu | @returns _ activated starting _ _ hu =>
    have hresume := h.resume activated starting
    rw [hu] at hresume
    exact ⟨hresume.fifo, hresume.present⟩
  | stop => exact ⟨h.fifo.send _, h.present⟩
  | send packet hio =>
    refine ⟨h.fifo.receive v.state packet, fun state packet' hmem => ?_⟩
    simp only at hmem
    split_ifs at hmem
    · rcases List.mem_append.mp hmem with hmem | hmem
      · exact h.present state packet' hmem
      · obtain ⟨rfl, -⟩ : state = v.state ∧ packet' = packet := by simpa using hmem
        exact hio
    · exact h.present state packet' hmem
  | refuse => exact h

end Vpn

/-! ## Callbacks one at a time -/

/-- The generation that is up after a command. -/
def Command.up : Option ℕ → Command → Option ℕ
  | _, .online generation _ _ => some generation
  | _, .offline _ => none
  | current, _ => current

/-- The generation some commands leave up: that of their last `Online`, unless an `Offline` comes
after it. -/
def upAfter (commands : List Command) : Option ℕ := commands.foldl Command.up none

/-- The generation of the last `Online` up to a command. -/
def Command.latest : Option ℕ → Command → Option ℕ
  | _, .online generation _ _ => some generation
  | current, _ => current

/-- The generation of the last `Online`. -/
def latestOf (commands : List Command) : Option ℕ := commands.foldl Command.latest none

lemma upAfter_concat (commands : List Command) (c : Command) :
    upAfter (commands ++ [c]) = c.up (upAfter commands) := by
  simp [upAfter, List.foldl_append]

lemma latestOf_concat (commands : List Command) (c : Command) :
    latestOf (commands ++ [c]) = c.latest (latestOf commands) := by
  simp [latestOf, List.foldl_append]

lemma latestOf_of_upAfter {commands : List Command} {g : ℕ} (h : upAfter commands = some g) :
    latestOf commands = some g := by
  induction commands using List.reverseRecOn with
  | nil => simp [upAfter] at h
  | append_singleton commands c ih =>
    rw [upAfter_concat] at h
    rw [latestOf_concat]
    cases c with
    | online => exact h
    | offline => simp [Command.up] at h
    | connect | shutdown => exact ih h

/-- An `Offline` is for the generation of the `Online` before it. -/
def Paired (pre : List Command) : Command → Prop
  | .offline generation => ∀ g, latestOf pre = some g → g = generation
  | _ => True

/-- The engine is of the generation the commands processed so far leave up. -/
def Current (sent : List Command) (w : Worker B) : Prop :=
  ∃ processed, sent = processed ++ w.commands ∧
    ∀ g e, w.engine = some (g, e) → upAfter processed = some g

lemma Worker.Turn.current {w w' : Worker B} {sent : List Command} (h : w.Turn w')
    (halive : w'.alive = true) (hpaired : Each Paired sent) (hcurrent : Current sent w) :
    Current sent w' := by
  obtain ⟨done, hsent, hup⟩ := hcurrent
  cases h with
  | idle hcommands _ hengine => exact ⟨done, by rw [hsent, hcommands], by rwa [hengine]⟩
  | delivered tag packet e hcommands _ hengine hengine' =>
    refine ⟨done, by rw [hsent, hcommands], fun g e' he' => ?_⟩
    obtain ⟨rfl, -⟩ : tag = g ∧ e.pushIncoming packet = e' := by simpa [hengine'] using he'
    exact hup tag e hengine
  | discarded _ _ hcommands _ _ hengine => exact ⟨done, by rw [hsent, hcommands], by rwa [hengine]⟩
  | processed command es hcommands _ hcommand =>
    rw [hcommands] at hsent
    refine ⟨done ++ [command], by rw [hsent, List.append_assoc]; rfl, ?_⟩
    rw [upAfter_concat]
    generalize w'.engine = engine' at hcommand
    cases hcommand with
    | online generation settings sink e =>
      intro g e' he'
      obtain ⟨rfl, -⟩ : generation = g ∧ e = e' := by simpa using he'
      rfl
    | removed | refused => simp
    | late generation hlate =>
      intro g e he
      have hmatch : g = generation :=
        (hsent ▸ hpaired).at g (latestOf_of_upAfter (hup g e he))
      exact absurd (hmatch ▸ he) (hlate e)
    | connect _ _ _ generation e e' _ _ hengine =>
      intro g e'' he''
      obtain ⟨rfl, -⟩ : generation = g ∧ e' = e'' := by simpa using he''
      exact hup generation e hengine
  | stepped generation e e' _ hcommands _ hengine hengine' =>
    refine ⟨done, by rw [hsent, hcommands], fun g e'' he'' => ?_⟩
    obtain ⟨rfl, -⟩ : generation = g ∧ e' = e'' := by simpa [hengine'] using he''
    exact hup generation e hengine
  | failed _ hcommands _ hengine => exact ⟨done, by rw [hsent, hcommands], by simp [hengine]⟩
  | ended _ _ _ _ _ hdead => simp [hdead] at halive

lemma Current.send {w : Worker B} {sent : List Command} (h : Current sent w)
    (halive : w.alive = true) (command : Command) :
    Current (sent ++ [command]) (Tunnel.send w command).1 := by
  obtain ⟨hengine, -, -, hcommands, -⟩ := w.send_frame command
  obtain ⟨done, hsent, hup⟩ := h
  exact ⟨done, by rw [hcommands, if_pos halive, hsent, List.append_assoc], by rwa [hengine]⟩

namespace Vpn

variable {v v' : Vpn B}

/-- The last `Online` sent was of the handler's generation. -/
def Idle (v : Vpn B) : Prop := ∀ g, latestOf v.sent = some g → g = v.state.generation

/-- At most one start is in progress, and it is about to send what its generation needs. -/
def Waits (v : Vpn B) : List Starting → Prop
  | [] | [.called ..] | [.parsed ..] => v.Idle
  | [.tagged generation _ _] => generation = v.state.generation
  | [.activating generation] | [.failing generation] => generation = v.state.generation ∧ v.Idle
  | _ => False

/-- What serial callbacks keep while the thread is alive. -/
structure Serialized (v : Vpn B) : Prop where
  current : Current v.sent v.stack.worker
  paired : Each Paired v.sent
  waits : v.Waits v.starts

/-- A command that brings no new generation. -/
lemma Idle.command {command : Command} (h : v.Idle)
    (hcommand : ∀ g, Command.latest (latestOf v.sent) command = some g → g = v.state.generation) :
    (v.command command).1.Idle := by
  intro g hg
  unfold Vpn.command sending at hg
  simp only at hg
  split_ifs at hg
  · exact hcommand g (latestOf_concat v.sent command ▸ hg)
  · exact h g hg

lemma command_sent (v : Vpn B) (command : Command) (halive : v.stack.worker.alive = true) :
    (v.command command).1.sent = v.sent ++ [command] := if_pos halive

/-- A command from a callback, or from a client. -/
lemma Serialized.send {command : Command} (h : v.Serialized) (halive : v.stack.worker.alive = true)
    (hpaired : Paired v.sent command) :
    Current (v.command command).1.sent (v.command command).1.stack.worker ∧
      Each Paired (v.command command).1.sent := by
  rw [v.command_sent command halive]
  exact ⟨h.current.send halive command, each_concat.mpr ⟨h.paired, hpaired⟩⟩

lemma Waits.singleton {i : ℕ} {starting : Starting} (h : v.Waits v.starts)
    (hi : v.starts[i]? = some starting) : i = 0 ∧ v.starts = [starting] := by
  rcases hstarts : v.starts with _ | ⟨s, _ | ⟨s', l⟩⟩
  · simp [hstarts] at hi
  · rw [hstarts] at hi
    cases i with
    | zero => exact ⟨rfl, by simpa using hi⟩
    | succ i => simp at hi
  · rw [hstarts] at h
    cases s <;> exact h.elim

/-- What a resumed start leaves in progress. -/
def resumed (v : Vpn B) (activated : Bool) (starting : Starting) : Vpn B :=
  { (v.resume activated starting).1 with starts := (v.resume activated starting).2.toList }

lemma Serialized.resume {starting : Starting} (h : v.Serialized) (hstarts : v.starts = [starting])
    (activated : Bool) (halive : v.stack.worker.alive = true) :
    (v.resumed activated starting).Serialized := by
  have hwaits := h.waits
  rw [hstarts] at hwaits
  cases starting with
  | called options io =>
    unfold resumed Vpn.resume
    simp only
    split <;> exact ⟨h.current, h.paired, hwaits⟩
  | parsed settings io => exact ⟨h.current, h.paired, rfl⟩
  | tagged generation settings io =>
    obtain rfl : generation = v.state.generation := hwaits
    obtain ⟨u, hu⟩ : ∃ u, v.command (.online v.state.generation settings io) = (u, .ok ()) :=
      ⟨(v.command (.online v.state.generation settings io)).1,
        by simp [Vpn.command, Tunnel.send, halive]⟩
    obtain ⟨hcurrent, hpaired⟩ :=
      @Serialized.send B v (.online v.state.generation settings io) h halive trivial
    have hsent := v.command_sent (.online v.state.generation settings io) halive
    have hstate : (v.command (.online v.state.generation settings io)).1.state = v.state := rfl
    rw [hu] at hcurrent hpaired hsent hstate
    unfold resumed
    simp only [Vpn.resume, online_eq, hu]
    refine ⟨hcurrent, hpaired, congrArg VpnState.generation hstate.symm, fun g hg => ?_⟩
    have hlatest : latestOf u.sent = some g := hg
    rw [hsent, latestOf_concat] at hlatest
    exact (Option.some.inj hlatest).symm.trans (congrArg VpnState.generation hstate.symm)
  | activating generation =>
    cases activated
    · exact ⟨h.current, h.paired, hwaits⟩
    · exact ⟨h.current, h.paired, hwaits.2⟩
  | failing generation =>
    obtain ⟨rfl, hidle⟩ := hwaits
    obtain ⟨hcurrent, hpaired⟩ :=
      @Serialized.send B v (.offline v.state.generation) h halive hidle
    exact ⟨hcurrent, hpaired, hidle.command hidle⟩

/-- Nothing a start waits for has changed. -/
lemma Waits.congr {l : List Starting} (h : v.Waits l)
    (hgeneration : v'.state.generation = v.state.generation)
    (hsent : ∀ g, latestOf v'.sent = some g → latestOf v.sent = some g) : v'.Waits l := by
  have hidle : v.Idle → v'.Idle := fun hv g hg => (hv g (hsent g hg)).trans hgeneration.symm
  rcases l with _ | ⟨s, _ | ⟨s', l⟩⟩
  · exact hidle h
  · cases s with
    | called | parsed => exact hidle h
    | tagged => exact h.trans hgeneration.symm
    | activating | failing => exact ⟨h.1.trans hgeneration.symm, hidle h.2⟩
  · cases s <;> exact h.elim

/-- Only what the worker does with its engine's streams, packets and wake-ups has changed. -/
lemma Serialized.congr (h : v.Serialized) (hsent : v'.sent = v.sent)
    (hgeneration : v'.state.generation = v.state.generation) (hstarts : v'.starts = v.starts)
    (hcommands : v'.stack.worker.commands = v.stack.worker.commands)
    (hengine : ∀ g e, v'.stack.worker.engine = some (g, e) →
      ∃ e₀, v.stack.worker.engine = some (g, e₀)) : v'.Serialized where
  current := by
    obtain ⟨done, hdone, hup⟩ := h.current
    refine ⟨done, by rw [hsent, hdone, hcommands], fun g e he => ?_⟩
    obtain ⟨e₀, he₀⟩ := hengine g e he
    exact hup g e₀ he₀
  paired := hsent ▸ h.paired
  waits := by
    rw [hstarts]
    exact h.waits.congr hgeneration fun g hg => hsent ▸ hg

lemma Serialized.act (hkept : v.stack.Kept C) {a : VpnAct B} (hserial : v.serial a = true)
    (h : v.stack.worker.alive = true → v.Serialized) (hact : v.act a = some v') :
    v'.stack.worker.alive = true → v'.Serialized := by
  intro halive
  have halive₀ : v.stack.worker.alive = true := alive_of_act hact halive
  have hv := h halive₀
  cases act_acted hact with
  | thread hw =>
    exact ⟨(Worker.act_turn hkept.sound hw).current halive hv.paired hv.current, hv.paired,
      hv.waits⟩
  | @client command hclient =>
    obtain ⟨hpaired, hlatest⟩ : Paired v.sent command ∧
        ∀ current, command.latest current = current := by
      cases command <;> simp [Command.fromClient] at hclient <;> exact ⟨trivial, fun _ => rfl⟩
    obtain ⟨hcurrent, hpaired⟩ := hv.send halive₀ hpaired
    refine ⟨hcurrent, hpaired, hv.waits.congr rfl fun g hg => ?_⟩
    simp only [v.command_sent command halive₀, latestOf_concat, hlatest] at hg
    exact hg
  | wake =>
    obtain ⟨hengine, hcommands⟩ : (Tunnel.wake v.stack.worker).engine = v.stack.worker.engine ∧
        (Tunnel.wake v.stack.worker).commands = v.stack.worker.commands := by
      rw [Tunnel.wake, if_pos halive₀]
      exact ⟨rfl, rfl⟩
    exact hv.congr rfl rfl rfl hcommands fun g e he => ⟨e, hengine ▸ he⟩
  | outside world bridge =>
    refine hv.congr rfl rfl rfl rfl fun g e he => ?_
    obtain ⟨⟨g, e₀⟩, he₀, heq⟩ := Option.map_eq_some_iff.mp he
    obtain ⟨rfl, -⟩ : g = _ ∧ e₀.setBridges bridge = e := by simpa using heq
    exact ⟨e₀, he₀⟩
  | configure => exact hv.congr rfl rfl rfl rfl fun g e he => ⟨e, he⟩
  | start options io =>
    have hwaits := hv.waits
    have hnone : v.starts = [] := List.isEmpty_iff.mp hserial
    rw [hnone] at hwaits
    refine ⟨hv.current, hv.paired, ?_⟩
    rw [hnone]
    exact hwaits
  | @goesOn i activated starting _ _ hi hu | @returns i activated starting _ hi hu =>
    obtain ⟨rfl, hstarts⟩ := hv.waits.singleton hi
    have hresumed := hv.resume hstarts activated halive₀
    rw [resumed, hu] at hresumed
    rw [hstarts]
    exact hresumed
  | stop =>
    have hnone : v.starts = [] := List.isEmpty_iff.mp hserial
    have hidle : v.Idle := by
      have hwaits := hv.waits
      rwa [hnone] at hwaits
    have hv₀ : ({ v with state := { v.state with io := none } } : Vpn B).Serialized :=
      hv.congr rfl rfl rfl rfl fun g e he => ⟨e, he⟩
    obtain ⟨hcurrent, hpaired⟩ :=
      @Serialized.send B _ (.offline v.state.generation) hv₀ halive₀ hidle
    refine ⟨hcurrent, hpaired, ?_⟩
    show Waits _ v.starts
    rw [hnone]
    exact @Idle.command B { v with state := { v.state with io := none } }
      (.offline v.state.generation) hidle hidle
  | send packet =>
    obtain ⟨heq, -⟩ := v.stack.worker.receive_frame v.state.generation packet
    refine hv.congr rfl rfl rfl ?_ fun g e he => ⟨e, ?_⟩
    · simp only [heq]
    · simpa only [heq] using he
  | refuse => exact hv

lemma serialized_of_reachable (C : NetContract B) (h : (serialVpnSystem B).Reachable v) :
    (vpnSystem B).Reachable v ∧ (v.stack.worker.alive = true → v.Serialized) := by
  refine h.invariant (I := fun v => (vpnSystem B).Reachable v ∧
    (v.stack.worker.alive = true → v.Serialized)) ?_ ?_
  · intro v hinit
    refine ⟨.of_init hinit, fun _ => ?_⟩
    obtain ⟨dns, stack, ⟨config, world, -, rfl⟩, rfl⟩ := hinit
    exact ⟨⟨[], rfl, by simp [Vpn.new, Worker.spawn]⟩, each_nil,
      by simp [Vpn.new, Waits, Idle, latestOf]⟩
  · intro v a v' hv hact
    change v.actSerially a = some v' at hact
    unfold actSerially at hact
    split_ifs at hact with hserial
    exact ⟨hv.1.step hact,
      Serialized.act (Stack.kept_of_reachable C (stack_reachable hv.1)) hserial hv.2 hact⟩

/-- The engine is the one the processed commands leave up; a thread that has ended has none. -/
structure Settled (v : Vpn B) : Prop where
  current : v.stack.worker.alive = true → Current v.sent v.stack.worker
  ended : v.stack.worker.alive = false → v.stack.worker.engine = none

end Vpn

namespace Sample

end Sample

end Ovpnlane
