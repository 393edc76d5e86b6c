import Ovpnlane.Properties.Handover
import Ovpnlane.Properties.WorldTrace

/-!
# Every request is answered once and in time

A request's reply goes through the command queue, the engine's lookups and its flows, in the hands
of a worker that may be told to replace or drop its engine, or to stop, at any time.  `Stack` is the
worker together with the replies its clients have issued; `stackSystem` lets the thread and the
clients act in any order.

Every function of the worker conveys what it is given (`Worker.Conveys`): the log accounts for every
reply, and a request that is held has the deadline it was accepted with.  Conveyances compose, so
each `select!` arm and each part of an iteration has one, and the run of the worker is their
composition.  A reply that goes out of scope goes with what held it (`Worker.Releases`), and each
entry is what the world did (`Worker.act_traces`).  `requests_answered` is the result for every
reachable state.
-/

namespace Ovpnlane

variable {B : Backend}

/-! ## What an entry says about a reply -/

namespace WorkerEvent

/-- The entry of the engine's log this is. -/
def events : WorkerEvent B → List (Event B)
  | .engine _ event => [event]
  | _ => []

/-- The reply an entry uses up, with the value that is sent; `none` if it goes out of scope. -/
def resolves : WorkerEvent B → List (Reply × Option B.Answer)
  | .engine _ event => event.resolves
  | .refused reply _ => [(reply, some (.error closedError))]
  | .dropped reply _ => [(reply, none)]
  | _ => []

def spent (e : WorkerEvent B) : List Reply := e.resolves.map Prod.fst

def closedFor (e : WorkerEvent B) : List Reply := e.events.flatMap Event.closedFor

def accepts (e : WorkerEvent B) : List (Reply × Instant) := e.events.flatMap Event.accepts

/-- Why a reply may be used up: the engine's reasons, and outside of it only the end of the engine
or of the queue. -/
def Justified (pre : List (WorkerEvent B)) : WorkerEvent B → Prop
  | .engine _ event => event.Justified (pre.flatMap events)
  | .dropped _ cause => cause ≠ .receiverClosed
  | _ => True

lemma Justified.mono {pre pre' : List (WorkerEvent B)} {e : WorkerEvent B} (h : Justified pre e)
    (hsub : pre ⊆ pre') : Justified pre' e := by
  cases e with
  | engine generation event =>
    refine Event.Justified.mono h fun x hx => ?_
    obtain ⟨e, he, hx⟩ := List.mem_flatMap.mp hx
    exact List.mem_flatMap.mpr ⟨e, hsub he, hx⟩
  | _ => exact h

/-- An entry that is about no reply. -/
def Quiet (e : WorkerEvent B) : Prop :=
  e.resolves = [] ∧ e.events = [] ∧ ∀ pre, Justified pre e

section Engine

variable (generation : ℕ) (es : List (Event B))

@[simp] lemma flatMap_events_engine : (es.map (.engine generation)).flatMap events = es := by
  simp [List.flatMap_map, events]

@[simp] lemma flatMap_spent_engine :
    (es.map (.engine generation)).flatMap spent = es.flatMap Event.spent := by
  rw [List.flatMap_map]
  rfl

@[simp] lemma flatMap_closedFor_engine :
    (es.map (.engine generation)).flatMap closedFor = es.flatMap Event.closedFor := by
  simp [List.flatMap_map, closedFor, events]

@[simp] lemma flatMap_accepts_engine :
    (es.map (.engine generation)).flatMap accepts = es.flatMap Event.accepts := by
  simp [List.flatMap_map, accepts, events]

end Engine

end WorkerEvent

/-! ## Conveyances -/

lemma Engine.replies_eq (e : Engine B) : e.replies = e.pending.map Prod.fst := by
  simp only [replies, pending, pendingOf, List.map_append, List.map_map, List.map_flatMap]
  congr 1
  induction e.flows with
  | nil => rfl
  | cons f fs ih => cases hreply : f.reply <;> simp [Flow.pending, hreply, ih]

@[simp] lemma Engine.pending_setBridges (e : Engine B) (bridge : Flow B → B.Stream) :
    (e.setBridges bridge).pending = e.pending := by
  simp only [setBridges, pending, pendingOf, List.flatMap_map]
  rfl

namespace Worker

/-- The replies in the command queue. -/
def queued (w : Worker B) : List Reply := w.commands.filterMap Command.reply

/-- The open requests of the engine. -/
def held (w : Worker B) : List (Reply × Instant) := w.engine.elim [] fun (_, e) => e.pending

/-- The replies the worker has. -/
def replies (w : Worker B) : List Reply := w.queued ++ w.held.map Prod.fst

/-- From `w` to `w'`, the entries `es` account for every reply. -/
structure Conveys (w : Worker B) (es : List (WorkerEvent B)) (w' : Worker B) : Prop where
  log : w'.log = w.log ++ es
  accounts : Accounts WorkerEvent.spent w.replies es w'.replies
  /-- Whoever holds a request holds the deadline it was accepted with. -/
  deadlines : ∀ x ∈ w'.held, x ∈ w.held ∨ x ∈ es.flatMap WorkerEvent.accepts
  /-- What is accepted comes from the queue. -/
  accepted : ((es.flatMap WorkerEvent.accepts).map Prod.fst ++ w'.queued).Sublist w.queued
  justified : Each WorkerEvent.Justified es
  settled : ∀ r ∈ es.flatMap WorkerEvent.closedFor, r ∈ es.flatMap WorkerEvent.spent

namespace Conveys

variable {w w' w'' : Worker B} {es es' : List (WorkerEvent B)}

/-- Replies go out of scope, though their receivers were not seen to be gone. -/
lemma drops {rs : List Reply} {cause : DropCause} (hcause : cause ≠ .receiverClosed)
    (hlog : w'.log = w.log ++ rs.map (.dropped · cause))
    (hreplies : w.replies.Perm (w'.replies ++ rs))
    (hqueued : w'.queued.Sublist w.queued) (hheld : w'.held ⊆ w.held) :
    w.Conveys (rs.map (.dropped · cause)) w' where
  log := hlog
  accounts := by
    rw [Accounts, List.flatMap_map]
    simpa [WorkerEvent.spent, WorkerEvent.resolves] using hreplies
  deadlines := fun x hx => .inl (hheld hx)
  accepted := by
    have hnone : (rs.map fun r => (.dropped r cause : WorkerEvent B)).flatMap
        WorkerEvent.accepts = [] := by
      simp [List.flatMap_map, WorkerEvent.accepts, WorkerEvent.events]
    rwa [hnone]
  justified := each_map.mpr fun _ _ _ _ => hcause
  settled := by simp [List.flatMap_map, WorkerEvent.closedFor, WorkerEvent.events]

lemma trans (h : w.Conveys es w') (h' : w'.Conveys es' w'') : w.Conveys (es ++ es') w'' where
  log := by rw [h'.log, h.log, List.append_assoc]
  accounts := h.accounts.trans h'.accounts
  deadlines := by
    intro x hx
    rw [List.flatMap_append, List.mem_append, ← or_assoc]
    exact (h'.deadlines x hx).imp_left (h.deadlines x)
  accepted := by
    rw [List.flatMap_append, List.map_append, List.append_assoc]
    exact (h'.accepted.append_left _).trans h.accepted
  justified := each_append.mpr ⟨h.justified,
    h'.justified.mono fun _ _ he => he.mono (List.subset_append_right _ _)⟩
  settled := by
    intro r hr
    rw [List.flatMap_append, List.mem_append] at hr ⊢
    exact hr.imp (h.settled r) (h'.settled r)

/-- Entries about no reply, while no reply moves. -/
lemma quiet (hlog : w'.log = w.log ++ es) (hes : ∀ e ∈ es, e.Quiet)
    (hqueued : w'.queued = w.queued) (hheld : w'.held = w.held) : w.Conveys es w' where
  log := hlog
  accounts := by
    rw [replies, replies, hqueued, hheld]
    exact .idle (List.flatMap_eq_nil_iff.mpr fun e he => by
      rw [WorkerEvent.spent, (hes e he).1]; rfl)
  deadlines := fun x hx => .inl (hheld ▸ hx)
  accepted := by
    rw [List.flatMap_eq_nil_iff.mpr fun e he => by
      rw [WorkerEvent.accepts, (hes e he).2.1]; rfl, hqueued]
    exact .refl _
  justified := fun pre e post hpre => (hes e (by simp [hpre])).2.2 pre
  settled := by
    intro r hr
    obtain ⟨e, he, hr⟩ := List.mem_flatMap.mp hr
    rw [WorkerEvent.closedFor, (hes e he).2.1] at hr
    exact absurd hr List.not_mem_nil

/-- No entry, while no reply moves. -/
lemma silent (hlog : w'.log = w.log) (hqueued : w'.queued = w.queued) (hheld : w'.held = w.held) :
    w.Conveys [] w' :=
  .quiet (by simp [hlog]) (by simp) hqueued hheld

end Conveys

/-! ## The parts of an iteration -/

variable {w w' : Worker B}

lemma dropEngine_conveys (w : Worker B) : ∃ es, w.Conveys es w.dropEngine := by
  rcases hengine : w.engine with _ | ⟨generation, e⟩
  · exact ⟨[], .silent (by simp [dropEngine, hengine]) (by simp [dropEngine, hengine])
      (by simp [dropEngine, hengine])⟩
  have hdrop : w.dropEngine = { w with
      engine := none
      log := w.log ++ e.replies.map (.dropped · .engineGone) ++ [.removed generation] } := by
    rw [dropEngine, hengine]
  have hfirst := @Conveys.drops B w
    { w with engine := none, log := w.log ++ e.replies.map (.dropped · .engineGone) }
    e.replies .engineGone (by simp) rfl (by simp [replies, queued, held, hengine, e.replies_eq])
    (.refl _) (by simp [held])
  rw [hdrop]
  exact ⟨_, hfirst.trans (.quiet rfl (List.forall_mem_singleton.mpr ⟨rfl, rfl, fun _ => trivial⟩)
    rfl rfl)⟩

@[simp] lemma dropEngine_engine (w : Worker B) : w.dropEngine.engine = none := by
  rcases hengine : w.engine with _ | ⟨generation, e⟩ <;> simp [dropEngine, hengine]

@[simp] lemma dropEngine_config (w : Worker B) : w.dropEngine.config = w.config := by
  rcases hengine : w.engine with _ | ⟨generation, e⟩ <;> simp [dropEngine, hengine]

@[simp] lemma dropEngine_phase (w : Worker B) : w.dropEngine.phase = w.phase := by
  rcases hengine : w.engine with _ | ⟨generation, e⟩ <;> simp [dropEngine, hengine]

@[simp] lemma dropEngine_commands (w : Worker B) : w.dropEngine.commands = w.commands := by
  rcases hengine : w.engine with _ | ⟨generation, e⟩ <;> simp [dropEngine, hengine]

lemma finish_conveys (w : Worker B) (phase : Phase) : ∃ es, w.Conveys es (w.finish phase) := by
  obtain ⟨es, hdrop⟩ := w.dropEngine_conveys
  refine ⟨_, hdrop.trans (@Conveys.drops B _ _ w.queued .queueGone (by simp) ?_ ?_ ?_ ?_)⟩
  · simp [finish, queued]
  · simp [replies, queued, held, finish]
  · simp [finish, queued]
  · simp [finish, held]

lemma online_conveys (w : Worker B) (generation : ℕ) (settings : Settings) (sink : SinkId)
    (nextPort : ℕ) : ∃ es, w.Conveys es (w.online generation settings sink nextPort) := by
  unfold online
  split
  · exact w.finish_conveys _
  · next e hnew =>
    obtain ⟨_, _, _, _, -, -, -, rfl⟩ := Engine.new_eq_ok hnew
    obtain ⟨es, hdrop⟩ := w.dropEngine_conveys
    exact ⟨_, hdrop.trans (.quiet rfl
      (List.forall_mem_singleton.mpr ⟨rfl, rfl, fun _ => trivial⟩) rfl
      (by simp [held, Engine.pending, pendingOf]))⟩

lemma offline_conveys (w : Worker B) (generation : ℕ) :
    ∃ es, w.Conveys es (w.offline generation) := by
  unfold offline
  split
  · split_ifs
    · exact w.dropEngine_conveys
    · exact ⟨[], .silent rfl rfl rfl⟩
  · exact ⟨[], .silent rfl rfl rfl⟩

lemma takePacket_conveys (w : Worker B) (tag : ℕ) (packet : Packet) :
    ∃ es, w.Conveys es (w.takePacket tag packet) := by
  have hdequeued : ∀ current, ∀ e ∈ [WorkerEvent.dequeued (B := B) tag packet current], e.Quiet :=
    fun _ => List.forall_mem_singleton.mpr ⟨rfl, rfl, fun _ => trivial⟩
  unfold takePacket
  rcases hengine : w.engine with _ | ⟨generation, e⟩
  · exact ⟨_, .quiet rfl (hdequeued _) rfl (by simp [held, hengine])⟩
  · simp only
    split_ifs with htag
    · refine ⟨[.dequeued tag packet (some generation)] ++ [.pushed generation packet],
        .quiet (by simp) (fun e he => ?_) rfl ?_⟩
      · rcases List.mem_append.mp he with he | he
        · exact hdequeued _ e he
        · rw [List.mem_singleton.mp he]
          exact ⟨rfl, rfl, fun _ => trivial⟩
      · simp [held, hengine, Engine.pushIncoming, Engine.pending]
    · exact ⟨_, .quiet rfl (hdequeued _) rfl (by simp [held, hengine])⟩

lemma afterSelect_conveys (w : Worker B) : w.Conveys [] w.afterSelect := by
  unfold afterSelect
  split_ifs <;> exact .silent rfl rfl rfl

lemma checkFailed_conveys (w : Worker B) : ∃ es, w.Conveys es w.checkFailed := by
  unfold checkFailed
  simp only
  split_ifs
  · obtain ⟨es, hdrop⟩ := w.dropEngine_conveys
    exact ⟨_, hdrop.trans (.silent rfl rfl rfl)⟩
  · exact ⟨[], .silent rfl rfl rfl⟩

/-! ## The engine's part -/

variable {C : NetContract B}

/-- The `Connect` arm on a request that has just left the queue. -/
lemma connect_conveys {w₁ : Worker B} (target : Target) (port : ℕ) {reply : Reply}
    (hvalid : ∀ g e, w₁.engine = some (g, e) → e.Valid C) (hlog : w₁.log = w.log)
    (hheld : w₁.held = w.held) (hqueued : w.queued = reply :: w₁.queued) :
    ∃ es, w.Conveys es (w₁.connect target port reply) ∧
      (w₁.connect target port reply).phase = w₁.phase ∧
      (w₁.connect target port reply).config = w₁.config ∧
      ∀ g e, (w₁.connect target port reply).engine = some (g, e) → e.Valid C := by
  have hreplies : w.replies = [reply] ++ w₁.replies := by
    rw [replies, replies, hqueued, hheld]
    rfl
  rcases hengine : w₁.engine with _ | ⟨generation, e⟩
  · have hconnect : w₁.connect target port reply = { w₁ with
        world := (B.sendReply reply (.error closedError) w₁.world).2
        log := w₁.log ++
          [.refused reply (B.sendReply reply (.error closedError) w₁.world).1] } := by
      simp only [connect, hengine]
    rw [hconnect]
    refine ⟨_, ⟨by rw [hlog], ?_, fun x hx => .inl (hheld ▸ hx), ?_, ?_, ?_⟩, rfl, rfl,
      by simp [hengine]⟩
    · rw [hreplies]
      exact List.perm_append_comm
    · rw [hqueued]
      exact List.sublist_cons_self _ _
    · exact each_cons.mpr ⟨trivial, each_nil⟩
    · simp [WorkerEvent.closedFor, WorkerEvent.events]
  · obtain ⟨m', es, deadline, new, hok, hvalid', hlog', hpending, hhandled, haccepts⟩ :=
      @Machine.connect_handled B C ⟨e, w₁.world, []⟩ (hvalid generation e hengine) target port reply
    have hconnect : w₁.connect target port reply = { w₁ with
        engine := some (generation, m'.engine)
        world := m'.world
        log := w₁.log ++ es.map (.engine generation) } := by
      rw [List.nil_append] at hlog'
      simp only [connect, hengine, onEngine, hok, Except.map, hlog']
    have hheld₁ : w₁.held = e.pending := by simp [held, hengine]
    rw [hconnect]
    refine ⟨es.map (.engine generation), ⟨by rw [hlog], ?_, ?_, ?_, ?_, ?_⟩, rfl, rfl, ?_⟩
    · rw [Accounts, WorkerEvent.flatMap_spent_engine]
      apply (hhandled.accounts.frame w₁.replies).perm (.of_eq hreplies)
      rw [replies, hheld₁]
      refine (List.perm_append_comm_assoc ..).trans (List.Perm.append_left _ ?_)
      rw [← List.map_append]
      exact (hpending.map _).symm
    · intro x hx
      rw [WorkerEvent.flatMap_accepts_engine, ← hheld, hheld₁]
      rcases List.mem_append.mp (hpending.mem_iff.mp hx) with hnew | hold
      · right
        rcases haccepts with haccepts | ⟨-, rfl⟩
        · rw [haccepts]
          exact hhandled.deadlines x hnew
        · simp at hnew
      · exact .inl hold
    · rw [WorkerEvent.flatMap_accepts_engine, hqueued]
      rcases haccepts with haccepts | ⟨haccepts, -⟩ <;> rw [haccepts]
      · exact .refl _
      · exact List.sublist_cons_self _ _
    · refine each_map.mpr (hhandled.justified.mono fun pre a ha => ?_)
      rw [WorkerEvent.Justified, WorkerEvent.flatMap_events_engine]
      exact ha
    · simpa using hhandled.settled
    · intro g e' he'
      obtain ⟨-, rfl⟩ : generation = g ∧ m'.engine = e' := by simpa using he'
      exact hvalid'

/-- The step of an engine. -/
lemma stepEngine_conveys {generation : ℕ} {e : Engine B} (hengine : w.engine = some (generation, e))
    (hvalid : e.Valid C) :
    ∃ (e' : Engine B) (es : List (Event B)) (now : Instant),
      w.Conveys (es.map (.engine generation)) w.stepEngine ∧
      w.stepEngine = { w with
        engine := some (generation, e'), world := w.stepEngine.world, phase := .check
        log := w.log ++ es.map (.engine generation) } ∧
      e'.Valid C ∧ (⟨e, w.world, []⟩ : Machine B).StepsAt now es ⟨e', w.stepEngine.world, es⟩ ∧
        ∀ x ∈ e'.pending, now < x.2 := by
  obtain ⟨m', es, now, hok, hvalid', hlog, hhandled, haccepts, hstep, htimely⟩ :=
    @Machine.step_handled B C ⟨e, w.world, []⟩ hvalid
  rw [List.nil_append] at hlog
  have heq : w.stepEngine = { w with
      engine := some (generation, m'.engine), world := m'.world, phase := .check
      log := w.log ++ es.map (.engine generation) } := by
    simp only [stepEngine, hengine, onEngine, hok, Except.map, hlog]
  have hheld : w.held = e.pending := by simp [held, hengine]
  have hsteps : (⟨e, w.world, []⟩ : Machine B).StepsAt now es ⟨m'.engine, m'.world, es⟩ := by
    obtain ⟨now', es', hsteps, -⟩ := Machine.step_stepsAt hok
    obtain ⟨_, _, _, _, -, hlog', -⟩ := id hsteps
    obtain rfl : es = es' := by simpa [hlog] using hlog'
    obtain rfl := hsteps.now_eq hstep
    subst hlog
    exact hsteps
  rw [heq]
  refine ⟨m'.engine, es, now, ⟨rfl, ?_, ?_, ?_, ?_, ?_⟩, rfl, hvalid', hsteps, htimely⟩
  · rw [Accounts, WorkerEvent.flatMap_spent_engine]
    refine (hhandled.accounts.frame w.queued).perm ?_ List.perm_append_comm
    rw [replies, hheld]
    exact List.perm_append_comm
  · intro x hx
    rw [hheld]
    exact .inl (hhandled.deadlines x hx)
  · rw [WorkerEvent.flatMap_accepts_engine, haccepts]
    exact .refl _
  · refine each_map.mpr (hhandled.justified.mono fun pre a ha => ?_)
    rw [WorkerEvent.Justified, WorkerEvent.flatMap_events_engine]
    exact ha
  · simpa using hhandled.settled

/-! ## One action of the thread -/

/-- The worker between two actions. -/
structure Sound (C : NetContract B) (w : Worker B) : Prop where
  valid : ∀ g e, w.engine = some (g, e) → e.Valid C
  limit : w.config.maxConnections ≤ 4096
  /-- A thread that has ended holds nothing. -/
  ended : w.alive = false → w.commands = [] ∧ w.engine = none
  /-- Nothing but the creation of an engine panics. -/
  faults : ∀ fault, w.phase = .faulted fault →
    fault = .notUnicast ∨ ∃ text, fault = .expectFailed text

lemma Sound.of_alive (halive : w.alive = true) (hlimit : w.config.maxConnections ≤ 4096)
    (hvalid : ∀ g e, w.engine = some (g, e) → e.Valid C) : w.Sound C where
  valid := hvalid
  limit := hlimit
  ended := by simp [halive]
  faults := by
    intro fault hphase
    simp [alive, hphase] at halive

lemma finish_sound {phase : Phase} (hlimit : w.config.maxConnections ≤ 4096)
    (hphase : ∀ fault, phase = .faulted fault →
      fault = .notUnicast ∨ ∃ text, fault = .expectFailed text) : (w.finish phase).Sound C where
  valid := by simp [finish]
  limit := by simpa [finish] using hlimit
  ended := by simp [finish]
  faults := hphase

lemma alive_of_phase (h : w'.phase = w.phase) : w'.alive = w.alive := by
  rw [alive, alive, h]

lemma online_sound {generation : ℕ} {settings : Settings} {sink : SinkId} {nextPort : ℕ}
    (h : w.Sound C) (halive : w.alive = true) (hport : nextPort ∈ Finset.Ico 49152 65535) :
    (w.online generation settings sink nextPort).Sound C := by
  unfold online
  split
  · next fault hnew =>
    refine finish_sound h.limit fun fault' heq => ?_
    obtain rfl : fault = fault' := by simpa using heq
    exact Engine.new_eq_error hnew
  · next e hnew =>
    refine .of_alive ?_ ?_ ?_
    · exact (alive_of_phase w.dropEngine_phase).trans halive
    · exact w.dropEngine_config ▸ h.limit
    · intro g e' he'
      obtain ⟨-, rfl⟩ : generation = g ∧ e = e' := by simpa using he'
      exact Engine.new_valid C h.limit hport hnew

lemma dropEngine_sound (h : w.Sound C) (halive : w.alive = true) : w.dropEngine.Sound C :=
  .of_alive ((alive_of_phase w.dropEngine_phase).trans halive) (w.dropEngine_config ▸ h.limit)
    (by simp)

lemma offline_sound {generation : ℕ} (h : w.Sound C) (halive : w.alive = true) :
    (w.offline generation).Sound C := by
  unfold offline
  split
  · split_ifs
    · exact dropEngine_sound h halive
    · exact h
  · exact h

/-- Taking a packet changes the engine's incoming queue and the log. -/
lemma takePacket_frame (w : Worker B) (tag : ℕ) (packet : Packet) :
    (w.takePacket tag packet).phase = w.phase ∧ (w.takePacket tag packet).config = w.config ∧
      ∀ g e, (w.takePacket tag packet).engine = some (g, e) →
        ∃ e₀, w.engine = some (g, e₀) ∧ (e = e₀ ∨ e = e₀.pushIncoming packet) := by
  unfold takePacket
  rcases hengine : w.engine with _ | ⟨generation, e₀⟩
  · exact ⟨rfl, rfl, by simp⟩
  · simp only
    split_ifs
    · refine ⟨rfl, rfl, fun g e he => ?_⟩
      obtain ⟨rfl, rfl⟩ : generation = g ∧ e₀.pushIncoming packet = e := by simpa using he
      exact ⟨e₀, rfl, .inr rfl⟩
    · refine ⟨rfl, rfl, fun g e he => ?_⟩
      obtain ⟨rfl, rfl⟩ : generation = g ∧ e₀ = e := by simpa [hengine] using he
      exact ⟨e₀, rfl, .inl rfl⟩

lemma takePacket_sound {tag : ℕ} {packet : Packet} (h : w.Sound C) (halive : w.alive = true) :
    (w.takePacket tag packet).Sound C := by
  obtain ⟨hphase, hconfig, hengine⟩ := w.takePacket_frame tag packet
  refine .of_alive ((alive_of_phase hphase).trans halive) (hconfig ▸ h.limit) fun g e he => ?_
  obtain ⟨e₀, he₀, rfl | rfl⟩ := hengine g e he
  · exact h.valid g e he₀
  · exact (h.valid g e₀ he₀).service _ rfl

/-- An arm of the `select!`, or another part of an iteration: replies are conveyed. -/
def Passes (C : NetContract B) (w w' : Worker B) : Prop := w'.Sound C ∧ ∃ es, w.Conveys es w'

lemma Passes.afterSelect (h : w.Passes C w') : w.Passes C w'.afterSelect := by
  obtain ⟨hsound, es, hconveys⟩ := h
  refine ⟨?_, _, hconveys.trans w'.afterSelect_conveys⟩
  unfold Worker.afterSelect
  split_ifs
  · exact .of_alive rfl hsound.limit hsound.valid
  · exact .of_alive rfl hsound.limit hsound.valid
  · exact hsound

/-- A change that moves no reply comes first. -/
lemma Passes.after {v : Worker B} (h : v.Passes C w') (hlog : v.log = w.log)
    (hqueued : v.queued = w.queued) (hheld : v.held = w.held) : w.Passes C w' :=
  ⟨h.1, h.2.imp fun _ hes => (Conveys.silent hlog hqueued hheld).trans hes⟩

lemma finish_passes {phase : Phase} (hlimit : w.config.maxConnections ≤ 4096)
    (hphase : ∀ fault, phase = .faulted fault →
      fault = .notUnicast ∨ ∃ text, fault = .expectFailed text) : w.Passes C (w.finish phase) :=
  ⟨finish_sound hlimit hphase, w.finish_conveys phase⟩

lemma online_passes {generation : ℕ} {settings : Settings} {sink : SinkId} {nextPort : ℕ}
    (h : w.Sound C) (halive : w.alive = true) (hport : nextPort ∈ Finset.Ico 49152 65535) :
    w.Passes C (w.online generation settings sink nextPort) :=
  ⟨online_sound h halive hport, w.online_conveys ..⟩

lemma offline_passes {generation : ℕ} (h : w.Sound C) (halive : w.alive = true) :
    w.Passes C (w.offline generation) := ⟨offline_sound h halive, w.offline_conveys _⟩

lemma takePacket_passes {tag : ℕ} {packet : Packet} (h : w.Sound C) (halive : w.alive = true) :
    w.Passes C (w.takePacket tag packet) :=
  ⟨takePacket_sound h halive, w.takePacket_conveys tag packet⟩

/-- Nothing has happened yet. -/
lemma self_passes (h : w.Sound C) : w.Passes C w := ⟨h, [], .silent rfl rfl rfl⟩

/-- Sound workers with their queues changed. -/
lemma Sound.dequeue {commands : List Command} {packets : List (ℕ × Packet)} {wake : Bool}
    (h : w.Sound C) (halive : w.alive = true) :
    ({ w with commands := commands, packets := packets, wake := wake } : Worker B).Sound C :=
  .of_alive halive h.limit h.valid

lemma select_passes {choice : Choice} (h : w.Sound C) (hphase : w.phase = .select)
    (hadmissible : (Action.select choice).admissible = true) (hact : w.select choice = some w') :
    w.Passes C w' := by
  have halive : w.alive = true := by simp [alive, hphase]
  cases choice with
  | command nextPort =>
    rcases hcommands : w.commands with _ | ⟨command, rest⟩ <;>
      simp only [select, hcommands] at hact
    · simp at hact
    obtain rfl := Option.some.inj hact
    have hport : nextPort ∈ Finset.Ico 49152 65535 := by
      rw [Finset.mem_Ico]
      simpa [Action.admissible] using hadmissible
    have hsound : ({ w with commands := rest } : Worker B).Sound C := h.dequeue halive
    have hqueued : command.reply = none → ({ w with commands := rest } : Worker B).queued =
        w.queued := by
      intro hreply
      simp [queued, hcommands, hreply]
    apply Passes.afterSelect
    cases command with
    | online generation settings sink =>
      exact (online_passes hsound halive hport).after rfl (hqueued rfl) rfl
    | offline generation => exact (offline_passes hsound halive).after rfl (hqueued rfl) rfl
    | connect target port reply =>
      obtain ⟨es, hconveys, hphase', hconfig, hvalid⟩ :=
        @connect_conveys B w C { w with commands := rest } target port reply h.valid rfl rfl
          (by simp [queued, hcommands, Command.reply])
      exact ⟨.of_alive ((alive_of_phase hphase').trans halive) (hconfig.symm ▸ h.limit) hvalid,
        es, hconveys⟩
    | shutdown =>
      exact (finish_passes hsound.limit (by simp)).after rfl (hqueued rfl) rfl
  | hangup =>
    simp only [select] at hact
    split_ifs at hact
    obtain rfl := Option.some.inj hact
    exact finish_passes h.limit (by simp)
  | packet =>
    rcases hpackets : w.packets with _ | ⟨⟨tag, packet⟩, rest⟩ <;>
      simp only [select, hpackets] at hact
    · simp at hact
    obtain rfl := Option.some.inj hact
    have hsound : ({ w with packets := rest } : Worker B).Sound C := h.dequeue halive
    exact (Passes.after (takePacket_passes hsound halive) rfl rfl rfl : w.Passes C _).afterSelect
  | packetHangup | timeout =>
    simp only [select] at hact
    split_ifs at hact
    obtain rfl := Option.some.inj hact
    exact (self_passes h).afterSelect
  | wake =>
    simp only [select] at hact
    split_ifs at hact
    obtain rfl := Option.some.inj hact
    have hsound : ({ w with wake := false } : Worker B).Sound C := h.dequeue halive
    exact (Passes.after (self_passes hsound) rfl rfl rfl : w.Passes C _).afterSelect

/-- **One action of the thread** conveys every reply. -/
lemma act_conveys {action : Action} (h : w.Sound C) (hadmissible : action.admissible = true)
    (hact : w.act action = some w') : w.Passes C w' := by
  cases action with
  | select choice =>
    simp only [act] at hact
    split_ifs at hact with hphase
    exact select_passes h hphase hadmissible hact
  | advance =>
    simp only [act] at hact
    split at hact
    · next left hphase =>
      obtain rfl := Option.some.inj hact
      unfold drain
      split
      · next left tag packet rest _ =>
        have hsound : ({ w with packets := rest, phase := .drain left } : Worker B).Sound C :=
          .of_alive rfl h.limit h.valid
        exact (takePacket_passes hsound rfl).after rfl rfl rfl
      · have hsound : ({ w with phase := .step } : Worker B).Sound C :=
          .of_alive rfl h.limit h.valid
        exact (self_passes hsound).after rfl rfl rfl
    · next hphase =>
      obtain rfl := Option.some.inj hact
      rcases hengine : w.engine with _ | ⟨generation, e⟩
      · have heq : w.stepEngine = { w with phase := .check } := by rw [stepEngine, hengine]
        rw [heq]
        exact ⟨.of_alive rfl h.limit h.valid, [], .silent rfl rfl rfl⟩
      · obtain ⟨e', es, now, hconveys, heq, hvalid, -⟩ :=
          stepEngine_conveys hengine (h.valid generation e hengine)
        refine ⟨?_, _, hconveys⟩
        rw [heq]
        refine .of_alive rfl h.limit fun g e'' he => ?_
        obtain ⟨-, rfl⟩ : generation = g ∧ e' = e'' := by simpa using he
        exact hvalid
    · next hphase =>
      obtain rfl := Option.some.inj hact
      have halive : w.alive = true := by simp [alive, hphase]
      refine ⟨?_, w.checkFailed_conveys⟩
      unfold checkFailed
      simp only
      split_ifs
      · exact .of_alive rfl (w.dropEngine_config ▸ h.limit) (by simp)
      · exact .of_alive rfl h.limit h.valid
    · simp at hact

/-! ### Replies that go out of scope -/

/-- What goes out of scope from `w` to `w'` goes with what held it: with the thread, or with its
engine, in whose place there is none or a new one. -/
def Releases (w w' : Worker B) : Prop :=
  ∃ es, w'.log = w.log ++ es ∧ (w'.alive = true → ∀ reply cause, .dropped reply cause ∈ es →
    reply ∈ w.held.map Prod.fst ∧ ∀ g e, w'.engine = some (g, e) → .built g ∈ es)

/-- No entry is about a reply that goes out of scope. -/
lemma Releases.keeps {es : List (WorkerEvent B)} (hlog : w'.log = w.log ++ es)
    (hes : ∀ reply cause, .dropped reply cause ∉ es) : w.Releases w' :=
  ⟨es, hlog, fun _ reply cause hmem => absurd hmem (hes reply cause)⟩

lemma Releases.of_log_eq (hlog : w'.log = w.log) : w.Releases w' :=
  .keeps (hlog.trans (List.append_nil _).symm) (by simp)

/-- The thread ends. -/
lemma Releases.ends {es : List (WorkerEvent B)} (hlog : w'.log = w.log ++ es)
    (hdead : w'.alive = false) : w.Releases w' :=
  ⟨es, hlog, fun halive => by simp [hdead] at halive⟩

/-- A change of the queues comes first. -/
lemma Releases.after {v : Worker B} (h : v.Releases w') (hlog : v.log = w.log)
    (hheld : v.held = w.held) : w.Releases w' := by
  obtain ⟨es, hes, hgone⟩ := h
  exact ⟨es, hlog ▸ hes, hheld ▸ hgone⟩

/-- A change of the phase comes last. -/
lemma Releases.before {v : Worker B} (h : w.Releases v) (hlog : w'.log = v.log)
    (hengine : w'.engine = v.engine) (halive : w'.alive = true → v.alive = true) :
    w.Releases w' := by
  obtain ⟨es, hes, hgone⟩ := h
  exact ⟨es, hlog.trans hes, fun ha => hengine ▸ hgone (halive ha)⟩

lemma Releases.afterSelect (h : w.Releases w') : w.Releases w'.afterSelect := by
  unfold Worker.afterSelect
  split_ifs with halive
  · exact h.before rfl rfl fun _ => halive
  · exact h.before rfl rfl fun _ => halive
  · exact h

/-- The engine goes, and what comes in its place is new. -/
lemma dropEngine_releases (w : Worker B) {es : List (WorkerEvent B)}
    (hlog : w'.log = w.dropEngine.log ++ es) (hes : ∀ reply cause, .dropped reply cause ∉ es)
    (hbuilt : ∀ g e, w'.engine = some (g, e) → .built g ∈ es) : w.Releases w' := by
  rcases hengine : w.engine with _ | ⟨generation, e⟩
  · rw [dropEngine, hengine] at hlog
    exact .keeps hlog hes
  simp only [dropEngine, hengine, List.append_assoc] at hlog
  refine ⟨_, hlog, fun _ reply cause hmem => ⟨?_, fun g e he => ?_⟩⟩
  · simp only [List.mem_append, List.mem_map, List.mem_singleton, reduceCtorEq,
      hes reply cause, or_false] at hmem
    obtain ⟨reply, hreply, heq⟩ := hmem
    obtain ⟨rfl, -⟩ := WorkerEvent.dropped.inj heq
    rwa [held, hengine, Option.elim_some, ← e.replies_eq]
  · exact List.mem_append_right _ (List.mem_append_right _ (hbuilt g e he))

lemma finish_releases {phase : Phase} (hdead : (w.finish phase).alive = false) :
    w.Releases (w.finish phase) :=
  let ⟨_, hconveys⟩ := w.finish_conveys phase
  .ends hconveys.log hdead

lemma online_releases (w : Worker B) (generation : ℕ) (settings : Settings) (sink : SinkId)
    (nextPort : ℕ) : w.Releases (w.online generation settings sink nextPort) := by
  unfold online
  split
  · exact finish_releases rfl
  · refine dropEngine_releases w rfl (by simp) fun g e he => ?_
    obtain ⟨rfl, -⟩ := Prod.mk.inj (Option.some.inj he)
    exact List.mem_singleton_self _

lemma offline_releases (w : Worker B) (generation : ℕ) : w.Releases (w.offline generation) := by
  unfold offline
  split
  · split_ifs
    · exact dropEngine_releases w (List.append_nil _).symm (by simp) (by simp)
    · exact .of_log_eq rfl
  · exact .of_log_eq rfl

lemma connect_releases (w : Worker B) (target : Target) (port : ℕ) (reply : Reply) :
    w.Releases (w.connect target port reply) := by
  unfold connect
  split
  · split
    · next hok =>
      obtain ⟨m, -, rfl⟩ := except_map_eq_ok.mp hok
      exact .keeps rfl (by simp)
    · next fault _ =>
      obtain ⟨es, hconveys⟩ := finish_conveys
        { w with log := w.log ++ [.dropped reply .engineGone] } (.faulted fault)
      exact .ends (hconveys.log.trans (List.append_assoc ..)) rfl
  · exact .keeps rfl (by simp)

lemma takePacket_releases (w : Worker B) (tag : ℕ) (packet : Packet) :
    w.Releases (w.takePacket tag packet) := by
  unfold takePacket
  simp only
  split
  · split_ifs
    · exact .keeps (List.append_assoc ..) (by simp)
    · exact .keeps rfl (by simp)
  · exact .keeps rfl (by simp)

lemma select_releases {choice : Choice} (hact : w.select choice = some w') : w.Releases w' := by
  cases choice with
  | command nextPort =>
    rcases hcommands : w.commands with _ | ⟨command, rest⟩ <;>
      simp only [select, hcommands] at hact
    · simp at hact
    obtain rfl := Option.some.inj hact
    apply Releases.afterSelect
    cases command with
    | online => exact (online_releases { w with commands := rest } ..).after rfl rfl
    | offline => exact (offline_releases { w with commands := rest } _).after rfl rfl
    | connect => exact (connect_releases { w with commands := rest } ..).after rfl rfl
    | shutdown =>
      exact (finish_releases rfl : Releases { w with commands := rest } _).after rfl rfl
  | hangup =>
    simp only [select] at hact
    split_ifs at hact
    obtain rfl := Option.some.inj hact
    exact finish_releases rfl
  | packet =>
    rcases hpackets : w.packets with _ | ⟨⟨tag, packet⟩, rest⟩ <;>
      simp only [select, hpackets] at hact
    · simp at hact
    obtain rfl := Option.some.inj hact
    exact ((takePacket_releases { w with packets := rest } tag packet).after rfl rfl).afterSelect
  | packetHangup | timeout | wake =>
    simp only [select] at hact
    split_ifs at hact
    obtain rfl := Option.some.inj hact
    exact (Releases.of_log_eq rfl).afterSelect

/-- **One action of the thread** lets nothing go but with its holder. -/
lemma act_releases {action : Action} (hact : w.act action = some w') : w.Releases w' := by
  cases action with
  | select choice =>
    simp only [act] at hact
    split_ifs at hact
    exact select_releases hact
  | advance =>
    simp only [act] at hact
    split at hact
    · obtain rfl := Option.some.inj hact
      unfold drain
      split
      · exact (takePacket_releases _ _ _).after rfl rfl
      · exact .of_log_eq rfl
    · obtain rfl := Option.some.inj hact
      unfold stepEngine
      split
      · exact .of_log_eq rfl
      · split
        · next hok =>
          obtain ⟨m, -, rfl⟩ := except_map_eq_ok.mp hok
          exact .keeps rfl (by simp)
        · exact finish_releases rfl
    · obtain rfl := Option.some.inj hact
      unfold checkFailed
      simp only
      split_ifs
      · exact dropEngine_releases w (List.append_nil _).symm (by simp) (by simp)
      · exact .of_log_eq rfl
    · simp at hact

end Worker

/-! ## Every run -/

namespace Stack

variable {C : NetContract B} {s t : Stack B}

/-- What every action keeps. -/
structure Kept (C : NetContract B) (s : Stack B) : Prop where
  sound : s.worker.Sound C
  distinct : s.issued.Nodup
  accounts : Accounts WorkerEvent.spent s.issued s.worker.log s.worker.replies
  deadlines : ∀ x ∈ s.worker.held, x ∈ s.worker.log.flatMap WorkerEvent.accepts
  accepted : ((s.worker.log.flatMap WorkerEvent.accepts).map Prod.fst ++ s.worker.queued).Nodup
  known : (s.worker.log.flatMap WorkerEvent.accepts).map Prod.fst ++ s.worker.queued ⊆ s.issued
  justified : Each WorkerEvent.Justified s.worker.log
  settled : ∀ r ∈ s.worker.log.flatMap WorkerEvent.closedFor,
    r ∈ s.worker.log.flatMap WorkerEvent.spent

lemma Kept.conveys {w : Worker B} {es : List (WorkerEvent B)} (h : s.Kept C)
    (hsound : w.Sound C) (hes : s.worker.Conveys es w) :
    ({ s with worker := w } : Stack B).Kept C := by
  have hsub : ((w.log.flatMap WorkerEvent.accepts).map Prod.fst ++ w.queued).Sublist
      ((s.worker.log.flatMap WorkerEvent.accepts).map Prod.fst ++ s.worker.queued) := by
    rw [hes.log, List.flatMap_append, List.map_append, List.append_assoc]
    exact hes.accepted.append_left _
  exact
    { sound := hsound
      distinct := h.distinct
      accounts := by
        rw [hes.log]
        exact h.accounts.trans hes.accounts
      deadlines := by
        intro x hx
        rw [hes.log, List.flatMap_append, List.mem_append]
        exact (hes.deadlines x hx).imp_left (h.deadlines x)
      accepted := h.accepted.sublist hsub
      known := fun r hr => h.known (hsub.subset hr)
      justified := by
        rw [hes.log]
        exact each_append.mpr ⟨h.justified,
          hes.justified.mono fun _ _ he => he.mono (List.subset_append_right _ _)⟩
      settled := by
        intro r hr
        rw [hes.log, List.flatMap_append, List.mem_append] at hr ⊢
        exact hr.imp (h.settled r) (hes.settled r) }

/-- A change that moves no reply and leaves the log. -/
lemma Kept.silent {w : Worker B} (h : s.Kept C) (hsound : w.Sound C)
    (hlog : w.log = s.worker.log) (hqueued : w.queued = s.worker.queued)
    (hheld : w.held = s.worker.held) : ({ s with worker := w } : Stack B).Kept C :=
  h.conveys hsound (.silent hlog hqueued hheld)

section Send

variable {command : Command}

lemma distinct_of_fresh (h : s.Kept C) (hfresh : ∀ r ∈ command.reply, r ∉ s.issued) :
    (s.issued ++ command.reply.toList).Nodup := by
  refine List.nodup_append.mpr ⟨h.distinct, by cases command.reply <;> simp, ?_⟩
  rintro a ha b hb rfl
  exact hfresh a (Option.mem_toList.mp hb) ha

/-- A command is queued. -/
lemma Kept.enqueue (h : s.Kept C) (hfresh : ∀ r ∈ command.reply, r ∉ s.issued)
    (halive : s.worker.alive = true) :
    Kept C ⟨{ s.worker with commands := s.worker.commands ++ [command] },
      s.issued ++ command.reply.toList⟩ := by
  have hqueued : ({ s.worker with commands := s.worker.commands ++ [command] } :
      Worker B).queued = s.worker.queued ++ command.reply.toList := by
    cases hreply : command.reply <;> simp [Worker.queued, hreply]
  exact
    { sound := .of_alive halive h.sound.limit h.sound.valid
      distinct := distinct_of_fresh h hfresh
      accounts := by
        rw [Worker.replies, hqueued]
        apply (h.accounts.frame command.reply.toList).perm .rfl
        rw [Worker.replies, List.append_assoc, List.append_assoc]
        exact List.perm_append_comm.append_left _
      deadlines := h.deadlines
      accepted := by
        rw [hqueued, ← List.append_assoc]
        refine List.nodup_append.mpr ⟨h.accepted, by cases command.reply <;> simp, ?_⟩
        rintro a ha b hb rfl
        exact hfresh a (Option.mem_toList.mp hb) (h.known ha)
      known := by
        rw [hqueued, ← List.append_assoc]
        exact List.append_subset.mpr
          ⟨fun r hr => List.mem_append_left _ (h.known hr), List.subset_append_right _ _⟩
      justified := h.justified
      settled := h.settled }

/-- A command that cannot be queued goes out of scope. -/
lemma Kept.lose (h : s.Kept C) (hfresh : ∀ r ∈ command.reply, r ∉ s.issued) :
    Kept C ⟨{ s.worker with
        log := s.worker.log ++ command.reply.toList.map (.dropped · .queueGone) },
      s.issued ++ command.reply.toList⟩ := by
  set lost : List (WorkerEvent B) := command.reply.toList.map (.dropped · .queueGone) with hlost
  have haccepts : lost.flatMap WorkerEvent.accepts = [] := by
    simp [hlost, List.flatMap_map, WorkerEvent.accepts, WorkerEvent.events]
  have hclosed : lost.flatMap WorkerEvent.closedFor = [] := by
    simp [hlost, List.flatMap_map, WorkerEvent.closedFor, WorkerEvent.events]
  have hspent : lost.flatMap WorkerEvent.spent = command.reply.toList := by
    rw [hlost]
    cases command.reply <;> rfl
  exact
    { sound := ⟨h.sound.valid, h.sound.limit, h.sound.ended, h.sound.faults⟩
      distinct := distinct_of_fresh h hfresh
      accounts := by
        rw [Accounts, List.flatMap_append, hspent, ← List.append_assoc]
        exact List.Perm.append_right _ h.accounts
      deadlines := by
        rw [List.flatMap_append, haccepts, List.append_nil]
        exact h.deadlines
      accepted := by
        rw [List.flatMap_append, haccepts, List.append_nil]
        exact h.accepted
      known := by
        rw [List.flatMap_append, haccepts, List.append_nil]
        exact fun r hr => List.mem_append_left _ (h.known hr)
      justified := each_append.mpr ⟨h.justified, each_map.mpr fun _ _ _ _ => by
        simp [WorkerEvent.Justified]⟩
      settled := by
        rw [List.flatMap_append, hclosed, List.append_nil]
        intro r hr
        rw [List.flatMap_append]
        exact List.mem_append_left _ (h.settled r hr) }

end Send

/-- **Every action keeps the accounts.** -/
lemma Kept.act {a : StackAct B} (h : s.Kept C) (hact : s.act a = some t) : t.Kept C := by
  cases a with
  | thread action =>
    simp only [Stack.act] at hact
    split_ifs at hact with hadmissible
    obtain ⟨w, hw, rfl⟩ := Option.map_eq_some_iff.mp hact
    obtain ⟨hsound, es, hes⟩ := Worker.act_conveys h.sound hadmissible hw
    exact h.conveys hsound hes
  | send command =>
    simp only [Stack.act] at hact
    split_ifs at hact with hissued
    obtain rfl := Option.some.inj hact
    have hfresh : ∀ r ∈ command.reply, r ∉ s.issued := by
      intro r hr hmem
      simp [Option.mem_def.mp hr, hmem] at hissued
    unfold Tunnel.send
    split_ifs with halive
    · exact h.enqueue hfresh halive
    · exact h.lose hfresh
  | receive generation packet =>
    obtain rfl := Option.some.inj hact
    unfold Tunnel.receive
    split_ifs with haccept
    · simp only [Bool.and_eq_true] at haccept
      exact h.silent (.of_alive haccept.1.2 h.sound.limit h.sound.valid) rfl rfl rfl
    · exact h
  | wake =>
    obtain rfl := Option.some.inj hact
    unfold Tunnel.wake
    split_ifs with halive
    · exact h.silent (.of_alive halive h.sound.limit h.sound.valid) rfl rfl rfl
    · exact h
  | outside world bridge =>
    obtain rfl := Option.some.inj hact
    refine h.silent ⟨?_, h.sound.limit, ?_, h.sound.faults⟩ rfl rfl ?_
    · intro g e he
      obtain ⟨⟨g, e₀⟩, he₀, heq⟩ := Option.map_eq_some_iff.mp he
      obtain ⟨rfl, rfl⟩ : g = _ ∧ e₀.setBridges bridge = e := by simpa using heq
      exact { (h.sound.valid g e₀ he₀).bridges bridge with }
    · intro hdead
      obtain ⟨hcommands, hengine⟩ := h.sound.ended hdead
      exact ⟨hcommands, by simp [hengine]⟩
    · rcases hengine : s.worker.engine with _ | ⟨g, e⟩ <;>
        simp [Worker.held, hengine, Engine.pending_setBridges]

end Stack

lemma Stack.act_releases {s t : Stack B} {a : StackAct B} (hact : s.act a = some t) :
    s.worker.Releases t.worker := by
  cases a with
  | thread action =>
    simp only [Stack.act] at hact
    split_ifs at hact
    obtain ⟨w, hw, rfl⟩ := Option.map_eq_some_iff.mp hact
    exact Worker.act_releases hw
  | send command =>
    simp only [Stack.act] at hact
    split_ifs at hact
    obtain rfl := Option.some.inj hact
    unfold Tunnel.send
    split_ifs with halive
    · exact .of_log_eq rfl
    · exact .ends rfl (Bool.eq_false_iff.mpr halive)
  | receive generation packet =>
    obtain rfl := Option.some.inj hact
    unfold Tunnel.receive
    split_ifs <;> exact .of_log_eq rfl
  | wake =>
    obtain rfl := Option.some.inj hact
    unfold Tunnel.wake
    split_ifs <;> exact .of_log_eq rfl
  | outside world bridge =>
    obtain rfl := Option.some.inj hact
    exact .of_log_eq rfl

/-- What holds of the requests of a run. -/
structure Stack.Answered (s : Stack B) : Prop where
  /-- Every reply is in the queue, in the engine, or used up: in one of them, and once. -/
  once : s.issued.Nodup ∧ s.issued.Perm (s.worker.replies ++ s.worker.log.flatMap WorkerEvent.spent)
  /-- When the thread has ended, every reply is used up. -/
  ended : s.worker.alive = false → s.issued.Perm (s.worker.log.flatMap WorkerEvent.spent)
  /-- A reply is used up for a reason. -/
  justified : Each WorkerEvent.Justified s.worker.log
  /-- A reply that goes out of scope outside of an engine's own work goes with the engine that held
  it, which is gone then, or with the thread and its queue. -/
  gone : ∀ a t, s.act a = some t → s.worker.Releases t.worker
  /-- A client is connected by a flow whose socket is established. -/
  connected : ∀ r answer c, (r, answer) ∈ s.worker.log.flatMap WorkerEvent.resolves →
    Tunnel.connectResult answer = .ok c → ∃ g request socket delivered,
      .engine g (.flow request (.sendReply socket r (.ok c) delivered)) ∈ s.worker.log ∧
        B.state socket = .established
  /-- A request has one deadline, from its acceptance on. -/
  deadlines : (∀ x ∈ s.worker.held, x ∈ s.worker.log.flatMap WorkerEvent.accepts) ∧
    ((s.worker.log.flatMap WorkerEvent.accepts).map Prod.fst).Nodup
  /-- The entries of an action are what the world did in it: each value in them was sent, and each
  channel in them was looked at, then. -/
  happens : ∀ action t, s.act (.thread action) = some t → ∃ es,
    t.worker.log = s.worker.log ++ es ∧
      (threadWorld s.worker.engine).Traces s.worker.world es t.worker.world
  /-- After a step at a time `now`, which the clock says in this step, no open request is too late,
  or was seen to be abandoned in it. -/
  timely : ∀ g e t, s.worker.phase = .step → s.worker.engine = some (g, e) →
    s.act (.thread .advance) = some t → ∃ e' now es,
      t.worker.engine = some (g, e') ∧ t.worker.phase = .check ∧
        t.worker.log = s.worker.log ++ es.map (.engine g) ∧
        (⟨e, s.worker.world, []⟩ : Machine B).StepsAt now es ⟨e', t.worker.world, es⟩ ∧
          ∀ x ∈ e'.pending, now < x.2 ∧ x.1 ∉ es.flatMap Event.closedFor
  /-- No loop runs for ever. -/
  total : ∀ fault, s.worker.phase = .faulted fault →
    fault = .notUnicast ∨ ∃ text, fault = .expectFailed text

lemma Stack.Kept.connected {C : NetContract B} {s : Stack B} (h : s.Kept C) {r : Reply}
    {answer : Option B.Answer} {c : Connected B.Stream}
    (hmem : (r, answer) ∈ s.worker.log.flatMap WorkerEvent.resolves)
    (hok : Tunnel.connectResult answer = .ok c) : ∃ g request socket delivered,
      .engine g (.flow request (.sendReply socket r (.ok c) delivered)) ∈ s.worker.log ∧
        B.state socket = .established := by
  obtain ⟨e, he, hresolves⟩ := List.mem_flatMap.mp hmem
  obtain ⟨pre, hjustified⟩ := h.justified.of_mem he
  have hlost : answer ≠ none := by
    rintro rfl
    simp [Tunnel.connectResult] at hok
  cases e with
  | engine g event =>
    cases event with
    | sent reply answer' delivered =>
      obtain ⟨rfl, rfl⟩ : r = reply ∧ answer = some answer' := by
        simpa [WorkerEvent.resolves, Event.resolves] using hresolves
      obtain ⟨error, rfl⟩ := hjustified
      simp [Tunnel.connectResult] at hok
    | dropped reply cause =>
      simp [WorkerEvent.resolves, Event.resolves, hlost] at hresolves
    | flow request call =>
      cases call with
      | sendReply socket reply answer' delivered =>
        obtain ⟨rfl, rfl⟩ : r = reply ∧ answer = some answer' := by
          simpa [WorkerEvent.resolves, Event.resolves, FlowCall.resolves] using hresolves
        obtain rfl : answer' = .ok c := hok
        exact ⟨g, request, socket, delivered, he, hjustified c rfl⟩
      | _ => simp [WorkerEvent.resolves, Event.resolves, FlowCall.resolves] at hresolves
    | _ => simp [WorkerEvent.resolves, Event.resolves] at hresolves
  | refused reply delivered =>
    obtain ⟨rfl, rfl⟩ : r = reply ∧ answer = some (.error closedError) := by
      simpa [WorkerEvent.resolves] using hresolves
    simp [Tunnel.connectResult] at hok
  | dropped reply cause => simp [WorkerEvent.resolves, hlost] at hresolves
  | _ => simp [WorkerEvent.resolves] at hresolves

/-- A step leaves no request that is too late or abandoned. -/
lemma Stack.Kept.step_timely {C : NetContract B} {s t : Stack B} {g : ℕ} {e : Engine B}
    (h : s.Kept C) (hphase : s.worker.phase = .step) (hengine : s.worker.engine = some (g, e))
    (hact : s.act (.thread .advance) = some t) : ∃ e' now es,
      t.worker.engine = some (g, e') ∧ t.worker.phase = .check ∧
        t.worker.log = s.worker.log ++ es.map (.engine g) ∧
        (⟨e, s.worker.world, []⟩ : Machine B).StepsAt now es ⟨e', t.worker.world, es⟩ ∧
          ∀ x ∈ e'.pending, now < x.2 ∧ x.1 ∉ es.flatMap Event.closedFor := by
  have hkept := h.act hact
  have hstep : t.worker = s.worker.stepEngine := by
    simp only [Stack.act, Worker.Action.admissible, if_true] at hact
    obtain ⟨w, hw, rfl⟩ := Option.map_eq_some_iff.mp hact
    simp only [Worker.act, hphase] at hw
    exact (Option.some.inj hw).symm
  obtain ⟨e', es, now, -, heq, -, hsteps, hlate⟩ :=
    Worker.stepEngine_conveys hengine (h.sound.valid g e hengine)
  rw [← hstep] at heq hsteps
  have hengine' : t.worker.engine = some (g, e') := by rw [heq]
  have hlog : t.worker.log = s.worker.log ++ es.map (.engine g) := by rw [heq]
  refine ⟨e', now, es, hengine', by rw [heq], hlog, hsteps,
    fun x hx => ⟨hlate x hx, fun hclosed => ?_⟩⟩
  have hspent := hkept.settled x.1 (by
    rw [hlog, List.flatMap_append, WorkerEvent.flatMap_closedFor_engine]
    exact List.mem_append_right _ hclosed)
  apply hkept.accounts.not_mem_of_spent hkept.distinct hspent
  rw [Worker.replies, Worker.held, hengine']
  exact List.mem_append_right _ (List.mem_map_of_mem hx)

lemma Stack.kept_of_reachable (C : NetContract B) {s : Stack B}
    (h : (stackSystem B).Reachable s) : s.Kept C := by
  refine h.invariant (I := Stack.Kept C) ?_ fun s a t hs hact => hs.act hact
  rintro s ⟨config, world, hlimit, rfl⟩
  exact
    { sound := .of_alive rfl hlimit (by simp [Worker.spawn])
      distinct := List.nodup_nil
      accounts := .refl _
      deadlines := by simp [Worker.held, Worker.spawn]
      accepted := by simp [Worker.queued, Worker.spawn]
      known := by simp [Worker.queued, Worker.spawn]
      justified := each_nil
      settled := by simp [Worker.spawn] }

/-- **Every request is answered once and in time**, in every run of the worker among its clients. -/
theorem requests_answered (C : NetContract B) {s : Stack B} (h : (stackSystem B).Reachable s) :
    s.Answered := by
  have hkept := Stack.kept_of_reachable C h
  exact
    { once := ⟨hkept.distinct, hkept.accounts⟩
      ended := by
        intro hdead
        obtain ⟨hcommands, hengine⟩ := hkept.sound.ended hdead
        have haccounts := hkept.accounts
        rw [Worker.replies, Worker.queued, Worker.held, hcommands, hengine] at haccounts
        exact haccounts
      justified := hkept.justified
      gone := fun a t hact => Stack.act_releases hact
      connected := fun r answer c => hkept.connected
      deadlines := ⟨hkept.deadlines, (List.nodup_append.mp hkept.accepted).1⟩
      happens := by
        intro action t hact
        simp only [Stack.act] at hact
        split_ifs at hact
        obtain ⟨w, hw, rfl⟩ := Option.map_eq_some_iff.mp hact
        exact Worker.act_traces hw
      timely := fun g e t hphase hengine hact => hkept.step_timely hphase hengine hact
      total := hkept.sound.faults }

/-! ## A request on the reference backend -/

namespace Sample

/-- A SYN and ACK from port 80 of 198.51.100.7 to the first local port. -/
def synAck : Packet :=
  [0x45, 0, 0, 40, 0, 0, 0, 0, 64, 6, 0, 0, 198, 51, 100, 7, 10, 8, 0, 2, 0, 80, 192, 0, 0, 0, 0, 0,
    0, 0, 0, 0, 0x50, 0x12, 0, 0, 0, 0, 0, 0]

/-- The rest of an iteration when no packet is queued. -/
def iteration : List (StackAct (reference fun _ _ => .failed)) :=
  [.thread .advance, .thread .advance, .thread .advance]

/-- A session comes up, a request is dialed, and the remote accepts it. -/
def requestRun : List (StackAct (reference fun _ _ => .failed)) :=
  [.send (.online 1 ⟨some (.new 10 8 0 2), none, [], 1400⟩ 0),
    .thread (.select (.command 49152))] ++ iteration ++
  [.send (.connect (.ip (.v4 (.new 198 51 100 7))) 80 5),
    .thread (.select (.command 49152))] ++ iteration ++
  [.receive 1 synAck, .thread (.select .packet)] ++ iteration

def start : Stack (reference fun _ _ => .failed) :=
  ⟨Worker.spawn ⟨30, 0, 2, 0⟩ ⟨0, [], []⟩, []⟩

end Sample

open Sample in
/-- A request that is answered with its connection. -/
theorem requests_answered_dialed : ∃ s, System.replay Stack.act start requestRun = some s ∧
    s.issued = [5] ∧ s.worker.replies = [] ∧
    (s.worker.log.flatMap WorkerEvent.resolves).map
      (fun x => (x.1, x.2.map Except.isOk)) = [(5, some true)] ∧ s.Answered := by
  refine ⟨_, rfl, rfl, rfl, rfl, requests_answered (Reference.netContract _)
    ⟨start, requestRun, ⟨⟨30, 0, 2, 0⟩, ⟨0, [], []⟩, by decide, rfl⟩, System.Run.of_replay rfl⟩⟩

end Ovpnlane
