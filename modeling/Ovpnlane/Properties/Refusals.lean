import Ovpnlane.Properties.Generations

/-!
# A packet that is refused

When OpenVPN Core refuses a packet, the device is marked failed in the middle of a poll of the
interface, and the thread looks at the mark at the end of its iteration only.  What happens in
between: `refusal` reads off the log which engine had a packet refused and is still there, and
`Halts` is what may be logged while there is one.  The engine finishes the step it is in; then it is
dropped, before the thread takes another packet or command.  `Standing` is the invariant that ties
the log to the mark and to the place of the thread.
-/

namespace Ovpnlane

variable {B : Backend} {C : NetContract B}

/-- The sink refused a packet. -/
def Event.isRefused : Event B → Bool
  | .transmitted _ taken => !taken
  | _ => false

/-! ## The mark of the device -/

namespace Machine

variable {m s m' : Machine B} {now : Instant} {steps steps' : ℕ}

/-- From `m` to `s`, in the course of so many steps, the device has been marked for the packets that
were refused. -/
def Marks (m s : Machine B) (steps : ℕ) : Prop :=
  ∃ es, s.log = m.log ++ es ∧
    s.engine.device.failed = (m.engine.device.failed || es.any Event.isRefused) ∧
    es.countP Event.isStep = steps

lemma Marks.trans (h : m.Marks s steps) (h' : s.Marks m' steps') : m.Marks m' (steps + steps') := by
  obtain ⟨es, hlog, hfailed, hsteps⟩ := h
  obtain ⟨es', hlog', hfailed', hsteps'⟩ := h'
  refine ⟨es ++ es', by rw [hlog', hlog, List.append_assoc], ?_, ?_⟩
  · rw [hfailed', hfailed, List.any_append, Bool.or_assoc]
  · rw [List.countP_append, hsteps, hsteps']

lemma Marks.refl (m : Machine B) : m.Marks m 0 :=
  ⟨[], (List.append_nil _).symm, (Bool.or_false _).symm, rfl⟩

/-- From `m` to `m'` the device is left alone. -/
structure Spares (m m' : Machine B) : Prop where
  device_eq : m'.engine.device = m.engine.device
  log_eq : ∃ es, m'.log = m.log ++ es ∧ ∀ e ∈ es, e.isRefused = false ∧ e.isStep = false

lemma Spares.trans (h : m.Spares s) (h' : s.Spares m') : m.Spares m' := by
  obtain ⟨es, hlog, hes⟩ := h.log_eq
  obtain ⟨es', hlog', hes'⟩ := h'.log_eq
  exact ⟨h'.device_eq.trans h.device_eq, es ++ es', by rw [hlog', hlog, List.append_assoc],
    List.forall_mem_append.mpr ⟨hes, hes'⟩⟩

lemma Spares.marks (h : m.Spares m') : m.Marks m' 0 := by
  obtain ⟨es, hlog, hes⟩ := h.log_eq
  refine ⟨es, hlog, ?_, List.countP_eq_zero.mpr fun e he => by simp [(hes e he).2]⟩
  rw [h.device_eq, List.any_eq_false.mpr fun e he => by simp [(hes e he).1], Bool.or_false]

lemma deviceOps_marks (ops : List DeviceOp) (m : Machine B) : m.Marks (ops.foldl deviceOp m) 0 := by
  induction ops generalizing m with
  | nil => exact .refl m
  | cons op ops ih =>
    have hop : m.Marks (m.deviceOp op) 0 := by
      cases op with
      | receive => exact ⟨[], (List.append_nil _).symm, by simp [deviceOp], rfl⟩
      | transmit packet =>
        exact ⟨[.transmitted packet _], rfl, by simp [deviceOp, Event.isRefused], rfl⟩
    exact hop.trans (ih _)

/-- A poll of the interface. -/
lemma pollIface_marks (m : Machine B) (t : ℕ) : m.Marks (m.pollIface t) 0 :=
  deviceOps_marks (B.ifacePoll m.engine.net t m.engine.device.incoming).1
    (m.setNet (B.ifacePoll m.engine.net t m.engine.device.incoming).2)

/-! ### Requests and visits -/

lemma Dialed.spares {ip : IpAddr} {port : ℕ} {reply : Reply} {deadline : Instant}
    (hd : Dialed C m ip port reply deadline m') : m.Spares m' := by
  refine ⟨hd.device, ?_⟩
  cases hd with
  | refused _ _ _ _ _ _ _ hlog | opened _ _ _ _ _ _ _ _ _ _ _ _ _ _ hlog =>
    exact ⟨_, hlog, by simp [Event.isRefused, Event.isStep]⟩

lemma LookupVisit.spares {lookup : Lookup} {w : Verdict Lookup}
    (hv : LookupVisit C now m lookup m' w) : m.Spares m' := by
  have hdevice := hv.device
  cases hv with
  | expired _ _ _ _ _ _ hlog | pending _ _ _ _ hlog | again _ _ _ _ _ _ _ _ _ _ _ hlog =>
    exact ⟨hdevice, _, hlog, by simp [Event.isRefused, Event.isStep]⟩
  | resolved m₁ _ _ _ _ _ hengine hlog hdial =>
    have hfound : m.Spares m₁ :=
      ⟨by rw [hengine], _, hlog, by simp [Event.isRefused, Event.isStep]⟩
    exact hfound.trans hdial.spares
  | failed _ _ _ _ _ _ _ _ hevents hlog =>
    refine ⟨hdevice, _, by rw [hlog, List.append_assoc, List.append_assoc], ?_⟩
    rcases hevents with rfl | ⟨_, _, rfl⟩ <;> simp [Event.isRefused, Event.isStep]

lemma FlowVisit.spares {flow : Flow B} {w : Verdict (Flow B)}
    (hv : FlowVisit C now m flow m' w) : m.Spares m' := by
  have hcalls : ∀ calls : List (FlowCall B), ∀ e ∈ calls.map (Event.flow flow.request),
      e.isRefused = false ∧ e.isStep = false := by
    intro calls e he
    obtain ⟨_, -, rfl⟩ := List.mem_map.mp he
    exact ⟨rfl, rfl⟩
  refine ⟨hv.device, ?_⟩
  cases hv with
  | kept _ p _ _ _ _ hlog => exact ⟨_, hlog, hcalls p.calls⟩
  | dropped _ p _ _ _ _ hlog =>
    refine ⟨_, by rw [hlog, List.append_assoc], fun e he => ?_⟩
    rcases List.mem_append.mp he with he | he
    · exact hcalls p.calls e he
    · obtain ⟨_, -, rfl⟩ := List.mem_map.mp he
      exact ⟨rfl, rfl⟩

/-- A request. -/
lemma connect_spares {target : Target} {port : ℕ} {reply : Reply} (h : m.engine.Valid C)
    (hok : m.connect target port reply = .ok m') : m.Spares m' := by
  have hdevice := connect_device h hok
  obtain ⟨_, hok', hrequested, -⟩ := connect_rule h target port reply
  obtain rfl := Except.ok.inj (hok.symm.trans hok')
  cases hrequested with
  | gone _ hlog | full _ _ _ hlog | lookedUp _ _ _ _ _ _ _ _ hlog =>
    exact ⟨hdevice, _, hlog, by simp [Event.isRefused, Event.isStep]⟩
  | refused _ _ _ _ _ _ _ _ hevents hlog =>
    refine ⟨hdevice, _, by rw [hlog, List.append_assoc, List.append_assoc], ?_⟩
    rcases hevents with rfl | ⟨_, _, _, rfl⟩ <;> simp [Event.isRefused, Event.isStep]
  | dialed m₁ _ _ _ _ hengine hlog hdial =>
    have haccepted : m.Spares m₁ :=
      ⟨by rw [hengine], _, hlog, by simp [Event.isRefused, Event.isStep]⟩
    exact haccepted.trans hdial.spares

/-- **A step** marks the device for what is refused in it. -/
lemma step_marks (h : m.engine.Valid C) (hok : m.step = .ok m') : m.Marks m' 1 := by
  obtain ⟨t, _, s, l, hok', -, hmarks⟩ := @step_visits B C m (fun _ s _ _ => m.Marks s 1)
    (fun _ s _ _ => m.Marks s 1) h
    (fun t now s hpolled => by
      obtain ⟨world, world', rfl⟩ := hpolled
      have hpoll := pollIface_marks { m with world := world } t
      have hclock : (({ m with world := world } : Machine B).pollIface t).Marks
          ((({ m with world := world } : Machine B).pollIface t).note (.stepAt now)) 1 :=
        ⟨[.stepAt now], rfl, (Bool.or_false _).symm, rfl⟩
      exact hpoll.trans hclock)
    (fun _ _ _ _ _ _ w _ hL _ hv => w.after_of_forall fun _ _ => hL.trans hv.spares.marks)
    (fun _ _ _ _ hL => hL)
    (fun _ _ _ _ _ _ w _ hF _ hv => w.after_of_forall fun _ _ => hF.trans hv.spares.marks)
  obtain rfl := Except.ok.inj (hok.symm.trans hok')
  exact hmarks.trans (pollIface_marks (s.setFlows l) t)

end Machine

/-! ## What the log says -/

namespace WorkerEvent

/-- The generation of an engine that had a packet refused and has not been removed, and the steps it
has begun since: what an entry makes of it. -/
def refusing : Option (ℕ × ℕ) → WorkerEvent B → Option (ℕ × ℕ)
  | none, .engine generation event => if event.isRefused then some (generation, 0) else none
  | none, _ => none
  | some (generation, steps), .engine _ event =>
    some (generation, if event.isStep then steps + 1 else steps)
  | some _, .removed _ => none
  | some state, _ => some state

/-- What a log makes of it. -/
def refusal (log : List (WorkerEvent B)) : Option (ℕ × ℕ) := log.foldl refusing none

/-- The entry is about a packet that was refused. -/
def isRefused : WorkerEvent B → Bool
  | .engine _ event => event.isRefused
  | _ => false

/-- What may be logged while that engine is there: what it does in the step it is in, and its
end. -/
def Ends (generation steps : ℕ) : WorkerEvent B → Prop
  | .engine current event => current = generation ∧ (event.isStep = true → steps = 0)
  | .dropped _ cause => cause = .engineGone
  | .removed current => current = generation
  | _ => False

/-- A refused engine goes no further. -/
def Halts (pre : List (WorkerEvent B)) (e : WorkerEvent B) : Prop :=
  ∀ generation steps, refusal pre = some (generation, steps) → e.Ends generation steps

variable {log es : List (WorkerEvent B)} {e : WorkerEvent B} {generation steps : ℕ}

lemma refusal_concat (log : List (WorkerEvent B)) (e : WorkerEvent B) :
    refusal (log ++ [e]) = refusing (refusal log) e := by
  simp [refusal]

lemma halts_of_none (h : refusal log = none) : Halts log e := by
  intro generation steps hsome
  rw [h] at hsome
  contradiction

lemma halts_of_ends (h : refusal log = some (generation, steps)) (he : e.Ends generation steps) :
    Halts log e := by
  intro generation' steps' hsome
  obtain ⟨rfl, rfl⟩ := Prod.mk.inj (Option.some.inj (h.symm.trans hsome))
  exact he

/-- Where no engine has been refused a packet, entries that refuse none change nothing. -/
lemma halts_append_of_quiet (h : refusal log = none) (hhalts : Each Halts log)
    (hes : ∀ e ∈ es, e.isRefused = false) :
    Each Halts (log ++ es) ∧ refusal (log ++ es) = none := by
  induction es using List.reverseRecOn with
  | nil => simpa using ⟨hhalts, h⟩
  | append_singleton es e ih =>
    obtain ⟨hes, he⟩ := List.forall_mem_append.mp hes
    obtain ⟨hbefore, hnone⟩ := ih hes
    rw [← List.append_assoc, each_concat, refusal_concat, hnone]
    refine ⟨⟨hbefore, halts_of_none hnone⟩, ?_⟩
    cases e with
    | engine _ event => simpa [refusing, isRefused] using he
    | _ => rfl

/-- The entries of one step: what is refused in it halts what comes after it. -/
lemma halts_append_step {events : List (Event B)} (h : refusal log = none)
    (hhalts : Each Halts log) (hsteps : events.countP Event.isStep ≤ 1) :
    Each Halts (log ++ events.map (engine generation)) ∧
      if events.any Event.isRefused = true then ∃ steps ≤ events.countP Event.isStep,
        refusal (log ++ events.map (engine generation)) = some (generation, steps)
      else refusal (log ++ events.map (engine generation)) = none := by
  induction events using List.reverseRecOn with
  | nil => simpa using ⟨hhalts, h⟩
  | append_singleton events event ih =>
    rw [List.countP_append, List.countP_singleton] at hsteps
    obtain ⟨hbefore, hstate⟩ := ih (le_trans (Nat.le_add_right _ _) hsteps)
    rw [List.map_append, List.map_singleton, ← List.append_assoc, each_concat, refusal_concat,
      List.any_append, List.countP_append, List.countP_singleton]
    split_ifs at hstate with hany
    · obtain ⟨steps, hle, hstate⟩ := hstate
      rw [hstate, hany, Bool.true_or, if_pos rfl]
      refine ⟨⟨hbefore, halts_of_ends hstate ⟨rfl, fun hstep => ?_⟩⟩, _, ?_, rfl⟩
      · rw [if_pos hstep] at hsteps
        omega
      · split_ifs <;> omega
    · rw [Bool.not_eq_true] at hany
      rw [hstate, hany, Bool.false_or, List.any_cons, List.any_nil, Bool.or_false]
      refine ⟨⟨hbefore, halts_of_none hstate⟩, ?_⟩
      by_cases hrefused : event.isRefused = true
      · rw [if_pos hrefused]
        exact ⟨0, Nat.zero_le _, if_pos hrefused⟩
      · rw [if_neg hrefused]
        exact if_neg hrefused

/-- The entries of its end. -/
lemma halts_append_drop {replies : List Reply} (h : refusal log = some (generation, steps))
    (hhalts : Each Halts log) :
    Each Halts (log ++ replies.map (dropped · .engineGone) ++ [.removed generation]) ∧
      refusal (log ++ replies.map (dropped · .engineGone) ++ [.removed generation]) = none := by
  have hdropped : ∀ replies : List Reply,
      Each Halts (log ++ replies.map (dropped · .engineGone)) ∧
        refusal (log ++ replies.map (dropped · .engineGone)) = some (generation, steps) := by
    intro replies
    induction replies using List.reverseRecOn with
    | nil => simpa using ⟨hhalts, h⟩
    | append_singleton replies reply ih =>
      rw [List.map_append, List.map_singleton, ← List.append_assoc, each_concat,
        refusal_concat, ih.2]
      exact ⟨⟨ih.1, halts_of_ends ih.2 rfl⟩, rfl⟩
  obtain ⟨hhalts', hstate⟩ := hdropped replies
  rw [each_concat, refusal_concat, hstate]
  exact ⟨⟨hhalts', halts_of_ends hstate rfl⟩, rfl⟩

end WorkerEvent

/-! ## The thread -/

namespace Worker

variable {w w' : Worker B}

/-- No packet of the engine has been refused. -/
def Unmarked (w : Worker B) : Prop :=
  ∀ generation e, w.engine = some (generation, e) → e.device.failed = false

/-- What the log says, what the engine is marked with, and where the thread is. -/
inductive Standing (w : Worker B) : Prop
  | sound (hunmarked : w.Unmarked) (hlog : WorkerEvent.refusal w.log = none)
  | refused (generation steps : ℕ) (e : Engine B) (hengine : w.engine = some (generation, e))
      (hfailed : e.device.failed = true)
      (hlog : WorkerEvent.refusal w.log = some (generation, steps)) (hphase : w.phase = .check)

/-- What every action keeps. -/
structure Heeds (w : Worker B) : Prop where
  halts : Each WorkerEvent.Halts w.log
  standing : w.Standing

/-- Nothing is refused on the way. -/
def Calm (w w' : Worker B) : Prop :=
  ∃ es, w'.log = w.log ++ es ∧ (∀ e ∈ es, e.isRefused = false) ∧ (w.Unmarked → w'.Unmarked)

lemma Calm.refl (w : Worker B) : w.Calm w := ⟨[], (List.append_nil _).symm, by simp, id⟩

lemma Calm.trans {v : Worker B} (h : w.Calm v) (h' : v.Calm w') : w.Calm w' := by
  obtain ⟨es, hlog, hes, hmark⟩ := h
  obtain ⟨es', hlog', hes', hmark'⟩ := h'
  exact ⟨es ++ es', by rw [hlog', hlog, List.append_assoc],
    List.forall_mem_append.mpr ⟨hes, hes'⟩, hmark' ∘ hmark⟩

lemma Calm.heeds (hc : w.Calm w') (h : w.Heeds) (hphase : w.phase ≠ .check) : w'.Heeds := by
  obtain ⟨es, hlog, hes, hmark⟩ := hc
  cases h.standing with
  | sound hunmarked hnone =>
    obtain ⟨hhalts, hnone'⟩ := WorkerEvent.halts_append_of_quiet hnone h.halts hes
    rw [← hlog] at hhalts hnone'
    exact ⟨hhalts, .sound (hmark hunmarked) hnone'⟩
  | refused _ _ _ _ _ _ hcheck => exact absurd hcheck hphase

/-! ### The arms of the `select!` -/

lemma dropEngine_calm (w : Worker B) : w.Calm w.dropEngine := by
  rcases hengine : w.engine with _ | ⟨generation, e⟩
  · have heq : w.dropEngine = w := by rw [dropEngine, hengine]
    rw [heq]
    exact .refl w
  · have heq : w.dropEngine = { w with
        engine := none
        log := w.log ++ e.replies.map (.dropped · .engineGone) ++ [.removed generation] } := by
      rw [dropEngine, hengine]
    rw [heq]
    refine ⟨_, List.append_assoc .., fun e' he' => ?_, fun _ _ _ h => by simp at h⟩
    simp only [List.mem_append, List.mem_map, List.mem_singleton] at he'
    rcases he' with ⟨_, -, rfl⟩ | rfl <;> rfl

lemma finish_calm (w : Worker B) (phase : Phase) : w.Calm (w.finish phase) := by
  refine w.dropEngine_calm.trans ⟨_, rfl, fun e he => ?_, id⟩
  obtain ⟨_, -, rfl⟩ := List.mem_map.mp he
  rfl

lemma online_calm (w : Worker B) (generation : ℕ) (settings : Settings) (sink : SinkId)
    (nextPort : ℕ) : w.Calm (w.online generation settings sink nextPort) := by
  unfold online
  split
  · exact w.finish_calm _
  · next e hnew =>
    obtain ⟨_, _, _, _, -, -, -, rfl⟩ := Engine.new_eq_ok hnew
    refine w.dropEngine_calm.trans ⟨[.built generation], rfl, by simp [WorkerEvent.isRefused], ?_⟩
    rintro - generation' e' heq
    obtain ⟨-, rfl⟩ := Prod.mk.inj (Option.some.inj heq)
    rfl

lemma offline_calm (w : Worker B) (generation : ℕ) : w.Calm (w.offline generation) := by
  unfold offline
  split
  · split_ifs
    · exact w.dropEngine_calm
    · exact .refl w
  · exact .refl w

lemma connect_calm (w : Worker B) (target : Target) (port : ℕ) (reply : Reply)
    (hvalid : ∀ g e, w.engine = some (g, e) → e.Valid C) :
    w.Calm (w.connect target port reply) := by
  unfold connect
  split
  · next generation e hengine =>
    split
    · next w₁ hok =>
      obtain ⟨m, hcall, rfl⟩ := except_map_eq_ok.mp hok
      have hspares := @Machine.connect_spares B C ⟨e, w.world, []⟩ _ _ _ _
        (hvalid generation e hengine) hcall
      obtain ⟨es, hlog, hes⟩ := hspares.log_eq
      refine ⟨m.log.map (.engine generation), rfl, fun x hx => ?_, fun hunmarked g e' he' => ?_⟩
      · obtain ⟨event, hevent, rfl⟩ := List.mem_map.mp hx
        rw [hlog, List.nil_append] at hevent
        exact (hes event hevent).1
      · obtain ⟨-, rfl⟩ := Prod.mk.inj (Option.some.inj he')
        rw [hspares.device_eq]
        exact hunmarked generation e hengine
    · have hdropped : w.Calm { w with log := w.log ++ [.dropped reply .engineGone] } :=
        ⟨[.dropped reply .engineGone], rfl, by simp [WorkerEvent.isRefused], id⟩
      exact hdropped.trans (finish_calm _ _)
  · exact ⟨_, rfl, by simp [WorkerEvent.isRefused], fun h => h⟩

lemma takePacket_calm (w : Worker B) (tag : ℕ) (packet : Packet) :
    w.Calm (w.takePacket tag packet) := by
  have htaken : w.Calm { w with
      log := w.log ++ [.dequeued tag packet (w.engine.map Prod.fst)] } :=
    ⟨_, rfl, by simp [WorkerEvent.isRefused], id⟩
  unfold takePacket
  rcases hengine : w.engine with _ | ⟨current, e⟩
  · simpa [hengine] using htaken
  · rw [hengine] at htaken
    simp only
    split_ifs
    · refine htaken.trans ⟨[.pushed current packet], rfl, by simp [WorkerEvent.isRefused],
        fun hunmarked g e' he' => ?_⟩
      obtain ⟨-, rfl⟩ := Prod.mk.inj (Option.some.inj he')
      exact hunmarked current e rfl
    · exact htaken

lemma afterSelect_calm (w : Worker B) : w.Calm w.afterSelect := by
  unfold afterSelect
  split_ifs <;> exact .refl w

lemma select_calm {choice : Choice} (h : w.Sound C) (hact : w.select choice = some w') :
    w.Calm w' := by
  cases choice with
  | command nextPort =>
    rcases hcommands : w.commands with _ | ⟨command, rest⟩ <;>
      simp only [select, hcommands] at hact
    · simp at hact
    obtain rfl := Option.some.inj hact
    refine Calm.trans ?_ (afterSelect_calm _)
    cases command with
    | online generation settings sink =>
      exact online_calm { w with commands := rest } generation settings sink nextPort
    | offline generation => exact offline_calm { w with commands := rest } generation
    | connect target port reply =>
      exact connect_calm { w with commands := rest } target port reply h.valid
    | shutdown => exact finish_calm { w with commands := rest } .stopped
  | packet =>
    rcases hpackets : w.packets with _ | ⟨⟨tag, packet⟩, rest⟩ <;>
      simp only [select, hpackets] at hact
    · simp at hact
    obtain rfl := Option.some.inj hact
    exact (takePacket_calm { w with packets := rest } tag packet).trans (afterSelect_calm _)
  | hangup =>
    simp only [select] at hact
    split_ifs at hact
    obtain rfl := Option.some.inj hact
    exact w.finish_calm _
  | packetHangup | timeout =>
    simp only [select] at hact
    split_ifs at hact
    obtain rfl := Option.some.inj hact
    exact w.afterSelect_calm
  | wake =>
    simp only [select] at hact
    split_ifs at hact
    obtain rfl := Option.some.inj hact
    exact afterSelect_calm { w with wake := false }

/-! ### The rest of an iteration -/

lemma stepEngine_heeds (h : w.Heeds) (hsound : w.Sound C) (hphase : w.phase = .step) :
    w.stepEngine.Heeds := by
  obtain ⟨hhalts, hstanding⟩ := h
  cases hstanding with
  | refused _ _ _ _ _ _ hcheck =>
    rw [hphase] at hcheck
    contradiction
  | sound hunmarked hnone =>
    rcases hengine : w.engine with _ | ⟨generation, e⟩
    · have heq : w.stepEngine = { w with phase := .check } := by rw [stepEngine, hengine]
      rw [heq]
      exact ⟨hhalts, .sound hunmarked hnone⟩
    · have hvalid := hsound.valid generation e hengine
      obtain ⟨m', _, _, hok, -⟩ := @Machine.step_handled B C ⟨e, w.world, []⟩ hvalid
      have heq : w.stepEngine = { w with
          engine := some (generation, m'.engine), world := m'.world, phase := .check
          log := w.log ++ m'.log.map (.engine generation) } := by
        simp only [stepEngine, hengine, onEngine, hok, Except.map]
      obtain ⟨es, hlog, hfailed, hsteps⟩ := Machine.step_marks hvalid hok
      obtain rfl : m'.log = es := hlog
      rw [hunmarked generation e hengine, Bool.false_or] at hfailed
      obtain ⟨hhalts', hstate⟩ :=
        @WorkerEvent.halts_append_step B w.log generation m'.log hnone hhalts hsteps.le
      rw [heq]
      refine ⟨hhalts', ?_⟩
      split_ifs at hstate with hrefused
      · obtain ⟨steps, -, hstate⟩ := hstate
        exact .refused generation steps m'.engine rfl (hfailed.trans hrefused) hstate rfl
      · refine .sound (fun g e' he' => ?_) hstate
        obtain ⟨-, rfl⟩ := Prod.mk.inj (Option.some.inj he')
        rw [hfailed, Bool.eq_false_iff]
        exact hrefused

/-- A marked engine is dropped. -/
lemma checkFailed_marked {generation : ℕ} {e : Engine B} (hengine : w.engine = some (generation, e))
    (hfailed : e.device.failed = true) : w.checkFailed = { w with
      engine := none, phase := .select
      log := w.log ++ e.replies.map (.dropped · .engineGone) ++ [.removed generation] } := by
  simp only [checkFailed, hengine, hfailed, if_true, dropEngine]

/-- Another one stays. -/
lemma checkFailed_unmarked (h : w.Unmarked) : w.checkFailed = { w with phase := .select } := by
  rcases hengine : w.engine with _ | ⟨generation, e⟩
  · simp [checkFailed, hengine]
  · simp [checkFailed, hengine, h generation e hengine]

lemma checkFailed_heeds (h : w.Heeds) : w.checkFailed.Heeds := by
  cases h.standing with
  | sound hunmarked hnone =>
    rw [checkFailed_unmarked hunmarked]
    exact ⟨h.halts, .sound hunmarked hnone⟩
  | refused generation steps e hengine hfailed hlog =>
    rw [checkFailed_marked hengine hfailed]
    obtain ⟨hhalts, hnone⟩ := WorkerEvent.halts_append_drop hlog h.halts
    exact ⟨hhalts, .sound (fun _ _ he => by simp at he) hnone⟩

/-- **An action of the thread.** -/
lemma act_heeds {action : Action} (h : w.Heeds) (hsound : w.Sound C)
    (hact : w.act action = some w') : w'.Heeds := by
  cases action with
  | select choice =>
    simp only [act] at hact
    split_ifs at hact with hphase
    exact (select_calm hsound hact).heeds h (by simp [hphase])
  | advance =>
    simp only [act] at hact
    split at hact
    · next left hphase =>
      obtain rfl := Option.some.inj hact
      refine Calm.heeds ?_ h (by simp [hphase])
      unfold drain
      split
      · next left tag packet rest _ =>
        exact takePacket_calm { w with packets := rest, phase := .drain left } tag packet
      · exact .refl w
    · next hphase =>
      obtain rfl := Option.some.inj hact
      exact stepEngine_heeds h hsound hphase
    · obtain rfl := Option.some.inj hact
      exact checkFailed_heeds h
    · simp at hact

/-- What the others do leaves the log alone, or the thread has ended. -/
lemma Heeds.frame (h : w.Heeds) (hlog : w'.log = w.log) (hphase : w'.phase = w.phase)
    (hengine : w'.engine = w.engine) : w'.Heeds := by
  refine ⟨hlog ▸ h.halts, ?_⟩
  cases h.standing with
  | sound hunmarked hnone =>
    exact .sound (fun g e he => hunmarked g e (hengine ▸ he)) (hlog ▸ hnone)
  | refused generation steps e he hfailed hstate hcheck =>
    exact .refused generation steps e (hengine.trans he) hfailed (hlog ▸ hstate)
      (hphase.trans hcheck)

lemma send_heeds (h : w.Heeds) (command : Command) : (Tunnel.send w command).1.Heeds := by
  unfold Tunnel.send
  split_ifs with halive
  · exact h.frame rfl rfl rfl
  · refine Calm.heeds ⟨_, rfl, fun e he => ?_, id⟩ h fun hcheck => halive (by simp [alive, hcheck])
    obtain ⟨_, -, rfl⟩ := List.mem_map.mp he
    rfl

end Worker

/-! ## The worker of every run -/

namespace Stack

lemma heeds_of_act {s t : Stack B} {a : StackAct B} (hkept : s.Kept C) (h : s.worker.Heeds)
    (hact : s.act a = some t) : t.worker.Heeds := by
  cases a with
  | thread action =>
    simp only [Stack.act] at hact
    split_ifs at hact
    obtain ⟨w, hw, rfl⟩ := Option.map_eq_some_iff.mp hact
    exact Worker.act_heeds h hkept.sound hw
  | send command =>
    simp only [Stack.act] at hact
    split_ifs at hact
    obtain rfl := Option.some.inj hact
    exact Worker.send_heeds h command
  | receive generation packet =>
    obtain rfl := Option.some.inj hact
    rw [(s.worker.receive_frame generation packet).1]
    exact h.frame rfl rfl rfl
  | wake =>
    obtain rfl := Option.some.inj hact
    unfold Tunnel.wake
    split_ifs <;> exact h.frame rfl rfl rfl
  | outside world bridge =>
    obtain rfl := Option.some.inj hact
    refine ⟨h.halts, ?_⟩
    cases h.standing with
    | sound hunmarked hnone =>
      refine .sound (fun g e he => ?_) hnone
      obtain ⟨⟨g₀, e₀⟩, he₀, heq⟩ := Option.map_eq_some_iff.mp he
      obtain ⟨-, rfl⟩ := Prod.mk.inj heq
      exact hunmarked g₀ e₀ he₀
    | refused generation steps e he hfailed hstate hcheck =>
      exact .refused generation steps (e.setBridges bridge) (by simp [he]) hfailed hstate hcheck

lemma heeds_of_reachable (C : NetContract B) {s : Stack B} (h : (stackSystem B).Reachable s) :
    s.worker.Heeds := by
  refine h.invariant_of_reachable (I := fun s => s.worker.Heeds) ?_
    fun s a t hreachable hs hact => heeds_of_act (kept_of_reachable C hreachable) hs hact
  rintro s ⟨config, world, -, rfl⟩
  exact ⟨each_nil, .sound (by simp [Worker.Unmarked, Worker.spawn]) rfl⟩

end Stack

/-- **A refused packet ends its engine**, in every run of the worker: from the refusal on nothing is
logged but what the engine does in the step it is in and its end; the mark of the device says which
engine that is; and while it is there the thread has one thing to do, which is to drop it.  An
engine that was refused nothing is kept. -/
theorem refusal_ends_engine (C : NetContract B) {s : Stack B} (h : (stackSystem B).Reachable s) :
    Each WorkerEvent.Halts s.worker.log ∧
      (∀ g e, s.worker.engine = some (g, e) → (e.device.failed = true ↔
        ∃ steps, WorkerEvent.refusal s.worker.log = some (g, steps))) ∧
      (∀ g steps, WorkerEvent.refusal s.worker.log = some (g, steps) →
        ∃ e, s.worker.engine = some (g, e) ∧ s.worker.phase = .check ∧
          ∀ action w, s.worker.act action = some w → action = .advance ∧ w.engine = none ∧
            w.log = s.worker.log ++ e.replies.map (.dropped · .engineGone) ++ [.removed g]) ∧
      (s.worker.phase = .check → WorkerEvent.refusal s.worker.log = none →
        s.worker.checkFailed = { s.worker with phase := .select }) := by
  have hheeds := Stack.heeds_of_reachable C h
  refine ⟨hheeds.halts, ?_⟩
  cases hheeds.standing with
  | sound hunmarked hnone =>
    refine ⟨fun g e he => ?_, fun g steps hsome => ?_,
      fun _ _ => Worker.checkFailed_unmarked hunmarked⟩
    · simp [hunmarked g e he, hnone]
    · rw [hnone] at hsome
      contradiction
  | refused generation steps e hengine hfailed hlog hphase =>
    refine ⟨fun g e' he' => ?_, fun g steps' hsome => ?_, fun _ hnone => ?_⟩
    · obtain ⟨rfl, rfl⟩ := Prod.mk.inj (Option.some.inj (hengine.symm.trans he'))
      exact ⟨fun _ => ⟨steps, hlog⟩, fun _ => hfailed⟩
    · obtain ⟨rfl, -⟩ := Prod.mk.inj (Option.some.inj (hlog.symm.trans hsome))
      refine ⟨e, hengine, hphase, fun action w hact => ?_⟩
      cases action with
      | select choice => simp [Worker.act, hphase] at hact
      | advance =>
        simp only [Worker.act, hphase, Option.some.injEq] at hact
        obtain rfl := hact
        rw [Worker.checkFailed_marked hengine hfailed]
        exact ⟨rfl, rfl, rfl⟩
    · rw [hlog] at hnone
      contradiction

/-! ## A sink that is gone -/

namespace Sample

/-- A session comes up, its sink goes, and a request is dialed. -/
def deadSinkRun : List (StackAct (reference fun _ _ => .failed)) :=
  [.send (.online 1 ⟨some (.new 10 8 0 2), none, [], 1400⟩ 0),
    .thread (.select (.command 49152))] ++ iteration ++
  [.outside ⟨0, [], [0]⟩ fun f => f.bridge,
    .send (.connect (.ip (.v4 (.new 198 51 100 7))) 80 5),
    .thread (.select (.command 49152)), .thread .advance, .thread .advance]

end Sample

open Sample in
/-- The SYN is refused at the start of the step, which goes on; then the engine is dropped with the
request. -/
theorem refusal_ends_engine_dead : ∃ s w, System.replay Stack.act start deadSinkRun = some s ∧
    WorkerEvent.refusal s.worker.log = some (1, 1) ∧ s.worker.act .advance = some w ∧
      w.engine = none ∧ ∃ replies : List Reply, replies = [5] ∧
        w.log = s.worker.log ++ replies.map (.dropped · .engineGone) ++ [.removed 1] := by
  obtain ⟨-, -, hrefused, -⟩ := refusal_ends_engine (Reference.netContract fun _ _ => .failed)
    ⟨start, deadSinkRun, ⟨⟨30, 0, 2, 0⟩, ⟨0, [], []⟩, by decide, rfl⟩, System.Run.of_replay rfl⟩
  obtain ⟨e, hengine, -, hends⟩ := hrefused 1 1 rfl
  obtain ⟨-, hnone, hlog⟩ := hends .advance _ rfl
  refine ⟨_, _, rfl, rfl, rfl, hnone, e.replies, ?_, hlog⟩
  obtain ⟨-, rfl⟩ := Prod.mk.inj (Option.some.inj hengine)
  rfl

end Ovpnlane
