import Ovpnlane.Construction.Process
import Ovpnlane.Properties.Generations
import Ovpnlane.Properties.SavePassword
import Ovpnlane.Properties.ServeLoop
import Ovpnlane.Properties.SocksLimit

/-!
# The end of the process

What `main` leaves behind when it has come through its shutdown sequence, and that it always can.

The process is `connectionSystem` and `serveSystem` at once: each of its steps is a step of either
or leaves it alone (`process_refines_main`, `process_refines_serve`), so what is known of every run
of those holds here.  `Process.Orderly` is what the order of `main`'s steps adds to that.

* `process_leaves_nothing`: once the worker has been joined, its thread is gone and every request
  was answered or dropped, once; and if `main` went through its shutdown sequence, no task of
  `serve` and no session is left.
* `process_can_end`: from every state behind the `select!`, steps of the parts that are to end lead
  to that state.
-/

namespace Ovpnlane

variable {B : Backend} {C : NetContract B}

/-! ## The worker after `Shutdown` -/

/-- How far the thread is from its next `select!`. -/
def Phase.distance : Phase → ℕ
  | .drain left => left + 3
  | .step => 2
  | .check => 1
  | .select | .stopped | .faulted _ => 0

namespace Worker

variable {w w' : Worker B}

/-- The thread has ended, or `Shutdown` is in its queue. -/
def Leaving (w : Worker B) : Prop := w.alive = true → Command.shutdown ∈ w.commands

lemma Processed.ne_shutdown {limit : ℕ} {engine engine' : Option (ℕ × Engine B)}
    {command : Command} {es : List (WorkerEvent B)}
    (h : Processed limit engine command engine' es) : command ≠ .shutdown := by
  rintro rfl
  cases h

/-- `Shutdown` stays in the queue until it is taken, and then the thread ends. -/
lemma Leaving.act (h : w.Leaving) (hsound : w.Sound C) {action : Action}
    (hact : w.act action = some w') : w'.Leaving := by
  have hshutdown := h (alive_of_act hact)
  have hturn := act_turn hsound hact
  cases hturn with
  | idle hcommands | delivered _ _ _ hcommands | discarded _ _ hcommands | stepped _ _ _ _ hcommands
  | failed _ hcommands =>
    intro _
    rwa [hcommands]
  | processed command es hcommands hpackets hcommand =>
    intro _
    rw [hcommands] at hshutdown
    exact (List.mem_cons.mp hshutdown).resolve_left hcommand.ne_shutdown.symm
  | ended _ _ _ _ _ hdead => exact fun halive => by simp [hdead] at halive

/-- What the thread has to do at most to come through its queue of commands. -/
def work (w : Worker B) : ℕ :=
  if w.alive then w.commands.length * (packetBatch + 4) + Phase.distance w.phase else 0

lemma work_of_dead (h : w.alive = false) : w.work = 0 := by
  simp [work, h]

lemma work_le {n : ℕ} (hcommands : w'.alive = true → w'.commands.length ≤ n) :
    w'.work ≤ n * (packetBatch + 4) + Phase.distance w'.phase := by
  unfold work
  split_ifs with halive
  · have hle := Nat.mul_le_mul_right (packetBatch + 4) (hcommands halive)
    omega
  · omega

/-- A command adds one round to the work. -/
lemma send_work (w : Worker B) (command : Command) :
    (Tunnel.send w command).1.work ≤ w.work + (packetBatch + 4) := by
  unfold Tunnel.send
  split_ifs with halive
  · have hwork : w.work = w.commands.length * (packetBatch + 4) + w.phase.distance := if_pos halive
    have hle := @work_le B { w with commands := w.commands ++ [command] } (w.commands.length + 1)
      fun _ => by simp
    rw [Nat.succ_mul] at hle
    show Worker.work { w with commands := w.commands ++ [command] } ≤ _
    dsimp only at hle
    omega
  · exact (work_of_dead (Bool.eq_false_iff.mpr halive)).le.trans (Nat.zero_le _)

lemma afterSelect_distance (w : Worker B) :
    Phase.distance w.afterSelect.phase ≤ packetBatch + 3 := by
  by_cases halive : w.alive = true
  · rw [afterSelect, if_pos halive]
    dsimp only
    split_ifs <;> simp [Phase.distance]
  · rw [afterSelect, if_neg halive]
    cases hphase : w.phase with
    | stopped | faulted => simp [Phase.distance]
    | select | drain | step | check => simp [alive, hphase] at halive

lemma afterSelect_commands (w : Worker B) : w.afterSelect.commands = w.commands := by
  unfold afterSelect
  split <;> rfl

lemma alive_of_afterSelect (h : w.afterSelect.alive = true) : w.alive = true := by
  by_contra halive
  rw [afterSelect, if_neg halive] at h
  exact halive h

/-- A command is taken from the queue, or the thread ends. -/
lemma select_commands {nextPort : ℕ} {command : Command} {rest : List Command}
    (hcommands : w.commands = command :: rest) (h : w.select (.command nextPort) = some w') :
    w'.alive = true → w'.commands = rest := by
  simp only [select, hcommands] at h
  obtain rfl := Option.some.inj h
  rw [afterSelect_commands]
  intro halive
  replace halive := alive_of_afterSelect halive
  cases command with
  | online generation settings sink =>
    simp only [online] at halive ⊢
    split
    · next hnew => simp [hnew, finish, alive] at halive
    · simp
  | offline generation =>
    simp only [offline]
    split
    · split_ifs <;> simp
    · rfl
  | connect target port reply =>
    simp only [connect] at halive ⊢
    split
    · split
      · next hok =>
        obtain ⟨m, -, rfl⟩ := except_map_eq_ok.mp hok
        rfl
      · next hfault => simp_all [finish, alive]
    · rfl
  | shutdown => simp [finish, alive] at halive

lemma takePacket_commands (w : Worker B) (tag : ℕ) (packet : Packet) :
    (w.takePacket tag packet).commands = w.commands := by
  unfold takePacket
  rcases hengine : w.engine with _ | ⟨generation, e⟩
  · rfl
  · simp only
    split_ifs <;> rfl

lemma drain_commands (w : Worker B) (left : ℕ) : (w.drain left).commands = w.commands := by
  unfold drain
  split
  · exact takePacket_commands _ _ _
  · rfl

lemma drain_distance (w : Worker B) (left : ℕ) :
    Phase.distance (w.drain left).phase < left + 3 := by
  unfold drain
  split
  · rw [(takePacket_frame _ _ _).1]
    simp [Phase.distance]
  · simp [Phase.distance]

lemma stepEngine_commands (w : Worker B) :
    (w.stepEngine.alive = true → w.stepEngine.commands = w.commands) ∧
      Phase.distance w.stepEngine.phase ≤ 1 := by
  unfold stepEngine
  split
  · exact ⟨fun _ => rfl, le_rfl⟩
  · split
    · next hok =>
      obtain ⟨m, -, rfl⟩ := except_map_eq_ok.mp hok
      exact ⟨fun _ => rfl, le_rfl⟩
    · exact ⟨by simp [finish, alive], Nat.zero_le _⟩

lemma checkFailed_commands (w : Worker B) : w.checkFailed.commands = w.commands := by
  unfold checkFailed
  dsimp only
  split_ifs <;> simp

/-- A thread with `Shutdown` in its queue can come closer to its end. -/
lemma exists_lighter (halive : w.alive = true) (hshutdown : Command.shutdown ∈ w.commands) :
    ∃ action w', action.admissible = true ∧ w.act action = some w' ∧ w'.work < w.work := by
  have hwork : w.work = w.commands.length * (packetBatch + 4) + Phase.distance w.phase :=
    if_pos halive
  cases hphase : w.phase with
  | select =>
    cases hcommands : w.commands with
    | nil => simp [hcommands] at hshutdown
    | cons command rest =>
      obtain ⟨w', hselect⟩ : ∃ w', w.select (.command 49152) = some w' :=
        ⟨_, by simp only [select, hcommands]; rfl⟩
      refine ⟨.select (.command 49152), w', rfl, by rw [act, if_pos hphase, hselect], ?_⟩
      have hle := work_le fun h => (congrArg List.length (select_commands hcommands hselect h)).le
      have hdistance : Phase.distance w'.phase ≤ packetBatch + 3 := by
        simp only [select, hcommands] at hselect
        rw [← Option.some.inj hselect]
        exact afterSelect_distance _
      rw [hcommands, List.length_cons, Nat.succ_mul] at hwork
      omega
  | drain left =>
    refine ⟨.advance, w.drain left, rfl, by simp [act, hphase], ?_⟩
    have hle := work_le fun _ => (congrArg List.length (w.drain_commands left)).le
    have hlt := w.drain_distance left
    rw [hphase, show Phase.distance (.drain left) = left + 3 from rfl] at hwork
    omega
  | step =>
    refine ⟨.advance, w.stepEngine, rfl, by simp [act, hphase], ?_⟩
    obtain ⟨hcommands, hdistance⟩ := w.stepEngine_commands
    have hle := work_le fun h => (congrArg List.length (hcommands h)).le
    rw [hphase, show Phase.distance .step = 2 from rfl] at hwork
    omega
  | check =>
    refine ⟨.advance, w.checkFailed, rfl, by simp [act, hphase], ?_⟩
    have hle := work_le fun _ => (congrArg List.length w.checkFailed_commands).le
    rw [hphase, show Phase.distance .check = 1 from rfl] at hwork
    rw [show Phase.distance w.checkFailed.phase = 0 from rfl] at hle
    omega
  | stopped | faulted => simp [alive, hphase] at halive

end Worker

namespace Stack

variable {s t : Stack B} {a : StackAct B}

/-- `Shutdown` stays in the queue, or the thread has ended. -/
lemma act_leaving (h : s.worker.Leaving) (hsound : s.worker.Sound C) (hact : s.act a = some t) :
    t.worker.Leaving := by
  cases a with
  | thread action =>
    simp only [act] at hact
    split_ifs at hact
    obtain ⟨w, hw, rfl⟩ := Option.map_eq_some_iff.mp hact
    exact h.act hsound hw
  | send command =>
    simp only [act] at hact
    split_ifs at hact
    obtain rfl := Option.some.inj hact
    unfold Tunnel.send
    split_ifs
    · exact fun halive => List.mem_append_left _ (h halive)
    · exact h
  | receive generation packet =>
    obtain rfl := Option.some.inj hact
    unfold Tunnel.receive
    split_ifs <;> exact h
  | wake =>
    obtain rfl := Option.some.inj hact
    unfold Tunnel.wake
    split_ifs <;> exact h
  | outside world bridge =>
    obtain rfl := Option.some.inj hact
    exact h

/-- A thread that has ended does not come back. -/
lemma act_dead (h : s.worker.alive = false) (hact : s.act a = some t) : t.worker.alive = false := by
  cases a with
  | thread action =>
    simp only [act] at hact
    split_ifs at hact
    obtain ⟨w, hw, rfl⟩ := Option.map_eq_some_iff.mp hact
    simp [Worker.alive_of_act hw] at h
  | send command =>
    simp only [act] at hact
    split_ifs at hact
    obtain rfl := Option.some.inj hact
    show (Tunnel.send s.worker command).1.alive = false
    rw [Tunnel.send, if_neg (by simp [h])]
    exact h
  | receive generation packet =>
    obtain rfl := Option.some.inj hact
    show (Tunnel.receive s.worker generation packet).1.alive = false
    rw [Tunnel.receive, if_neg (by simp [h])]
    exact h
  | wake =>
    obtain rfl := Option.some.inj hact
    show (Tunnel.wake s.worker).alive = false
    rw [Tunnel.wake, if_neg (by simp [h])]
    exact h
  | outside world bridge =>
    obtain rfl := Option.some.inj hact
    exact h

end Stack

/-! ## The phases of `main` -/

/-- A step of `main` from one phase to the next. -/
inductive MainPhase.Step (phase : MainPhase) (a : MainAct) (phase' : MainPhase) : Prop
  | stays (hsame : phase' = phase)
  | early (hfrom : phase.stage = 0) (hto : phase'.stage = 0 ∨ ∃ result, phase' = .returned result)
  | spawned (haction : a = .spawn) (hfrom : phase = .spawning) (hto : phase' = .selecting)
  /-- The interrupt handler closed. -/
  | left (result : Except String Unit) (hfrom : phase = .selecting)
      (hto : phase' = .returned result)
  | armed (result : Except String Unit) (hfrom : phase = .selecting)
      (hto : phase' = .stopping result)
  | finished (result : Except String Unit) (haction : a = .stopped)
      (hfrom : phase = .stopping result)
      (hto : phase' = .returned result ∨ phase' = .awaiting result ∨ phase' = .aborting result)
  | saved (result : Except String Unit)
      (hfrom : phase = .awaiting result ∨ phase = .aborting result)
      (hto : phase' = .returned result)

namespace MainPhase.Step

variable {phase phase' : MainPhase} {a : MainAct}

lemma spawn_of_stage (h : phase.Step a phase') (hstage : phase'.stage = 1) :
    phase.stage = 1 ∨ a = .spawn := by
  cases h with
  | stays hsame => exact .inl (hsame ▸ hstage)
  | spawned haction => exact .inr haction
  | early _ hto => rcases hto with hto | ⟨result, rfl⟩ <;> simp_all [stage]
  | left _ hfrom | armed _ hfrom | finished _ _ hfrom => exact .inl (by rw [hfrom]; rfl)
  | saved _ hfrom => rcases hfrom with hfrom | hfrom <;> exact .inl (by rw [hfrom]; rfl)

lemma early_of_early (h : phase.Step a phase') (hearly : phase'.stage = 0 ∨ phase' = .selecting) :
    phase.stage = 0 ∨ phase = .selecting := by
  cases h with
  | stays hsame => exact hsame ▸ hearly
  | early hfrom => exact .inl hfrom
  | spawned _ hfrom => exact .inl (by rw [hfrom]; rfl)
  | left _ hfrom | armed _ hfrom => exact .inr hfrom
  | finished _ _ _ hto => rcases hto with rfl | rfl | rfl <;> simp [stage] at hearly
  | saved _ _ hto => simp [hto, stage] at hearly

/-- `main` leaves the wait for its tasks with `stopped`. -/
lemma stopped_of_stopping (h : phase.Step a phase') {result : Except String Unit}
    (hfrom : phase = .stopping result) (hto : ∀ result, phase' ≠ .stopping result) :
    a = .stopped := by
  subst hfrom
  cases h with
  | stays hsame => exact absurd hsame (hto result)
  | early hzero => simp [stage] at hzero
  | finished _ haction => exact haction
  | spawned _ hfrom | left _ hfrom | armed _ hfrom => cases hfrom
  | saved _ hfrom => rcases hfrom with hfrom | hfrom <;> cases hfrom

lemma stopped_of_saving (h : phase.Step a phase') {result : Except String Unit}
    (hto : phase' = .awaiting result ∨ phase' = .aborting result) :
    phase' = phase ∨ a = .stopped := by
  cases h with
  | stays hsame => exact .inl hsame
  | finished _ haction => exact .inr haction
  | early _ hto' =>
      rcases hto' with hto' | ⟨_, rfl⟩ <;> rcases hto with hto | hto <;> simp_all [stage]
  | spawned _ _ hto' | left _ _ hto' | armed _ _ hto' | saved _ _ hto' => simp [hto'] at hto

lemma returned_of_returned (h : phase.Step a phase') {result : Except String Unit}
    (hfrom : phase = .returned result) : phase' = phase := by
  subst hfrom
  cases h with
  | stays hsame => exact hsame
  | early hzero => simp [stage] at hzero
  | finished _ _ hfrom | spawned _ hfrom | left _ hfrom | armed _ hfrom => cases hfrom
  | saved _ hfrom => rcases hfrom with hfrom | hfrom <;> cases hfrom

end MainPhase.Step

namespace Main

variable {inputs : Inputs} {m m' : Main} {a : MainAct}

lemma stepTask_phase (h : m.stepTask = some m') : m'.phase = m.phase := by
  obtain ⟨task, -, h⟩ := Option.bind_eq_some_iff.mp h
  split at h
  · obtain rfl := Option.some.inj h
    rfl
  · obtain ⟨_, -, rfl⟩ := Option.map_eq_some_iff.mp h
    rfl
  · split_ifs at h
    obtain rfl := Option.some.inj h
    rfl
  · cases h
  · cases h

lemma act_phase (h : m.act inputs a = some m') : m.phase.Step a m'.phase := by
  cases a with
  | event | line =>
    obtain rfl := Option.some.inj h
    exact .stays rfl
  | task => exact .stays (stepTask_phase h)
  | job =>
    obtain ⟨job, -, h⟩ := Option.bind_eq_some_iff.mp h
    split_ifs at h
    obtain rfl := Option.some.inj h
    exact .stays rfl
  | cancel =>
    obtain ⟨task, -, h⟩ := Option.bind_eq_some_iff.mp h
    split_ifs at h
    obtain rfl := Option.some.inj h
    exact .stays rfl
  | authenticate =>
    obtain ⟨hphase, h⟩ := Option.ite_none_right_eq_some.mp h
    obtain rfl := Option.some.inj h
    refine .early (by rw [hphase]; rfl) ?_
    unfold authenticate
    split
    · exact .inl rfl
    · split
      · exact .inr ⟨_, rfl⟩
      · exact .inl rfl
  | bind bound =>
    obtain ⟨hphase, h⟩ := Option.ite_none_right_eq_some.mp h
    refine .early (by rw [hphase]; rfl) ?_
    split at h
    · obtain rfl := Option.some.inj h
      exact .inl rfl
    · obtain rfl := Option.some.inj h
      exact .inr ⟨_, rfl⟩
  | spawn =>
    obtain ⟨hphase, h⟩ := Option.ite_none_right_eq_some.mp h
    obtain rfl := Option.some.inj h
    exact .spawned rfl hphase rfl
  | interrupt signal =>
    obtain ⟨hphase, h⟩ := Option.ite_none_right_eq_some.mp h
    cases signal with
    | false =>
      obtain rfl := Option.some.inj h
      exact .left _ hphase rfl
    | true =>
      obtain rfl := Option.some.inj h
      exact .armed _ hphase rfl
  | session | proxy =>
    obtain ⟨hphase, h⟩ := Option.ite_none_right_eq_some.mp h
    obtain rfl := Option.some.inj h
    exact .armed _ hphase rfl
  | stopped =>
    simp only [Main.act] at h
    split at h
    · next result hphase =>
      obtain rfl := Option.some.inj h
      refine .finished result rfl hphase ?_
      unfold stopped
      split
      · exact .inl rfl
      · split
        · exact .inr (.inl rfl)
        · exact .inr (.inr rfl)
    · cases h
  | joinSave =>
    simp only [Main.act] at h
    split at h
    · next result hphase =>
      obtain ⟨-, h⟩ := Option.ite_none_right_eq_some.mp h
      obtain rfl := Option.some.inj h
      exact .saved result (.inl hphase) rfl
    · cases h
  | abortSave =>
    simp only [Main.act] at h
    split at h
    · next result hphase =>
      obtain rfl := Option.some.inj h
      exact .saved result (.inr hphase) rfl
    · cases h

end Main

/-! ## The parts -/

namespace Process

variable {inputs : Inputs} {p q : Process B}

/-- What a step of the process does. -/
inductive Moved (inputs : Inputs) (p : Process B) : ProcessAct B → Process B → Prop
  | main (action : MainAct) (main : Main) (hallowed : p.allows action = true)
      (hmain : p.main.act inputs action = some main) :
      Moved inputs p (.main action)
        { p with main := main, spawned := p.spawned || action == .spawn }
  | serve (action : Socks.ServeAct B) (serve : Socks.Serve B) (hpermitted : p.permits action = true)
      (hserve : p.serve.act action = some serve) :
      Moved inputs p (.serve action) { p with serve := serve }
  | connected (status : Except String String) (hconnecting : p.connecting = true) :
      Moved inputs p (.connect status) { p with session := some status }
  | sent (serve : Socks.Serve B) (hstopping : p.stopping = true)
      (hserve : p.serve.act .send = some serve) : Moved inputs p .send { p with serve := serve }
  | stopped (hstopping : p.stopping = true) (hvalue : p.serve.shutdown.value = true)
      (hstopped : p.stopped = false) : Moved inputs p .stop { p with stopped := true }
  | dropped (serve : Socks.Serve B) (hreturned : p.returned = true) (hending : p.ending = .running)
      (hserve : p.serve.act (.stack (.send .shutdown)) = some serve) :
      Moved inputs p .dropWorker { p with serve := serve, ending := .joining }
  | joined (hending : p.ending = .joining) (hdead : p.serve.stack.worker.alive = false) :
      Moved inputs p .joinWorker { p with ending := .done }

lemma act_moved {a : ProcessAct B} (h : p.act inputs a = some q) : p.Moved inputs a q := by
  cases a with
  | main action =>
    obtain ⟨hallowed, h⟩ := Option.ite_none_right_eq_some.mp h
    obtain ⟨main, hmain, rfl⟩ := Option.map_eq_some_iff.mp h
    exact .main action main hallowed hmain
  | serve action =>
    obtain ⟨hpermitted, h⟩ := Option.ite_none_right_eq_some.mp h
    obtain ⟨serve, hserve, rfl⟩ := Option.map_eq_some_iff.mp h
    exact .serve action serve hpermitted hserve
  | connect status =>
    obtain ⟨hconnecting, h⟩ := Option.ite_none_right_eq_some.mp h
    obtain rfl := Option.some.inj h
    exact .connected status hconnecting
  | send =>
    obtain ⟨hready, h⟩ := Option.ite_none_right_eq_some.mp h
    obtain ⟨hstopping, -⟩ := Bool.and_eq_true_iff.mp hready
    obtain ⟨serve, hserve, rfl⟩ := Option.map_eq_some_iff.mp h
    exact .sent serve hstopping hserve
  | stop =>
    obtain ⟨hready, h⟩ := Option.ite_none_right_eq_some.mp h
    obtain ⟨⟨hstopping, hvalue⟩, hstopped⟩ : (p.stopping = true ∧ p.serve.shutdown.borrow = true) ∧
        p.stopped = false := by simpa using hready
    obtain rfl := Option.some.inj h
    exact .stopped hstopping hvalue hstopped
  | dropWorker =>
    obtain ⟨hready, h⟩ := Option.ite_none_right_eq_some.mp h
    obtain ⟨hreturned, hending⟩ := Bool.and_eq_true_iff.mp hready
    obtain ⟨serve, hserve, rfl⟩ := Option.map_eq_some_iff.mp h
    exact .dropped serve hreturned (by simpa using hending) hserve
  | joinWorker =>
    obtain ⟨hready, h⟩ := Option.ite_none_right_eq_some.mp h
    obtain ⟨hending, hdead⟩ := Bool.and_eq_true_iff.mp hready
    obtain rfl := Option.some.inj h
    exact .joined (by simpa using hending) (by simpa using hdead)

end Process

/-- The process is the connection command. -/
lemma process_refines_main (B : Backend) (inputs : Inputs) :
    (processSystem B inputs).Refines (connectionSystem inputs) Process.main where
  init := by
    rintro p ⟨config, world, -, rfl⟩
    rfl
  step := by
    intro p a q _ hstep
    cases Process.act_moved hstep with
    | main action main hallowed hmain => exact .inr ⟨action, hmain⟩
    | serve | connected | sent | stopped | dropped | joined => exact .inl rfl

/-- The process is `serve` with the worker. -/
lemma process_refines_serve (B : Backend) (inputs : Inputs) :
    (processSystem B inputs).Refines (Socks.serveSystem B) Process.serve where
  init := by
    rintro p ⟨config, world, hlimit, rfl⟩
    exact ⟨config, world, hlimit, rfl⟩
  step := by
    intro p a q _ hstep
    cases Process.act_moved hstep with
    | serve _ _ _ hserve | sent _ _ hserve | dropped _ _ _ hserve => exact .inr ⟨_, hserve⟩
    | main | connected | stopped | joined => exact .inl rfl

namespace Process

variable {inputs : Inputs} {p q : Process B} {a : ProcessAct B}

lemma main_inv (hp : (processSystem B inputs).Reachable p) : Main.Inv inputs p.main :=
  .reachable ((process_refines_main B inputs).reachable hp)

lemma serve_sound (hp : (processSystem B inputs).Reachable p) : p.serve.Sound :=
  Socks.Serve.sound_of_reachable ((process_refines_serve B inputs).reachable hp)

lemma stack_kept (C : NetContract B) (hp : (processSystem B inputs).Reachable p) :
    p.serve.stack.Kept C :=
  (Socks.Proxy.counted_of_reachable C ((Socks.serve_refines B).reachable
    ((process_refines_serve B inputs).reachable hp))).kept

/-! ## The order of `main` -/

/-- `serve` has returned, and so has `connect`. -/
def Joined (p : Process B) : Prop :=
  (∃ result, p.serve.phase = .returned result) ∧ p.session.isSome = true

/-- What the order of `main`'s steps keeps. -/
structure Orderly (p : Process B) : Prop where
  spawned : p.main.phase.stage = 1 → p.spawned = true
  early : p.main.phase.stage = 0 ∨ p.main.phase = .selecting → p.stopped = false
  told : p.stopped = true → p.serve.shutdown.value = true
  joined : p.stopped = true → p.stopping = false → p.Joined
  saving : ∀ result, p.main.phase = .awaiting result ∨ p.main.phase = .aborting result →
    p.stopped = true
  ending : p.ending ≠ .running → p.returned = true
  leaving : p.ending = .joining → p.serve.stack.worker.Leaving
  dead : p.ending = .done → p.serve.stack.worker.alive = false

lemma allows_stopped (h : p.allows .stopped = true) : p.stopped = true ∧ p.Joined := by
  simp only [allows] at h
  split at h
  · next result hphase =>
    obtain ⟨hstopped, hsession⟩ := Bool.and_eq_true_iff.mp h
    exact ⟨hstopped, ⟨result, hphase⟩, hsession⟩
  · cases h

lemma stopping_iff : p.stopping = true ↔ ∃ result, p.main.phase = .stopping result := by
  unfold stopping
  split <;> simp_all

lemma returned_iff : p.returned = true ↔ ∃ result, p.main.phase = .returned result := by
  unfold returned
  split <;> simp_all

lemma Orderly.main {action : MainAct} {main : Main} (h : p.Orderly)
    (hallowed : p.allows action = true) (hstep : p.main.phase.Step action main.phase) :
    Orderly { p with main := main, spawned := p.spawned || action == .spawn } := by
  have hjoins : action = .stopped → p.stopped = true ∧ p.Joined := by
    rintro rfl
    exact allows_stopped hallowed
  exact
    { h with
      spawned := fun hstage => by
        rcases hstep.spawn_of_stage hstage with hstage | rfl
        · simp [h.spawned hstage]
        · simp
      early := fun hearly => h.early (hstep.early_of_early hearly)
      joined := fun hstopped hphase => by
        have hto : ∀ result, main.phase ≠ .stopping result := fun result heq => by
          simp [stopping, heq] at hphase
        cases hfrom : p.stopping with
        | false => exact h.joined hstopped hfrom
        | true =>
          obtain ⟨result, hfrom⟩ := stopping_iff.mp hfrom
          exact (hjoins (hstep.stopped_of_stopping hfrom hto)).2
      saving := fun result hto => by
        rcases hstep.stopped_of_saving hto with hsame | haction
        · exact h.saving result (hsame ▸ hto)
        · exact (hjoins haction).1
      ending := fun hne => by
        obtain ⟨result, hfrom⟩ := returned_iff.mp (h.ending hne)
        exact returned_iff.mpr ⟨result, (hstep.returned_of_returned hfrom).trans hfrom⟩ }

lemma Orderly.serve {action : Socks.ServeAct B} {serve : Socks.Serve B} (h : p.Orderly)
    (hkept : p.serve.stack.Kept C) (hserve : p.serve.act action = some serve) :
    Orderly { p with serve := serve } := by
  have hmoved := Socks.Serve.act_moved hserve
  exact
    { h with
      told := fun hstopped => hmoved.value (h.told hstopped)
      joined := fun hstopped hphase => by
        obtain ⟨⟨result, hreturned⟩, hsession⟩ := h.joined hstopped hphase
        exact ⟨⟨result, hmoved.returned hreturned⟩, hsession⟩
      leaving := fun hjoining => by
        rcases hmoved.stack_eq with hsame | ⟨b, hact⟩
        · rw [hsame]
          exact h.leaving hjoining
        · exact Stack.act_leaving (h.leaving hjoining) hkept.sound hact
      dead := fun hdone => by
        rcases hmoved.stack_eq with hsame | ⟨b, hact⟩
        · rw [hsame]
          exact h.dead hdone
        · exact Stack.act_dead (h.dead hdone) hact }

/-- `Shutdown` is in the queue when it has been sent. -/
lemma leaving_of_send {s : Socks.Serve B} {serve : Socks.Serve B}
    (h : s.act (.stack (.send .shutdown)) = some serve) : serve.stack.worker.Leaving := by
  simp only [Socks.Serve.act] at h
  split_ifs at h
  obtain ⟨stack, hstack, rfl⟩ := Option.map_eq_some_iff.mp h
  simp only [Stack.act] at hstack
  split_ifs at hstack
  obtain rfl := Option.some.inj hstack
  intro halive
  simp only [Tunnel.send] at halive ⊢
  split_ifs at halive ⊢ with halive'
  · simp
  · exact absurd halive halive'

lemma Orderly.moved (h : p.Orderly) (hkept : p.serve.stack.Kept C) (hmoved : p.Moved inputs a q) :
    q.Orderly := by
  cases hmoved with
  | main action main hallowed hmain => exact h.main hallowed (Main.act_phase hmain)
  | serve action serve hpermitted hserve => exact h.serve hkept hserve
  | connected status =>
    exact { h with joined := fun hstopped hphase => ⟨(h.joined hstopped hphase).1, rfl⟩ }
  | sent serve hstopping hserve => exact h.serve hkept hserve
  | stopped hstopping hvalue =>
    obtain ⟨result, hphase⟩ := stopping_iff.mp hstopping
    exact
      { h with
        early := fun hearly => by simp [hphase, MainPhase.stage] at hearly
        told := fun _ => hvalue
        joined := fun _ hnot => by
          rw [show p.stopping = false from hnot] at hstopping
          cases hstopping
        saving := fun _ _ => rfl }
  | dropped serve hreturned hending hserve =>
    exact
      { h.serve hkept hserve with
        ending := fun _ => hreturned
        leaving := fun _ => leaving_of_send hserve
        dead := fun hdone => by cases hdone }
  | joined hending hdead =>
    exact
      { h with
        ending := fun _ => h.ending (by simp [hending])
        leaving := fun hjoining => by cases hjoining
        dead := fun _ => hdead }

lemma orderly_of_reachable (C : NetContract B) (hp : (processSystem B inputs).Reachable p) :
    p.Orderly := by
  refine hp.invariant_of_reachable (I := Orderly) ?_ fun p a q hp horderly hstep =>
    horderly.moved (stack_kept C hp) (act_moved hstep)
  rintro p ⟨config, world, -, rfl⟩
  exact
    { spawned := fun hstage => by cases hstage
      early := fun _ => rfl
      told := fun hstopped => by cases hstopped
      joined := fun hstopped => by cases hstopped
      saving := fun result hsaving => by rcases hsaving with hsaving | hsaving <;> cases hsaving
      ending := fun hne => absurd rfl hne
      leaving := fun hjoining => by cases hjoining
      dead := fun hdone => by cases hdone }

end Process

/-- **What `main` leaves behind.**  When the worker has been joined, its thread is gone with its
engine and its queue, and every request was answered or dropped, once.  If `main` came through its
shutdown sequence, `serve` and `connect` have returned and no task and no permit is left out. -/
theorem process_leaves_nothing (C : NetContract B) {inputs : Inputs} {p : Process B}
    (hp : (processSystem B inputs).Reachable p) (hdone : p.ending = .done) :
    (p.serve.stack.worker.alive = false ∧ p.serve.stack.worker.commands = [] ∧
        p.serve.stack.worker.engine = none) ∧
      (p.serve.stack.issued.Nodup ∧
        p.serve.stack.issued.Perm (p.serve.stack.worker.log.flatMap WorkerEvent.spent)) ∧
      (p.stopped = true → p.serve.tasks = [] ∧
        p.serve.permits = p.serve.stack.worker.config.maxConnections ∧
        (∃ result, p.serve.phase = .returned result) ∧ p.session.isSome = true) := by
  have horderly := Process.orderly_of_reachable C hp
  have hkept := Process.stack_kept C hp
  have hsound := Process.serve_sound hp
  have hdead := horderly.dead hdone
  obtain ⟨hcommands, hengine⟩ := hkept.sound.ended hdead
  refine ⟨⟨hdead, hcommands, hengine⟩, ⟨hkept.distinct, ?_⟩, fun hstopped => ?_⟩
  · have haccounts := hkept.accounts
    rw [Worker.replies, Worker.queued, Worker.held, hcommands, hengine] at haccounts
    exact haccounts
  · have hnot : p.stopping = false := by
      obtain ⟨result, hphase⟩ := Process.returned_iff.mp (horderly.ending (by simp [hdone]))
      simp [Process.stopping, hphase]
    obtain ⟨⟨result, hreturned⟩, hsession⟩ := horderly.joined hstopped hnot
    have htasks := hsound.empty result hreturned
    have hpermits := hsound.permits
    rw [Socks.Serve.running, htasks] at hpermits
    exact ⟨htasks, by simpa using hpermits, ⟨result, hreturned⟩, hsession⟩

/-! ## The way to the end -/

def Ending.remaining : Ending → ℕ
  | .running => packetBatch + 6
  | .joining => 1
  | .done => 0

namespace Process

/-- The steps of what has to end: `main`'s shutdown sequence, `serve` and its tasks, `connect`, the
save task and the thread of the worker. -/
def own : ProcessAct B → Bool
  | .main action =>
      action.saving || action == .stopped || action == .joinSave || action == .abortSave
  | .serve (.stack (.thread _)) => true
  | .serve action => Socks.Serve.own action
  | .connect _ | .send | .stop | .dropWorker | .joinWorker => true

/-- `main` is behind its `select!`. -/
def Past (p : Process B) : Prop := ¬ (p.main.phase.stage = 0 ∨ p.main.phase = .selecting)

/-- How many steps are left at most, without those of the worker. -/
def remaining (p : Process B) : ℕ :=
  Ending.remaining p.ending +
    match p.main.phase with
    | .stopping _ =>
      p.serve.remaining + ((!p.serve.shutdown.value).toNat + (!p.stopped).toNat +
        p.session.isNone.toNat + 8)
    | .awaiting _ => p.main.remaining + 1
    | .aborting _ => 1
    | _ => 0

def measure (p : Process B) : ℕ := p.remaining + p.serve.stack.worker.work

variable {inputs : Inputs} {p q : Process B}

/-- An own step that uses the measure up. -/
def Nearer (inputs : Inputs) (p : Process B) : Prop :=
  ∃ a q, own a = true ∧ p.act inputs a = some q ∧ q.Past ∧ q.measure < p.measure

lemma own_stack {s s' : Socks.Serve B} {a : Socks.ServeAct B} (hown : Socks.Serve.own a = true)
    (h : s.Moved a s') : s'.stack = s.stack := by
  cases h with
  | requested | sent | hungUp | stack => simp [Socks.Serve.own] at hown
  | _ => rfl

lemma own_serve {a : Socks.ServeAct B} (hown : Socks.Serve.own a = true) :
    own (.serve a) = true ∧ p.permits a = p.spawned := by
  cases a with
  | head | changed | join | joined | finish => exact ⟨rfl, rfl⟩
  | _ => simp [Socks.Serve.own] at hown

lemma nearer_stopping (horderly : p.Orderly) (hsound : p.serve.Sound) {result : Except String Unit}
    (hphase : p.main.phase = .stopping result) : p.Nearer inputs := by
  have hstopping : p.stopping = true := stopping_iff.mpr ⟨result, hphase⟩
  have hspawned : p.spawned = true := horderly.spawned (by rw [hphase]; rfl)
  have hpast : p.Past := by simp [Past, hphase, MainPhase.stage]
  by_cases hvalue : p.serve.shutdown.value = true
  swap
  · refine ⟨.send, { p with serve := { p.serve with shutdown := p.serve.shutdown.send true } }, rfl,
      ?_, hpast, ?_⟩
    · simp [act, hstopping, Watch.borrow, hvalue, Socks.Serve.act]
    · simp [measure, remaining, hphase, hvalue, Watch.send, Socks.Serve.remaining]
  cases hstopped : p.stopped with
  | false =>
    refine ⟨.stop, { p with stopped := true }, rfl, ?_, hpast, ?_⟩
    · simp [act, hstopping, Watch.borrow, hvalue, hstopped]
    · simp [measure, remaining, hphase, hstopped]
  | true =>
    by_cases hreturned : p.serve.Returned
    swap
    · obtain ⟨b, serve, hown, hserve⟩ := Socks.Serve.Asked.exists_own ⟨hsound, hvalue⟩ hreturned
      have hmoved := Socks.Serve.act_moved hserve
      have hless := Socks.Serve.Asked.remaining_moved ⟨hsound, hvalue⟩ hmoved
      have hown' := own_serve (p := p) hown
      refine ⟨.serve b, { p with serve := serve }, hown'.1, ?_, hpast, ?_⟩
      · simp [act, hown'.2, hspawned, hserve]
      · have hvalue' := hmoved.value hvalue
        have hstack := own_stack hown hmoved
        simp only [hown, if_true] at hless
        simp only [measure, remaining, hphase, hvalue, hvalue', hstack]
        omega
    obtain ⟨result', hreturned⟩ := hreturned
    cases hsession : p.session with
    | none =>
      refine ⟨.connect (.ok ""), { p with session := some (.ok "") }, rfl, ?_, hpast, ?_⟩
      · simp [act, connecting, hspawned, hsession]
      · simp [measure, remaining, hphase, hsession]
    | some status =>
      refine ⟨.main .stopped, { p with main := p.main.stopped result }, rfl, ?_, ?_, ?_⟩
      · simp [act, allows, hreturned, hstopped, hsession, Main.act, hphase]
      · unfold Main.stopped
        split
        · simp [Past, Main.finish, MainPhase.stage]
        · split <;> simp [Past, MainPhase.stage]
      · have hle := p.main.remaining_le
        unfold Main.stopped
        split
        · simp only [measure, remaining, hphase, Main.finish]
          omega
        · split
          · simp only [measure, remaining, hphase, Main.remaining] at hle ⊢
            omega
          · simp only [measure, remaining, hphase]
            omega

lemma nearer_awaiting (hinv : Main.Inv inputs p.main) {result : Except String Unit}
    (hphase : p.main.phase = .awaiting result) : p.Nearer inputs := by
  have hsaving : ∀ action main, action.saving = true → p.allows action = true →
      p.main.act inputs action = some main → action ≠ .joinSave → p.Nearer inputs := by
    intro action main haction hallowed hmain hne
    obtain ⟨hphase', hless⟩ := hinv.awaiting_step (Main.act_moved hmain) hphase hne
    refine ⟨.main action, { p with main := main, spawned := p.spawned || action == .spawn },
      by simp [own, haction], by simp [act, hallowed, hmain],
      by simp [Past, hphase', MainPhase.stage], ?_⟩
    simp only [haction, Bool.toNat_true] at hless
    simp only [measure, remaining, hphase, hphase']
    omega
  rcases hinv.awaiting_enabled hphase with hjoin | htask | hjob
  · obtain ⟨main, hmain⟩ := Option.isSome_iff_exists.mp hjoin
    have hfinish : main = p.main.finish result := by
      simp only [Main.act, hphase] at hmain
      exact (Option.some.inj (Option.ite_none_right_eq_some.mp hmain).2).symm
    subst hfinish
    refine ⟨.main .joinSave, { p with main := p.main.finish result }, rfl, ?_, ?_, ?_⟩
    · simp [act, allows, hmain]
    · simp [Past, Main.finish, MainPhase.stage]
    · simp [measure, remaining, hphase, Main.finish]
  · obtain ⟨main, hmain⟩ := Option.isSome_iff_exists.mp htask
    exact hsaving .task main rfl rfl hmain (by simp)
  · obtain ⟨main, hmain⟩ := Option.isSome_iff_exists.mp hjob
    exact hsaving .job main rfl rfl hmain (by simp)

lemma nearer_aborting {result : Except String Unit} (hphase : p.main.phase = .aborting result) :
    p.Nearer inputs := by
  refine ⟨.main .abortSave, { p with main := p.main.finish result }, rfl, ?_, ?_, ?_⟩
  · simp [act, allows, Main.act, hphase]
  · simp [Past, Main.finish, MainPhase.stage]
  · simp [measure, remaining, hphase, Main.finish]

lemma nearer_returned (horderly : p.Orderly) {result : Except String Unit}
    (hphase : p.main.phase = .returned result) (hnot : p.ending ≠ .done) : p.Nearer inputs := by
  have hreturned : p.returned = true := returned_iff.mpr ⟨result, hphase⟩
  have hpast : p.Past := by simp [Past, hphase, MainPhase.stage]
  cases hending : p.ending with
  | running =>
    obtain ⟨serve, hserve, hwork⟩ : ∃ serve, p.serve.act (.stack (.send .shutdown)) = some serve ∧
        serve.stack.worker.work ≤ p.serve.stack.worker.work + (packetBatch + 4) :=
      ⟨_, rfl, Worker.send_work _ _⟩
    refine ⟨.dropWorker, { p with serve := serve, ending := .joining }, rfl, ?_, hpast, ?_⟩
    · simp [act, hreturned, hending, hserve]
    · simp only [measure, remaining, hphase, hending, Ending.remaining]
      omega
  | joining =>
    by_cases halive : p.serve.stack.worker.alive = true
    · obtain ⟨action, w, hadmissible, hact, hless⟩ :=
        Worker.exists_lighter halive (horderly.leaving hending halive)
      refine ⟨.serve (.stack (.thread action)),
        { p with serve := { p.serve with stack := { p.serve.stack with worker := w } } }, rfl,
        ?_, hpast, ?_⟩
      · simp [act, permits, Socks.Serve.act, Socks.isRequest, Stack.act, hadmissible, hact]
      · simp only [measure, remaining, hphase]
        omega
    · refine ⟨.joinWorker, { p with ending := .done }, rfl, ?_, hpast, ?_⟩
      · simp [act, hending, halive]
      · simp [measure, remaining, hphase, hending, Ending.remaining]
  | done => exact absurd hending hnot

lemma Past.moved {a : ProcessAct B} (h : p.Past) (hmoved : p.Moved inputs a q) : q.Past := by
  cases hmoved with
  | main action main hallowed hmain =>
    exact fun hearly => h ((Main.act_phase hmain).early_of_early hearly)
  | _ => exact h

/-- From every state behind the `select!` there is a step to take. -/
lemma exists_nearer (C : NetContract B) (hp : (processSystem B inputs).Reachable p) (hpast : p.Past)
    (hnot : p.ending ≠ .done) : p.Nearer inputs := by
  have horderly := orderly_of_reachable C hp
  cases hphase : p.main.phase with
  | authenticating | binding | spawning => simp [Past, hphase, MainPhase.stage] at hpast
  | selecting => simp [Past, hphase] at hpast
  | stopping result => exact nearer_stopping horderly (serve_sound hp) hphase
  | awaiting result => exact nearer_awaiting (main_inv hp) hphase
  | aborting result => exact nearer_aborting hphase
  | returned result => exact nearer_returned horderly hphase hnot

end Process

/-- **`main` is never stuck in its shutdown sequence.**  From every reachable state behind the
`select!`, the steps of what has to end, and they alone, lead to the end of the process, in no more
steps than `measure` says; and no other step takes the process out of these states. -/
theorem process_can_end (C : NetContract B) {inputs : Inputs} {p : Process B}
    (hp : (processSystem B inputs).Reachable p) (hpast : p.Past) :
    (∀ ls q, (processSystem B inputs).Run p ls q → q.Past) ∧
      ∃ ls q, (processSystem B inputs).Run p ls q ∧ q.ending = .done ∧
        (∀ a ∈ ls, Process.own a = true) ∧ ls.length ≤ p.measure := by
  refine ⟨fun ls q hrun => hrun.invariant (fun p a q hpast hstep =>
    hpast.moved (Process.act_moved hstep)) hpast, ?_⟩
  · have hnearer : ∀ p, ((processSystem B inputs).Reachable p ∧ p.Past) → ¬ p.ending = .done →
        ∃ a q, Process.own a = true ∧ (processSystem B inputs).step p a q ∧
          ((processSystem B inputs).Reachable q ∧ q.Past) ∧ q.measure < p.measure := by
      rintro p ⟨hp, hpast⟩ hnot
      obtain ⟨a, q, hown, hact, hpast', hless⟩ := Process.exists_nearer C hp hpast hnot
      exact ⟨a, q, hown, hact, ⟨hp.step hact, hpast'⟩, hless⟩
    obtain ⟨ls, q, hrun, -, hdone, hown, hlength⟩ := System.reaches hnearer ⟨hp, hpast⟩
    exact ⟨ls, q, hrun, hdone, hown, hlength⟩

/-! ## A process that is interrupted -/

namespace Interrupted

def start : Process (reference fun _ _ => .failed) :=
  ⟨.new, ⟨⟨Worker.spawn ⟨30, 0, 2, 0⟩ ⟨0, [], []⟩, []⟩, 2, [], .channel false, .head⟩, false, none,
    false, .running⟩

/-- A client is connected, and the user interrupts before the session is up. -/
def interrupted : List (ProcessAct (reference fun _ _ => .failed)) :=
  [.main .authenticate, .main (.bind (.ok ())), .main .spawn, .serve .head,
  .serve (.accept (.ok ())),
    .serve .head, .main (.interrupt true)]

/-- The shutdown sequence. -/
def shutdown : List (ProcessAct (reference fun _ _ => .failed)) :=
  [.send, .stop, .serve .changed, .serve (.finish 0), .serve (.join 0), .serve .joined,
    .connect (.ok ""), .main .stopped, .main .abortSave, .dropWorker,
    .serve (.stack (.thread (.select (.command 49152)))), .joinWorker]

lemma init_start : (processSystem (reference fun _ _ => .failed) FirstLogin.inputs).init start :=
  ⟨⟨30, 0, 2, 0⟩, ⟨0, [], []⟩, by decide, rfl⟩

end Interrupted

open Interrupted in
theorem process_leaves_nothing_interrupted : ∃ p,
    System.replay (Process.act FirstLogin.inputs) start (interrupted ++ shutdown) = some p ∧
      p.ending = .done ∧ p.serve.tasks = [] ∧ p.serve.permits = 2 ∧ p.session.isSome = true ∧
      p.serve.stack.worker.alive = false := by
  obtain ⟨p, hreplay, hdone, hstopped, hlimit⟩ : ∃ p,
      System.replay (Process.act FirstLogin.inputs) start (interrupted ++ shutdown) = some p ∧
        p.ending = .done ∧ p.stopped = true ∧ p.serve.stack.worker.config.maxConnections = 2 :=
    ⟨_, rfl, rfl, rfl, rfl⟩
  obtain ⟨⟨hdead, -, -⟩, -, hclean⟩ := process_leaves_nothing (Reference.netContract _)
    ⟨start, _, init_start, .of_replay hreplay⟩ hdone
  obtain ⟨htasks, hpermits, -, hsession⟩ := hclean hstopped
  exact ⟨p, hreplay, hdone, htasks, hpermits.trans hlimit, hsession, hdead⟩

open Interrupted in
theorem process_can_end_interrupted : ∃ p,
    System.replay (Process.act FirstLogin.inputs) start interrupted = some p ∧
      ∃ ls q, (processSystem _ FirstLogin.inputs).Run p ls q ∧ q.ending = .done ∧
        ∀ a ∈ ls, Process.own a = true := by
  obtain ⟨p, hreplay, hphase⟩ : ∃ p,
      System.replay (Process.act FirstLogin.inputs) start interrupted = some p ∧
        p.main.phase = .stopping (.ok ()) := ⟨_, rfl, rfl⟩
  obtain ⟨-, ls, q, hrun, hdone, hown, -⟩ := process_can_end (Reference.netContract _)
    ⟨start, _, init_start, .of_replay hreplay⟩ (by simp [Process.Past, hphase, MainPhase.stage])
  exact ⟨p, hreplay, ls, q, hrun, hdone, hown⟩

end Ovpnlane
