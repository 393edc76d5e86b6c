import Ovpnlane.Properties.Generations

/-!
# A start that fails

`start` publishes its generation and its `io` before the calls that can fail, and it has three
exits: a parse error, a worker that is gone, and a tunnel that Core does not activate.  The first
returns before anything is published, and behind the second there is nobody to take a packet.  The
third sends `Offline`, but unlike `stop` it leaves `io` in place.

`stopSystem` is the system of serial callbacks with a flag beside it: whether the handler is
stopped, that is, no start has succeeded since the last `stop` or since the beginning.  In every run
in which no activation fails while the worker runs, a stopped handler between two callbacks refuses
every packet, and its worker holds no engine once it has drained its commands
(`failed_start_leaves_stopped`); `failed_activation_leaves_io` is the run with the third exit.
-/

namespace Ovpnlane

variable {B : Backend} {C : NetContract B}

namespace Vpn

variable {v v' : Vpn B}

/-! ## Stopped handlers -/

/-- The action completes a start: Core has activated the tunnel. -/
def succeeds (v : Vpn B) : VpnAct B → Bool
  | .resume i true =>
    match v.starts[i]? with
    | some (.activating _) => true
    | _ => false
  | _ => false

/-- Whether the handler is stopped after an action: a start that succeeds starts it, `stop` stops
it, and everything else leaves it as it is, also a start that fails. -/
def stoppedNext (v : Vpn B) (stopped : Bool) (a : VpnAct B) : Bool :=
  match a with
  | .stop => true
  | a => stopped && !v.succeeds a

/-- One step, with the flag. -/
def actStopped (s : Vpn B × Bool) (a : VpnAct B) : Option (Vpn B × Bool) :=
  (s.1.actSerially a).map fun v' => (v', s.1.stoppedNext s.2 a)

/-- What a stopped handler promises: no packet is taken, and the worker keeps no engine. -/
structure Stopped (v : Vpn B) : Prop where
  send : ∀ packet, (v.send packet).2 = false
  engine : v.stack.worker.commands = [] → v.stack.worker.engine = none

/-- No activation fails while the worker runs. -/
def Activates (s : Vpn B × Bool) (a : VpnAct B) : Prop :=
  ∀ i generation, a = .resume i false → s.1.starts[i]? = some (.activating generation) →
    s.1.stack.worker.alive = false

end Vpn

/-- Serial callbacks, with the flag; at the beginning the handler is stopped. -/
def stopSystem (B : Backend) : System (Vpn B × Bool) (VpnAct B) :=
  .ofFun (fun s => (serialVpnSystem B).init s.1 ∧ s.2 = true) Vpn.actStopped

namespace Vpn

variable {v v' : Vpn B}

/-- The flag does not change what happens. -/
lemma serial_reachable {P : Vpn B × Bool → VpnAct B → Prop} {s : Vpn B × Bool}
    (h : ((stopSystem B).guard P).Reachable s) : (serialVpnSystem B).Reachable s.1 := by
  refine h.invariant (I := fun s => (serialVpnSystem B).Reachable s.1) ?_ ?_
  · rintro s ⟨hinit, -⟩
    exact .of_init hinit
  · rintro s a s' hs ⟨-, hact⟩
    obtain ⟨v', hv', rfl⟩ := Option.map_eq_some_iff.mp hact
    exact hs.step hv'

/-! ## What a stopped handler has published -/

/-- Nothing is up: there is no `io`, and the commands sent leave no generation up. -/
def Down (v : Vpn B) : Prop := v.state.io = none ∧ upAfter v.sent = none

/-- What holds of a stopped handler while the worker runs, by the start in progress. -/
def Quiet (v : Vpn B) : List Starting → Prop
  | [] | [.called ..] | [.parsed ..] => v.Down
  | [.tagged ..] => upAfter v.sent = none
  | [.activating _] => True
  | _ => False

/-- Nothing has been published or sent that the list of starts does not show. -/
lemma Quiet.congr {l : List Starting} (h : v.Quiet l) (hio : v'.state.io = v.state.io)
    (hsent : upAfter v'.sent = upAfter v.sent) : v'.Quiet l := by
  have hdown : v.Down → v'.Down := fun hv => ⟨hio.trans hv.1, hsent.trans hv.2⟩
  rcases l with _ | ⟨s, _ | ⟨s', l⟩⟩
  · exact hdown h
  · cases s with
    | called | parsed => exact hdown h
    | tagged => exact hsent.trans h
    | activating => trivial
    | failing => exact h.elim
  · cases s <;> exact h.elim

/-- A start goes on. -/
lemma Quiet.resume {starting : Starting} (h : v.Quiet [starting]) (activated : Bool)
    (halive : v.stack.worker.alive = true) :
    (∃ generation, starting = .activating generation) ∨
      (v.resumed activated starting).Quiet (v.resume activated starting).2.toList := by
  cases starting with
  | called options io =>
    right
    unfold resumed Vpn.resume
    simp only
    split <;> exact h
  | parsed settings io => exact .inr h.2
  | tagged generation settings io =>
    right
    have hok : (v.command (.online generation settings io)).2 = .ok () := by
      simp [Vpn.command, Tunnel.send, halive]
    unfold Vpn.resume
    simp only [online_eq]
    rcases hu : v.command (.online generation settings io) with ⟨u, error | result⟩
    · rw [hu] at hok
      contradiction
    · trivial
  | activating generation => exact .inl ⟨generation, rfl⟩
  | failing generation => exact h.elim

/-- **A step keeps a stopped handler quiet.** -/
lemma Quiet.act {stopped : Bool} {a : VpnAct B} (hserial : v.serial a = true)
    (halive : v.stack.worker.alive = true) (hwaits : v.Waits v.starts)
    (hactivates : Activates (v, stopped) a) (h : stopped = true → v.Quiet v.starts)
    (hact : v.act a = some v') (hstopped : v.stoppedNext stopped a = true) :
    v'.Quiet v'.starts := by
  cases act_acted hact with
  | stop =>
    have hempty : v.starts = [] := List.isEmpty_iff.mp hserial
    have hsent := ({ v with state := { v.state with io := none } } : Vpn B).command_sent
      (.offline v.state.generation) halive
    show Quiet _ v.starts
    rw [hempty]
    refine ⟨rfl, ?_⟩
    rw [stop, offline_eq, hsent, upAfter_concat]
    rfl
  | @goesOn i activated starting _ _ hi hu | @returns i activated starting _ hi hu =>
    obtain ⟨hflag, hfails⟩ := Bool.and_eq_true_iff.mp hstopped
    obtain ⟨rfl, hstarts⟩ := hwaits.singleton hi
    have hquiet := h hflag
    rw [hstarts] at hquiet
    rcases hquiet.resume activated halive with ⟨generation, rfl⟩ | hresumed
    · -- neither a success, which starts the handler, nor a failure beside a running worker
      cases activated with
      | true => simp [succeeds, hi] at hfails
      | false => simp [hactivates 0 generation rfl hi] at halive
    · rw [resumed, hu] at hresumed
      rw [hstarts]
      exact hresumed
  | @client command hclient =>
    obtain ⟨hflag, -⟩ := Bool.and_eq_true_iff.mp hstopped
    refine (h hflag).congr rfl ?_
    simp only [v.command_sent command halive, upAfter_concat]
    cases command with
    | connect | shutdown => rfl
    | online | offline => simp [Command.fromClient] at hclient
  | start options io =>
    obtain ⟨hflag, -⟩ := Bool.and_eq_true_iff.mp hstopped
    have hempty : v.starts = [] := List.isEmpty_iff.mp hserial
    have hquiet := h hflag
    rw [hempty] at hquiet
    show Quiet _ (v.starts ++ [.called options io])
    rw [hempty]
    exact hquiet
  | thread | wake | outside | configure | send =>
    obtain ⟨hflag, -⟩ := Bool.and_eq_true_iff.mp hstopped
    exact (h hflag).congr rfl rfl
  | refuse =>
    obtain ⟨hflag, -⟩ := Bool.and_eq_true_iff.mp hstopped
    exact h hflag

/-- **A stopped handler is quiet in every run** without a failed activation. -/
lemma quiet_of_reachable (C : NetContract B) {s : Vpn B × Bool}
    (h : ((stopSystem B).guard Activates).Reachable s) (hstopped : s.2 = true)
    (halive : s.1.stack.worker.alive = true) : s.1.Quiet s.1.starts := by
  refine h.invariant_of_reachable (I := fun s => s.2 = true →
    s.1.stack.worker.alive = true → s.1.Quiet s.1.starts) ?_ ?_ hstopped halive
  · rintro s ⟨hinit, -⟩ - -
    obtain ⟨dns, stack, -, hnew⟩ := hinit
    rw [hnew]
    exact ⟨rfl, rfl⟩
  · rintro s a s' hreachable hquiet ⟨hactivates, hact⟩ hflag halive'
    obtain ⟨v', hv', rfl⟩ := Option.map_eq_some_iff.mp hact
    unfold actSerially at hv'
    split_ifs at hv' with hserial
    have halive := alive_of_act hv' halive'
    have hwaits := ((serialized_of_reachable C (serial_reachable hreachable)).2 halive).waits
    exact Quiet.act hserial halive hwaits hactivates (fun h => hquiet h halive) hv' hflag

/-- **A failed start leaves the handler stopped**: in every run in which no activation fails while
the worker runs, a stopped handler between two callbacks takes no packet, and its worker has no
engine once it has drained its commands. -/
theorem failed_start_leaves_stopped (C : NetContract B) {v : Vpn B}
    (h : ((stopSystem B).guard Activates).Reachable (v, true)) (hidle : v.starts = []) :
    v.Stopped := by
  have hdown : v.stack.worker.alive = true → v.Down := by
    intro halive
    have hquiet := quiet_of_reachable C h rfl halive
    rwa [hidle] at hquiet
  obtain ⟨hreachable, hserialized⟩ := serialized_of_reachable C (serial_reachable h)
  constructor
  · intro packet
    unfold Vpn.send
    split_ifs with hio
    · by_cases halive : v.stack.worker.alive = true
      · rw [(hdown halive).1] at hio
        contradiction
      · simp [Tunnel.receive, halive]
    · rfl
  · intro hdrained
    by_cases halive : v.stack.worker.alive = true
    · obtain ⟨processed, hsent, hup⟩ := (hserialized halive).current
      rw [hdrained, List.append_nil] at hsent
      rcases hengine : v.stack.worker.engine with _ | ⟨g, e⟩
      · rfl
      · have hnone := (hdown halive).2
        rw [hsent, hup g e hengine] at hnone
        contradiction
    · have hkept := Stack.kept_of_reachable C (stack_reachable hreachable)
      exact (hkept.sound.ended (by simpa using halive)).2

end Vpn

/-! ## Two failed starts on the reference backend -/

namespace Sample

/-- A start that is refused for its options. -/
def refusedRun : List (VpnAct (reference fun _ _ => .failed)) :=
  [.configure 3 1500, .start "topology subnet" 7, .resume 0 true]

/-- A start that Core does not activate, and the worker after it. -/
def inactiveRun : List (VpnAct (reference fun _ _ => .failed)) :=
  [.configure 3 1500, .start "ifconfig 10.8.0.2 255.255.255.0" 7, .resume 0 true, .resume 0 true,
    .resume 0 true, .resume 0 false, .resume 0 false, .thread (.select (.command 49152)),
    .thread .advance, .thread .advance, .thread .advance, .thread (.select (.command 49152))]

end Sample

open Sample in
/-- Options without an address. -/
theorem failed_start_leaves_stopped_refused :
    ∃ v, System.replay Vpn.actStopped (.new [] start, true) refusedRun = some (v, true) ∧
      v.Stopped := by
  have hinit : (stopSystem (reference fun _ _ => .failed)).init (.new [] start, true) :=
    ⟨⟨[], start, ⟨⟨30, 0, 2, 0⟩, ⟨0, [], []⟩, by decide, rfl⟩, rfl⟩, rfl⟩
  have hguard : ∀ a ∈ refusedRun, ∀ s, Vpn.Activates s a := by
    intro a ha s i generation hfalse
    subst hfalse
    simp [refusedRun] at ha
  exact ⟨_, rfl, Vpn.failed_start_leaves_stopped (Reference.netContract fun _ _ => .failed)
    ⟨_, refusedRun, hinit, (System.Run.of_replay rfl).to_guard hguard⟩ rfl⟩

open Sample in
/-- After an activation that failed, with its commands drained, the worker has no engine, but the
handler still takes packets. -/
theorem failed_activation_leaves_io :
    ∃ v, System.replay Vpn.actStopped (.new [] start, true) inactiveRun = some (v, true) ∧
      v.starts = [] ∧ v.stack.worker.commands = [] ∧ v.stack.worker.engine.isNone ∧
      (v.send [1]).2 = true ∧ ¬ v.Stopped := by
  refine ⟨_, rfl, rfl, rfl, rfl, rfl, fun h => ?_⟩
  have hsend := h.send [1]
  contradiction

end Ovpnlane
