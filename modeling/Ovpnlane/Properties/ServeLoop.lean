import Ovpnlane.Construction.Netstack.Reference
import Ovpnlane.Construction.Serve
import Ovpnlane.Framework.Settling
import Ovpnlane.Properties.Turns

/-!
# The accept loop from its start to its end

`Serve.act_moved` says what one step of `serve` can be; everything else is derived from it.

* `serve_refines`: with the ended tasks left out, `serve` is the proxy of `Construction/Socks.lean`,
  so what is known of every run of the proxy holds of `serve`.
* `serve_spends` and `serve_settles`: once `main` has asked it to stop, `serve` admits at most one
  more client, and comes to its end whatever the clients and the worker do (`serve_stops`).
-/

namespace Ovpnlane

variable {B : Backend}

/-- No action changes the configuration of the worker. -/
lemma Stack.act_config {s t : Stack B} {a : StackAct B} (h : s.act a = some t) :
    t.worker.config = s.worker.config := by
  cases a with
  | thread action =>
    simp only [act] at h
    split_ifs at h
    obtain ⟨w, hw, rfl⟩ := Option.map_eq_some_iff.mp h
    exact Worker.act_config hw
  | send command =>
    simp only [act] at h
    split_ifs at h
    obtain rfl := Option.some.inj h
    show (Tunnel.send s.worker command).1.config = _
    unfold Tunnel.send
    split_ifs <;> rfl
  | receive generation packet =>
    obtain rfl := Option.some.inj h
    show (Tunnel.receive s.worker generation packet).1.config = _
    unfold Tunnel.receive
    split_ifs <;> rfl
  | wake =>
    obtain rfl := Option.some.inj h
    show (Tunnel.wake s.worker).config = _
    unfold Tunnel.wake
    split_ifs <;> rfl
  | outside world bridge =>
    obtain rfl := Option.some.inj h
    rfl

namespace Socks

/-! ## One step -/

/-- An entry of a list, with what is before and after it. -/
lemma exists_split {α : Type} {l : List α} {i : ℕ} {a : α} (h : l[i]? = some a) :
    ∃ pre post, l = pre ++ a :: post ∧ pre.length = i := by
  obtain ⟨hi, rfl⟩ := List.getElem?_eq_some_iff.mp h
  refine ⟨l.take i, l.drop (i + 1), ?_, List.length_take_of_le (Nat.le_of_lt hi)⟩
  rw [List.getElem_cons_drop, List.take_append_drop]

lemma set_split {α : Type} (pre post : List α) (a b : α) :
    (pre ++ a :: post).set pre.length b = pre ++ b :: post := by
  simp

lemma eraseIdx_split {α : Type} (pre post : List α) (a : α) :
    (pre ++ a :: post).eraseIdx pre.length = pre ++ post := by
  simp [List.eraseIdx_append_of_length_le]

/-- The handler of a task that has not ended. -/
def Task.live (task : Task) : Option (Option Reply) :=
  if task.ended then none else some task.request

namespace Serve

variable {s s' : Serve B}

/-- What a step of `serve` and its tasks does. -/
inductive Moved (s : Serve B) : ServeAct B → Serve B → Prop
  | asked (hphase : s.phase = .head) (hvalue : s.shutdown.value = true) :
      Moved s .head { s with phase := .draining (.ok ()) }
  | looked (hphase : s.phase = .head) (hvalue : s.shutdown.value = false) :
      Moved s .head { s with phase := .selecting }
  | changed (shutdown : Watch Bool) (hphase : s.phase = .selecting)
      (hchanged : s.shutdown.changed = some shutdown) :
      Moved s .changed { s with shutdown := shutdown, phase := .draining (.ok ()) }
  | collected (request : Option Reply) (pre post : List Task)
      (htasks : s.tasks = pre ++ ⟨request, true⟩ :: post) (hphase : s.phase = .selecting) :
      Moved s (.join pre.length) { s with tasks := pre ++ post, phase := .head }
  | drained (request : Option Reply) (pre post : List Task) (result : Except IoError Unit)
      (htasks : s.tasks = pre ++ ⟨request, true⟩ :: post) (hphase : s.phase = .draining result) :
      Moved s (.join pre.length) { s with tasks := pre ++ post }
  | admitted (hphase : s.phase = .selecting) (hpermit : 0 < s.permits) :
      Moved s (.accept (.ok ()))
        { s with permits := s.permits - 1, tasks := s.tasks ++ [⟨none, false⟩], phase := .head }
  | turned (hphase : s.phase = .selecting) (hpermit : s.permits = 0) :
      Moved s (.accept (.ok ())) { s with phase := .head }
  | broken (error : IoError) (hphase : s.phase = .selecting) :
      Moved s (.accept (.error error)) { s with phase := .draining (.error error) }
  | joined (result : Except IoError Unit) (hphase : s.phase = .draining result)
      (htasks : s.tasks = []) : Moved s .joined { s with phase := .returned result }
  | requested (target : Target) (port : ℕ) (reply : Reply) (pre post : List Task) (stack : Stack B)
      (htasks : s.tasks = pre ++ ⟨none, false⟩ :: post)
      (hstack : s.stack.act (.send (.connect target port reply)) = some stack) :
      Moved s (.request pre.length target port reply)
        { s with stack := stack, tasks := pre ++ ⟨some reply, false⟩ :: post }
  | finished (request : Option Reply) (pre post : List Task)
      (htasks : s.tasks = pre ++ ⟨request, false⟩ :: post) :
      Moved s (.finish pre.length)
        { s with permits := s.permits + 1, tasks := pre ++ ⟨request, true⟩ :: post }
  | sent : Moved s .send { s with shutdown := s.shutdown.send true }
  | hungUp : Moved s .hangup { s with shutdown := s.shutdown.hangup }
  | stack (action : StackAct B) (stack : Stack B) (haction : isRequest action = false)
      (hstack : s.stack.act action = some stack) : Moved s (.stack action) { s with stack := stack }

/-- **The inversion.** -/
lemma act_moved {a : ServeAct B} (h : s.act a = some s') : s.Moved a s' := by
  cases a with
  | head =>
    simp only [act] at h
    split_ifs at h with hphase hvalue
    · obtain rfl := Option.some.inj h
      exact .asked hphase hvalue
    · obtain rfl := Option.some.inj h
      exact .looked hphase (Bool.eq_false_iff.mpr hvalue)
  | changed =>
    simp only [act] at h
    split_ifs at h with hphase
    obtain ⟨shutdown, hchanged, rfl⟩ := Option.map_eq_some_iff.mp h
    exact .changed shutdown hphase hchanged
  | join task =>
    simp only [act, join] at h
    split at h
    · next request htask hphase =>
      obtain rfl := Option.some.inj h
      obtain ⟨pre, post, htasks, rfl⟩ := exists_split htask
      rw [htasks, eraseIdx_split]
      exact .collected request pre post htasks hphase
    · next request result htask hphase =>
      obtain rfl := Option.some.inj h
      obtain ⟨pre, post, htasks, rfl⟩ := exists_split htask
      rw [htasks, eraseIdx_split]
      exact .drained request pre post result htasks hphase
    · simp at h
  | accept accepted =>
    simp only [act] at h
    split_ifs at h with hphase
    cases accepted with
    | ok _ =>
      obtain rfl := Option.some.inj h
      unfold takeConnection
      split_ifs with hpermit
      · exact .admitted hphase hpermit
      · exact .turned hphase (Nat.eq_zero_of_not_pos hpermit)
    | error error =>
      obtain rfl := Option.some.inj h
      exact .broken error hphase
  | joined =>
    simp only [act] at h
    split at h
    · next result hphase =>
      split_ifs at h with htasks
      obtain rfl := Option.some.inj h
      exact .joined result hphase (List.isEmpty_iff.mp htasks)
    · simp at h
  | request task target port reply =>
    simp only [act] at h
    split_ifs at h with htask
    obtain ⟨stack, hstack, rfl⟩ := Option.map_eq_some_iff.mp h
    obtain ⟨pre, post, htasks, rfl⟩ := exists_split htask
    rw [htasks, set_split]
    exact .requested target port reply pre post stack htasks hstack
  | finish task =>
    simp only [act, finish] at h
    split at h
    · next request htask =>
      obtain rfl := Option.some.inj h
      obtain ⟨pre, post, htasks, rfl⟩ := exists_split htask
      rw [htasks, set_split]
      exact .finished request pre post htasks
    · simp at h
  | send =>
    obtain rfl := Option.some.inj h
    exact .sent
  | hangup =>
    obtain rfl := Option.some.inj h
    exact .hungUp
  | stack action =>
    simp only [act] at h
    split_ifs at h with haction
    obtain ⟨stack, hstack, rfl⟩ := Option.map_eq_some_iff.mp h
    exact .stack action stack (Bool.eq_false_iff.mpr haction) hstack

/-! ## The proxy -/

/-- `serve` without the tasks that have ended. -/
def proxy (s : Serve B) : Proxy B := ⟨s.stack, s.permits, s.tasks.filterMap Task.live⟩

end Serve

/-- A step of `serve` or of a task is a step of the proxy, or none. -/
lemma serve_refines (B : Backend) : (serveSystem B).Refines (proxySystem B) Serve.proxy where
  init := by
    rintro s ⟨config, world, hlimit, rfl⟩
    exact ⟨config, world, hlimit, rfl⟩
  step := by
    intro s a t _ hstep
    have hmoved := Serve.act_moved hstep
    cases hmoved with
    | asked | looked | changed | turned | broken | joined | sent | hungUp => exact .inl rfl
    | collected request pre post htasks | drained request pre post result htasks =>
      left
      simp [Serve.proxy, htasks, Task.live]
    | admitted hphase hpermit =>
      right
      refine ⟨.accept, ?_⟩
      show Proxy.act s.proxy .accept = _
      simp [Proxy.act, Serve.proxy, hpermit, Task.live]
    | requested target port reply pre post stack htasks hstack =>
      right
      refine ⟨.request (pre.filterMap Task.live).length target port reply, ?_⟩
      show Proxy.act s.proxy _ = _
      have hhandler : s.proxy.handlers[(pre.filterMap Task.live).length]? = some none := by
        simp [Serve.proxy, htasks, Task.live]
      have hstack' : s.proxy.stack.act (.send (.connect target port reply)) = some stack := hstack
      simp only [Proxy.act, if_pos hhandler, hstack', Option.map_some]
      simp [Serve.proxy, htasks, Task.live]
    | finished request pre post htasks =>
      right
      refine ⟨.finish (pre.filterMap Task.live).length, ?_⟩
      show Proxy.act s.proxy _ = _
      simp [Proxy.act, Serve.proxy, htasks, Task.live, eraseIdx_split]
    | stack action stack haction hstack =>
      right
      refine ⟨.stack action, ?_⟩
      show Proxy.act s.proxy (.stack action) = _
      simp [Proxy.act, Serve.proxy, haction, hstack]

/-! ## The books -/

namespace Serve

variable {s s' : Serve B}

/-- The stack is left alone, or acts. -/
lemma Moved.stack_eq {a : ServeAct B} (h : s.Moved a s') :
    s'.stack = s.stack ∨ ∃ b, s.stack.act b = some s'.stack := by
  cases h with
  | requested _ _ _ _ _ _ _ hstack | stack _ _ _ hstack => exact .inr ⟨_, hstack⟩
  | _ => exact .inl rfl

/-- What `main` has sent is not taken back. -/
lemma Moved.value {a : ServeAct B} (h : s.Moved a s') (hvalue : s.shutdown.value = true) :
    s'.shutdown.value = true := by
  cases h with
  | changed shutdown _ hchanged => exact (Watch.changed_eq_some hchanged).1.trans hvalue
  | sent => rfl
  | _ => exact hvalue

lemma Moved.returned {a : ServeAct B} (h : s.Moved a s') {result : Except IoError Unit}
    (hreturned : s.phase = .returned result) : s'.phase = .returned result := by
  cases h with
  | drained | finished | requested | sent | hungUp | stack => exact hreturned
  | asked hphase | looked hphase | changed _ hphase | collected _ _ _ _ hphase
  | admitted hphase | turned hphase | broken _ hphase | joined _ hphase =>
      simp [hphase] at hreturned

/-- The tasks whose handlers have not ended. -/
def running (s : Serve B) : ℕ := (s.tasks.filterMap Task.live).length

/-- What `serve` keeps in every state. -/
structure Sound (s : Serve B) : Prop where
  /-- A permit is free or a running handler's. -/
  permits : s.permits + s.running = s.stack.worker.config.maxConnections
  seen : s.shutdown.seen ≤ s.shutdown.version
  /-- Only `true` is ever sent. -/
  sent : 0 < s.shutdown.version → s.shutdown.value = true
  /-- What `main` has sent has not been seen before the loop is left. -/
  unseen : s.phase = .head ∨ s.phase = .selecting → s.shutdown.value = true →
    s.shutdown.seen < s.shutdown.version
  asked : s.phase = .draining (.ok ()) ∨ s.phase = .returned (.ok ()) →
    s.shutdown.value = true ∨ s.shutdown.closed = true
  empty : ∀ result, s.phase = .returned result → s.tasks = []

lemma Sound.moved {a : ServeAct B} (h : s.Sound) (hmoved : s.Moved a s') : s'.Sound := by
  have hpermits := h.permits
  have hseen := h.seen
  have hsent := h.sent
  unfold running at hpermits
  cases hmoved with
  | asked hphase hvalue => exact ⟨h.permits, hseen, hsent, by simp, fun _ => .inl hvalue, by simp⟩
  | looked hphase hvalue =>
    exact ⟨h.permits, hseen, hsent, fun _ => h.unseen (.inl hphase), by simp, by simp⟩
  | changed shutdown hphase hchanged =>
    obtain ⟨hvalue, hversion, hclosed, hsame, hready⟩ := Watch.changed_eq_some hchanged
    refine ⟨h.permits, hsame.le, ?_, by simp, fun _ => ?_, by simp⟩
    · show 0 < shutdown.version → shutdown.value = true
      rwa [hvalue, hversion]
    · show shutdown.value = true ∨ shutdown.closed = true
      rw [hvalue, hclosed]
      rcases hready with hnew | hgone
      · exact .inl (hsent (by omega))
      · exact .inr hgone
  | collected request pre post htasks hphase =>
    refine ⟨?_, hseen, hsent, fun _ => h.unseen (.inr hphase), by simp, by simp⟩
    simpa [running, htasks, Task.live] using hpermits
  | drained request pre post result htasks hphase =>
    refine ⟨?_, hseen, hsent, h.unseen, h.asked, fun result' hreturned => ?_⟩
    · simpa [running, htasks, Task.live] using hpermits
    · rw [hphase] at hreturned
      cases hreturned
  | admitted hphase hpermit =>
    refine ⟨?_, hseen, hsent, fun _ => h.unseen (.inr hphase), by simp, by simp⟩
    simp [running, Task.live]
    omega
  | turned hphase =>
    exact ⟨h.permits, hseen, hsent, fun _ => h.unseen (.inr hphase), by simp, by simp⟩
  | broken error hphase => exact ⟨h.permits, hseen, hsent, by simp, by simp, by simp⟩
  | joined result hphase htasks =>
    refine ⟨h.permits, hseen, hsent, by simp, fun hok => h.asked (.inl ?_), fun _ _ => htasks⟩
    rw [hphase]
    simpa using hok
  | requested target port reply pre post stack htasks hstack =>
    refine ⟨?_, hseen, hsent, h.unseen, h.asked, fun result hreturned => ?_⟩
    · show _ = stack.worker.config.maxConnections
      rw [Stack.act_config hstack]
      simpa [running, htasks, Task.live] using hpermits
    · simp [h.empty result hreturned] at htasks
  | finished request pre post htasks =>
    refine ⟨?_, hseen, hsent, h.unseen, h.asked, fun result hreturned => ?_⟩
    · simp [htasks, Task.live] at hpermits
      simp [running, Task.live]
      omega
    · simp [h.empty result hreturned] at htasks
  | sent =>
    exact ⟨h.permits, Nat.le_succ_of_le hseen, fun _ => rfl, fun _ _ => Nat.lt_succ_of_le hseen,
      fun _ => .inl rfl, h.empty⟩
  | hungUp => exact ⟨h.permits, hseen, hsent, h.unseen, fun _ => .inr rfl, h.empty⟩
  | stack action stack haction hstack =>
    refine ⟨?_, hseen, hsent, h.unseen, h.asked, h.empty⟩
    show _ = stack.worker.config.maxConnections
    rw [Stack.act_config hstack]
    exact h.permits

lemma sound_of_reachable (hs : (serveSystem B).Reachable s) : s.Sound := by
  refine hs.invariant_of_reachable ?_ fun t a u _ ht hstep => ht.moved (act_moved hstep)
  rintro s ⟨config, world, hlimit, rfl⟩
  exact ⟨rfl, le_rfl, by simp [Watch.channel], by simp [Watch.channel], by simp, by simp⟩

/-! ## A run of `serve` -/

variable {ls : List (ServeAct B)}

/-- What the steps of a run explain about the state they lead to. -/
structure Told (limit : ℕ) (ls : List (ServeAct B)) (s : Serve B) : Prop where
  config : s.stack.worker.config.maxConnections = limit
  value : s.shutdown.value = true → ServeAct.send ∈ ls
  closed : s.shutdown.closed = true → ServeAct.hangup ∈ ls
  failed : ∀ error, s.phase = .draining (.error error) ∨ s.phase = .returned (.error error) →
    ServeAct.accept (.error error) ∈ ls

lemma Told.moved {limit : ℕ} {a : ServeAct B} (h : s.Told limit ls) (hmoved : s.Moved a s') :
    s'.Told limit (ls ++ [a]) := by
  have hvalue : s.shutdown.value = true → ServeAct.send ∈ ls ++ [a] := fun hv =>
    List.mem_append_left _ (h.value hv)
  have hclosed : s.shutdown.closed = true → ServeAct.hangup ∈ ls ++ [a] := fun hc =>
    List.mem_append_left _ (h.closed hc)
  have hfailed : ∀ error, s.phase = .draining (.error error) ∨ s.phase = .returned (.error error) →
      ServeAct.accept (.error error) ∈ ls ++ [a] := fun error he =>
    List.mem_append_left _ (h.failed error he)
  cases hmoved with
  | asked | looked | collected | admitted | turned =>
    exact ⟨h.config, hvalue, hclosed, by simp⟩
  | drained | finished => exact ⟨h.config, hvalue, hclosed, hfailed⟩
  | changed shutdown hphase hchanged =>
    obtain ⟨hsame, -, hgone, -⟩ := Watch.changed_eq_some hchanged
    exact ⟨h.config, fun hv => hvalue (hsame ▸ hv), fun hc => hclosed (hgone ▸ hc), by simp⟩
  | broken error =>
    refine ⟨h.config, hvalue, hclosed, fun error' he => ?_⟩
    obtain rfl : error = error' := by simpa using he
    simp
  | joined result hphase =>
    refine ⟨h.config, hvalue, hclosed, fun error he => hfailed error (.inl ?_)⟩
    rw [hphase]
    simpa using he
  | requested _ _ _ _ _ _ _ hstack | stack _ _ _ hstack =>
    exact ⟨(congrArg _ (Stack.act_config hstack)).trans h.config, hvalue, hclosed, hfailed⟩
  | sent => exact ⟨h.config, fun _ => by simp, hclosed, hfailed⟩
  | hungUp => exact ⟨h.config, hvalue, fun _ => by simp, hfailed⟩

lemma told_of_run (hinit : (serveSystem B).init s) (hrun : (serveSystem B).Run s ls s') :
    s'.Told s.permits ls := by
  induction hrun with
  | nil =>
    obtain ⟨config, world, hlimit, rfl⟩ := hinit
    exact ⟨rfl, by simp [Watch.channel], by simp [Watch.channel], by simp⟩
  | snoc hrun hstep ih => exact ih.moved (act_moved hstep)

end Serve

/-- **A run of `serve`.**  At most `limit` handlers run in every state.  When `serve` returns, no
task is left and every permit is free; it returns `Ok` only after `main` has sent `true` or dropped
the channel, and an error only if it is one of `accept`. -/
theorem serve_accounts {s t : Serve B} {ls : List (ServeAct B)} (hinit : (serveSystem B).init s)
    (hrun : (serveSystem B).Run s ls t) :
    t.permits + t.running = s.permits ∧ ∀ result, t.phase = .returned result →
      t.tasks = [] ∧ t.permits = s.permits ∧
        match result with
        | .ok () => ServeAct.send ∈ ls ∨ ServeAct.hangup ∈ ls
        | .error error => ServeAct.accept (.error error) ∈ ls := by
  have hsound := Serve.sound_of_reachable ⟨s, ls, hinit, hrun⟩
  have htold := Serve.told_of_run hinit hrun
  have hpermits : t.permits + t.running = s.permits := hsound.permits.trans htold.config
  refine ⟨hpermits, fun result hreturned => ?_⟩
  have htasks := hsound.empty result hreturned
  refine ⟨htasks, ?_, ?_⟩
  · simpa [Serve.running, htasks] using hpermits
  · cases result with
    | ok _ => exact (hsound.asked (.inr hreturned)).imp htold.value htold.closed
    | error error => exact htold.failed error (.inr hreturned)

namespace OneClient

/-- A `serve` for one client at a time. -/
def listening : Serve (reference fun _ _ => .failed) :=
  ⟨⟨Worker.spawn ⟨30, 0, 1, 0⟩ ⟨0, [], []⟩, []⟩, 1, [], .channel false, .head⟩

lemma init_listening : (serveSystem (reference fun _ _ => .failed)).init listening :=
  ⟨⟨30, 0, 1, 0⟩, ⟨0, [], []⟩, by decide, rfl⟩

/-- A client is admitted and the next one is turned away; then `main` asks `serve` to stop, which
ends the handler. -/
def stopping : List (ServeAct (reference fun _ _ => .failed)) :=
  [.head, .accept (.ok ()), .head, .accept (.ok ()), .head, .send, .changed, .finish 0, .join 0,
    .joined]

/-- `serve` is asked to stop at its `select!`. -/
def waiting : List (ServeAct (reference fun _ _ => .failed)) := [.head, .send]

end OneClient

open OneClient in
theorem serve_accounts_stopped : ∃ t, System.replay Serve.act listening stopping = some t ∧
    t.phase = .returned (.ok ()) ∧ t.permits + t.running = 1 ∧ t.tasks = [] ∧ t.permits = 1 := by
  obtain ⟨t, hreplay, hphase⟩ : ∃ t, System.replay Serve.act listening stopping = some t ∧
      t.phase = .returned (.ok ()) := ⟨_, rfl, rfl⟩
  obtain ⟨hpermits, hreturned⟩ := serve_accounts init_listening (.of_replay hreplay)
  obtain ⟨htasks, hfree, -⟩ := hreturned _ hphase
  exact ⟨t, hreplay, hphase, hpermits, htasks, hfree⟩

/-! ## The end -/

/-- The steps of `serve` itself until it has returned; a connection it takes on the way adds a
task. -/
def ServePhase.remaining : ServePhase → ℕ
  | .selecting => 5
  | .head => 2
  | .draining _ => 1
  | .returned _ => 0

namespace Serve

/-- The steps of `serve` itself and the ends of its tasks, which are all that is needed once it has
been asked to stop. -/
def own : ServeAct B → Bool
  | .head | .changed | .join _ | .joined | .finish _ => true
  | _ => false

def isAccept : ServeAct B → Bool
  | .accept _ => true
  | _ => false

/-- How many own steps are left at most: a running task has to end and to be joined. -/
def remaining (s : Serve B) : ℕ :=
  ServePhase.remaining s.phase + (s.tasks.map fun task => if task.ended then 1 else 2).sum

/-- `main` has asked `serve` to stop. -/
def Asked (s : Serve B) : Prop := s.Sound ∧ s.shutdown.value = true

def Returned (s : Serve B) : Prop := ∃ result, s.phase = .returned result

variable {s s' : Serve B} {a : ServeAct B}

lemma Asked.moved (h : s.Asked) (hmoved : s.Moved a s') : s'.Asked :=
  ⟨h.1.moved hmoved, hmoved.value h.2⟩

/-- A step of `serve` that has been asked to stop, and what is left of its work. -/
lemma Asked.remaining_moved (h : s.Asked) (hmoved : s.Moved a s') :
    s'.remaining + (if own a then 1 else 0) ≤ s.remaining := by
  cases hmoved with
  | looked _ hvalue => simp [h.2] at hvalue
  | asked hphase | changed _ hphase | joined _ hphase | turned hphase | broken _ hphase
  | admitted hphase =>
    simp only [remaining, ServePhase.remaining, own, hphase, List.map_append, List.map_cons,
      List.map_nil, List.sum_append, List.sum_cons, List.sum_nil, Bool.false_eq_true, reduceIte]
    omega
  | collected _ _ _ htasks hphase | drained _ _ _ _ htasks hphase =>
    simp only [remaining, ServePhase.remaining, own, hphase, htasks, List.map_append, List.map_cons,
      List.sum_append, List.sum_cons, reduceIte]
    omega
  | requested _ _ _ _ _ _ htasks | finished _ _ _ htasks =>
    simp only [remaining, own, htasks, List.map_append, List.map_cons, List.sum_append,
      List.sum_cons, Bool.false_eq_true, reduceIte]
    omega
  | sent | hungUp | stack => exact le_rfl

/-- Asked to stop, `serve` goes through `accept` at most once more: it does not come back to its
`select!`. -/
lemma Asked.accept_moved (h : s.Asked) (hmoved : s.Moved a s') :
    (if s'.phase = .selecting then 1 else 0) + (if isAccept a then 1 else 0) ≤
      if s.phase = .selecting then 1 else 0 := by
  cases hmoved with
  | looked _ hvalue => simp [h.2] at hvalue
  | _ => simp_all [isAccept]

lemma Asked.exists_own (h : s.Asked) (hnot : ¬ s.Returned) :
    ∃ a s', own a = true ∧ s.act a = some s' := by
  cases hphase : s.phase with
  | head => exact ⟨.head, _, rfl, by simp [act, hphase]; rfl⟩
  | selecting =>
    have hready := Watch.changed_of_lt (h.1.unseen (.inr hphase) h.2)
    obtain ⟨shutdown, hchanged⟩ := Option.isSome_iff_exists.mp hready
    exact ⟨.changed, _, rfl, by simp [act, hphase, hchanged]; rfl⟩
  | draining result =>
    cases htasks : s.tasks with
    | nil => exact ⟨.joined, _, rfl, by simp [act, hphase, htasks]; rfl⟩
    | cons task tasks =>
      obtain ⟨request, ended⟩ := task
      cases ended with
      | false => exact ⟨.finish 0, _, rfl, by simp [act, finish, htasks]; rfl⟩
      | true => exact ⟨.join 0, _, rfl, by simp [act, join, htasks, hphase]; rfl⟩
  | returned result => exact absurd ⟨result, hphase⟩ hnot

end Serve

lemma serve_settles (B : Backend) :
    (serveSystem B).Settles Serve.Asked Serve.Returned Serve.own Serve.remaining where
  keep _ _ _ hs hstep := hs.moved (Serve.act_moved hstep)
  decrease := by
    intro s a t hs hown hstep
    have h := hs.remaining_moved (Serve.act_moved hstep)
    rw [if_pos hown] at h
    omega
  steady := by
    intro s a t hs hown hstep
    have h := hs.remaining_moved (Serve.act_moved hstep)
    omega
  enabled _ hs hnot := hs.exists_own hnot

lemma serve_accepts (B : Backend) :
    (serveSystem B).Spends Serve.Asked Serve.isAccept
      fun s => if s.phase = .selecting then 1 else 0 where
  keep _ _ _ hs hstep := hs.moved (Serve.act_moved hstep)
  decrease := by
    intro s a t hs haccept hstep
    have h := hs.accept_moved (Serve.act_moved hstep)
    rw [if_pos haccept] at h
    omega
  steady := by
    intro s a t hs haccept hstep
    have h := hs.accept_moved (Serve.act_moved hstep)
    omega

/-- **`serve` comes to its end.**  From a state in which `main` has sent `true`, and however the
clients, the worker and `main` go on: `serve` takes at most one more connection from its listener;
it and its tasks have at most `remaining` steps left, and once they have had them `serve` has
returned; and from every state on the way their own steps lead to the end, with no task left. -/
theorem serve_stops {s t : Serve B} {ls : List (ServeAct B)} (hs : (serveSystem B).Reachable s)
    (hasked : s.shutdown.value = true) (hrun : (serveSystem B).Run s ls t) :
    ls.countP Serve.isAccept ≤ 1 ∧
      ls.countP Serve.own ≤ s.remaining ∧
      (s.remaining ≤ ls.countP Serve.own → t.Returned) ∧
      ∃ ls' t', (serveSystem B).Run t ls' t' ∧ (∀ a ∈ ls', Serve.own a = true) ∧ t'.Returned ∧
        t'.tasks = [] := by
  have hs' : s.Asked := ⟨Serve.sound_of_reachable hs, hasked⟩
  have hsettles := serve_settles B
  have ht := hsettles.keep_run hrun hs'
  refine ⟨?_, ?_, hsettles.done_of_count hrun hs', ?_⟩
  · have hbound := (serve_accepts B).bound hrun hs'
    split_ifs at hbound <;> omega
  · have hbound := hsettles.bound hrun hs'
    omega
  · obtain ⟨ls', t', hrun', ht', ⟨result, hreturned⟩, hown, -⟩ := hsettles.reaches ht
    exact ⟨ls', t', hrun', hown, ⟨result, hreturned⟩, ht'.1.empty result hreturned⟩

open OneClient in
/-- The client that is waiting when `main` asks may still be admitted, and is then aborted. -/
theorem serve_stops_waiting : ∃ s t, System.replay Serve.act listening waiting = some s ∧
    System.replay Serve.act s [.accept (.ok ()), .head] = some t ∧ s.remaining = 5 ∧
    ∃ ls t', (serveSystem (reference fun _ _ => .failed)).Run t ls t' ∧
      (∀ a ∈ ls, Serve.own a = true) ∧ t'.Returned ∧ t'.tasks = [] := by
  refine ⟨_, _, rfl, rfl, rfl, ?_⟩
  have hstops := @serve_stops _ _ _ [.accept (.ok ()), .head]
    ⟨listening, waiting, init_listening, .of_replay rfl⟩ rfl (.of_replay rfl)
  exact hstops.2.2.2

end Socks

end Ovpnlane
