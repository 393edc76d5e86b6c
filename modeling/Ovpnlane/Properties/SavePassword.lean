import Ovpnlane.Construction.Main
import Ovpnlane.Framework.History

/-!
# The saved password

A candidate password reaches the system keychain only after the server has accepted it, and the
task that stores it cannot hold up the shutdown.

`Main.Moved` says once what a step of `connectionSystem` does; every later proof goes through its
cases.  `Main.Inv` is the invariant.  Its first field is `Watched`: the flag of `wait_connected` is
raised in the same locked section that notifies, so a save task that has seen the flag down finds
the permit or has been woken.  The others tie the pair that is stored to the credentials that were
submitted, and the two ends of the task (its closure and its handle) to the place it has reached.

`MainKept` is what the run guarantees; `password_kept` proves it of every reachable state.
-/

namespace Ovpnlane

open OpenvpnConnect

/-! ## Credentials -/

namespace Inputs

variable {inputs : Inputs}

/-- The password that is stored is the one `resolve_vpn_password` returned with the request to
store it, for the username of the credentials. -/
lemma candidate_eq_ok {credentials : Credentials} {account password : String}
    (h : inputs.candidate = .ok (credentials, some (account, password))) :
    credentials.password = password ∧
      account = keychainAccount inputs.profile credentials.username ∧
      inputs.resolvedPassword credentials.username = .ok (password, true) := by
  unfold candidate at h
  split at h
  · obtain ⟨_, -, hpair⟩ := except_map_eq_ok.mp h
    simp at hpair
  · obtain ⟨username, -, h⟩ := bind_eq_ok.mp h
    obtain ⟨⟨resolved, shouldSave⟩, hresolved, h⟩ := bind_eq_ok.mp h
    cases shouldSave with
    | false => simp [pure, Except.pure] at h
    | true =>
      obtain ⟨rfl, rfl, rfl⟩ : Credentials.new username resolved = credentials ∧
          keychainAccount inputs.profile username = account ∧ resolved = password := by
        simpa [pure, Except.pure] using h
      exact ⟨rfl, rfl, hresolved⟩

/-- The challenge response is added to the credentials; nothing else changes. -/
lemma answered_eq_ok {credentials credentials' : Credentials}
    (h : inputs.answered credentials = .ok credentials') :
    credentials'.username = credentials.username ∧
      credentials'.password = credentials.password := by
  unfold answered at h
  split at h
  · obtain ⟨response, -, rfl⟩ := except_map_eq_ok.mp h
    exact ⟨rfl, rfl⟩
  · obtain rfl := Except.ok.inj h
    exact ⟨rfl, rfl⟩

lemma authenticate_eq_ok {credentials : Credentials} {account password : String}
    (h : inputs.authenticate = .ok (credentials, some (account, password))) :
    credentials.password = password ∧
      account = keychainAccount inputs.profile credentials.username ∧
      inputs.resolvedPassword credentials.username = .ok (password, true) := by
  obtain ⟨⟨candidate, save⟩, hcandidate, h⟩ := bind_eq_ok.mp h
  obtain ⟨answer, hanswer, h⟩ := bind_eq_ok.mp h
  obtain ⟨-, -, h⟩ := bind_eq_ok.mp h
  obtain ⟨rfl, rfl⟩ : answer = credentials ∧ save = some (account, password) := by
    simpa [pure, Except.pure] using h
  have hsame := answered_eq_ok hanswer
  rw [hsame.1, hsame.2]
  exact candidate_eq_ok hcandidate

/-- The log shows the submission of a password that `resolve_vpn_password` asked to store under
this account. -/
def Asked (inputs : Inputs) (log : List MainEvent) (account password : String) : Prop :=
  ∃ credentials, .submitted credentials ∈ log ∧ credentials.password = password ∧
    account = keychainAccount inputs.profile credentials.username ∧
    inputs.resolvedPassword credentials.username = .ok (password, true)

lemma Asked.append {log : List MainEvent} {account password : String}
    (h : inputs.Asked log account password) (more : List MainEvent) :
    inputs.Asked (log ++ more) account password := by
  obtain ⟨credentials, hmem, hrest⟩ := h
  exact ⟨credentials, List.mem_append_left more hmem, hrest⟩

end Inputs

/-! ## What a step does -/

/-- Before the save task is spawned, while it is `main`'s to await or abort, and after that. -/
def MainPhase.stage : MainPhase → ℕ
  | .authenticating | .binding | .spawning => 0
  | .selecting | .stopping _ | .awaiting _ | .aborting _ => 1
  | .returned _ => 2

namespace Main

/-- The steps of `connectionSystem`. -/
inductive Moved (inputs : Inputs) (m : Main) : MainAct → Main → Prop
  | event (event : OpenvpnConnect.Event) : Moved inputs m (.event event) { m with
      diagnostics := m.diagnostics.record event
      log := m.log ++ [.recorded event] }
  | line (text : String) :
      Moved inputs m (.line text) { m with diagnostics := m.diagnostics.log text }
  /-- A step of `wait_connected`. -/
  | polled {task : SaveTask} {point point' : WaitPoint} {n : Notify}
      (htask : m.saveTask = some task) (hpoint : task.point = .waiting point)
      (hstep : point.step m.diagnostics.wasConnected m.diagnostics.connected = some (n, point')) :
      Moved inputs m .task { m with
        diagnostics := { m.diagnostics with connected := n }
        saveTask := some { task with point := .waiting point' } }
  /-- The closure goes to a blocking thread. -/
  | handed {task : SaveTask} (htask : m.saveTask = some task)
      (hpoint : task.point = .waiting .returned) :
      Moved inputs m .task { m with
        saveTask := some { task with point := .joining }
        job := some ⟨task.account, task.password, false⟩ }
  | joined {task : SaveTask} {job : SaveJob} (htask : m.saveTask = some task)
      (hpoint : task.point = .joining) (hjob : m.job = some job) (hran : job.ran = true) :
      Moved inputs m .task { m with saveTask := some { task with point := .finished } }
  | ran {job : SaveJob} (hjob : m.job = some job) (hran : job.ran = false) :
      Moved inputs m .job { m with
        job := some { job with ran := true }
        log := m.log ++ [.saved job.account job.password] }
  | dropped {task : SaveTask} (htask : m.saveTask = some task) (hcancelled : task.cancelled = true)
      (hpoint : task.point ≠ .finished ∧ task.point ≠ .aborted) :
      Moved inputs m .cancel { m with
        diagnostics := { m.diagnostics with connected := m.diagnostics.connected.drop }
        saveTask := some { task with point := .aborted } }
  | submitted {credentials : Credentials} {save : Option (String × String)}
      (hphase : m.phase = .authenticating)
      (hok : inputs.authenticate = .ok (credentials, save)) :
      Moved inputs m .authenticate { m with
        phase := .binding
        passwordToSave := save
        log := m.log ++ [.submitted credentials] }
  | spawned (hphase : m.phase = .spawning) : Moved inputs m .spawn m.spawn
  | awaited {result : Except String Unit} {task : SaveTask} (hphase : m.phase = .stopping result)
      (htask : m.saveTask = some task) (hconnected : m.diagnostics.wasConnected = true) :
      Moved inputs m .stopped { m with phase := .awaiting result }
  /-- Another step of `main` within its stage. -/
  | passed {act : MainAct} {phase : MainPhase} (hstage : phase.stage = m.phase.stage)
      (hfrom : ∀ result, m.phase ≠ .awaiting result) (hto : ∀ result, phase ≠ .awaiting result) :
      Moved inputs m act { m with phase }
  | finished {act : MainAct} {result : Except String Unit}
      (hjoin : ∀ result, m.phase = .awaiting result → act = .joinSave) :
      Moved inputs m act (m.finish result)

variable {inputs : Inputs} {m m' : Main} {act : MainAct}

lemma stepTask_waiting {task : SaveTask} {point : WaitPoint} (htask : m.saveTask = some task)
    (hpoint : task.point = .waiting point) (hreturned : point ≠ .returned) :
    m.stepTask = (point.step m.diagnostics.wasConnected m.diagnostics.connected).map
      fun (n, point) => { m with
        diagnostics := { m.diagnostics with connected := n }
        saveTask := some { task with point := .waiting point } } := by
  rw [stepTask, htask, Option.bind_some, hpoint]
  cases point with
  | returned => exact absurd rfl hreturned
  | head | created | tested | awaiting => rfl

lemma stepTask_moved (h : m.stepTask = some m') : m.Moved inputs .task m' := by
  have hstep := h
  obtain ⟨task, htask, h⟩ := Option.bind_eq_some_iff.mp h
  cases hpoint : task.point with
  | waiting point =>
    by_cases hreturned : point = .returned
    · subst hreturned
      simp only [hpoint] at h
      obtain rfl := Option.some.inj h
      exact .handed htask hpoint
    · rw [stepTask_waiting htask hpoint hreturned] at hstep
      obtain ⟨⟨n, point'⟩, hpoll, rfl⟩ := Option.map_eq_some_iff.mp hstep
      exact .polled htask hpoint hpoll
  | joining =>
    simp only [hpoint] at h
    split at h
    · rename_i hany
      obtain ⟨job, hjob, hran⟩ := (Option.any_eq_true _ _).mp hany
      obtain rfl := Option.some.inj h
      exact .joined htask hpoint hjob hran
    · cases h
  | finished | aborted =>
    simp only [hpoint] at h
    cases h

lemma runJob_moved (h : m.runJob = some m') : m.Moved inputs .job m' := by
  obtain ⟨job, hjob, h⟩ := Option.bind_eq_some_iff.mp h
  cases hran : job.ran with
  | true => simp [hran] at h
  | false =>
    simp only [hran] at h
    obtain rfl := Option.some.inj h
    exact .ran hjob hran

lemma dropTask_moved (h : m.dropTask = some m') : m.Moved inputs .cancel m' := by
  obtain ⟨task, htask, h⟩ := Option.bind_eq_some_iff.mp h
  split at h
  · rename_i hdrop
    simp only [Bool.and_eq_true, bne_iff_ne] at hdrop
    obtain rfl := Option.some.inj h
    exact .dropped htask hdrop.1.1 ⟨hdrop.1.2, hdrop.2⟩
  · cases h

lemma authenticate_moved (hphase : m.phase = .authenticating) :
    m.Moved inputs .authenticate (m.authenticate inputs) := by
  unfold authenticate
  split
  · exact .passed (by rw [hphase]; rfl) (by simp [hphase]) (by simp)
  · split
    · exact .finished (by simp [hphase])
    · rename_i hok
      exact .submitted hphase hok

lemma stopped_moved {result : Except String Unit} (hphase : m.phase = .stopping result) :
    m.Moved inputs .stopped (m.stopped result) := by
  unfold stopped
  split
  · exact .finished (by simp [hphase])
  · rename_i task htask
    split
    · rename_i hconnected
      exact .awaited hphase htask hconnected
    · exact .passed (by rw [hphase]; rfl) (by simp [hphase]) (by simp)

/-- Every enabled action is one of the steps. -/
lemma act_moved (h : m.act inputs act = some m') : m.Moved inputs act m' := by
  cases act with
  | event event =>
    obtain rfl := Option.some.inj h
    exact .event event
  | line text =>
    obtain rfl := Option.some.inj h
    exact .line text
  | task => exact stepTask_moved h
  | job => exact runJob_moved h
  | cancel => exact dropTask_moved h
  | authenticate =>
    obtain ⟨hphase, h⟩ := Option.ite_none_right_eq_some.mp h
    obtain rfl := Option.some.inj h
    exact authenticate_moved hphase
  | bind bound =>
    obtain ⟨hphase, h⟩ := Option.ite_none_right_eq_some.mp h
    split at h
    · obtain rfl := Option.some.inj h
      exact .passed (by rw [hphase]; rfl) (by simp [hphase]) (by simp)
    · obtain rfl := Option.some.inj h
      exact .finished (by simp [hphase])
  | spawn =>
    obtain ⟨hphase, h⟩ := Option.ite_none_right_eq_some.mp h
    obtain rfl := Option.some.inj h
    exact .spawned hphase
  | interrupt signal =>
    obtain ⟨hphase, h⟩ := Option.ite_none_right_eq_some.mp h
    cases signal with
    | false =>
      obtain rfl := Option.some.inj h
      exact .finished (by simp [hphase])
    | true =>
      obtain rfl := Option.some.inj h
      exact .passed (by rw [hphase]; rfl) (by simp [hphase]) (by simp)
  | session _ | proxy _ =>
    obtain ⟨hphase, h⟩ := Option.ite_none_right_eq_some.mp h
    obtain rfl := Option.some.inj h
    exact .passed (by rw [hphase]; rfl) (by simp [hphase]) (by simp)
  | stopped =>
    simp only [Main.act] at h
    split at h
    · rename_i hphase
      obtain rfl := Option.some.inj h
      exact stopped_moved hphase
    · cases h
  | joinSave =>
    simp only [Main.act] at h
    split at h
    · obtain ⟨-, h⟩ := Option.ite_none_right_eq_some.mp h
      obtain rfl := Option.some.inj h
      exact .finished fun _ _ => rfl
    · cases h
  | abortSave =>
    simp only [Main.act] at h
    split at h
    · rename_i hphase
      obtain rfl := Option.some.inj h
      exact .finished (by simp [hphase])
    · cases h

end Main

/-! ## The invariant -/

/-- Where the save task is in `wait_connected`. -/
def SavePoint.waitPoint : SavePoint → WaitPoint
  | .waiting point => point
  | .joining | .finished | .aborted => .returned

/-- The task has left `wait_connected`, and was not dropped since. -/
def SavePoint.passed : SavePoint → Prop
  | .waiting .returned | .joining | .finished => True
  | _ => False

/-- The task may have handed its closure to a blocking thread. -/
def SavePoint.handed : SavePoint → Prop
  | .joining | .finished | .aborted => True
  | .waiting _ => False

def MainEvent.saved? : MainEvent → Option (String × String)
  | .saved account password => some (account, password)
  | _ => none

/-- A `CONNECTED` event was recorded. -/
def Accepted (log : List MainEvent) : Prop :=
  ∃ event, .recorded event ∈ log ∧ event.name = "CONNECTED"

lemma Accepted.append {log : List MainEvent} (h : Accepted log) (more : List MainEvent) :
    Accepted (log ++ more) := by
  obtain ⟨event, hmem, hname⟩ := h
  exact ⟨event, List.mem_append_left more hmem, hname⟩

/-- What has to be in the log before a password is stored. -/
def Inputs.Heeds (inputs : Inputs) (log : List MainEvent) : MainEvent → Prop
  | .saved account password => Accepted log ∧ inputs.Asked log account password
  | _ => True

namespace Main

def waitPoint (m : Main) : WaitPoint := m.saveTask.elim .head (·.point.waitPoint)

/-- What the closure has stored. -/
def stored (m : Main) : List (String × String) :=
  match m.job with
  | some ⟨account, password, true⟩ => [(account, password)]
  | _ => []

structure Inv (inputs : Inputs) (m : Main) : Prop where
  watched : Watched m.diagnostics.wasConnected m.diagnostics.connected m.waitPoint
  accepted : m.diagnostics.wasConnected = true → Accepted m.log
  asked : ∀ account password, m.passwordToSave = some (account, password) →
    inputs.Asked m.log account password
  early : m.phase.stage = 0 → m.saveTask = none ∧ m.job = none
  awaits : ∀ result, m.phase = .awaiting result →
    m.diagnostics.wasConnected = true ∧ ∃ task, m.saveTask = some task
  candidate : ∀ task, m.saveTask = some task → inputs.Asked m.log task.account task.password
  passed : ∀ task, m.saveTask = some task → task.point.passed → m.diagnostics.wasConnected = true
  joins : ∀ task, m.saveTask = some task → task.point = .joining → ∃ job, m.job = some job
  ends : ∀ task, m.saveTask = some task → task.point = .finished →
    ∃ job, m.job = some job ∧ job.ran = true
  live : ∀ task, m.saveTask = some task → m.phase.stage = 1 → task.cancelled = false
  dropped : ∀ task, m.saveTask = some task → task.point = .aborted → task.cancelled = true
  job : ∀ job, m.job = some job → m.diagnostics.wasConnected = true ∧ ∃ task,
    m.saveTask = some task ∧ task.account = job.account ∧ task.password = job.password ∧
      task.point.handed
  saves : m.log.filterMap MainEvent.saved? = m.stored
  heeds : Each inputs.Heeds m.log

namespace Inv

variable {inputs : Inputs} {m m' : Main} {act : MainAct}

lemma new : Inv inputs .new where
  watched := .start false rfl
  accepted := by simp [Main.new, Diagnostics.new, Diagnostics.wasConnected]
  asked := by simp [Main.new]
  early := by simp [Main.new]
  awaits := by simp [Main.new]
  candidate := by simp [Main.new]
  passed := by simp [Main.new]
  joins := by simp [Main.new]
  ends := by simp [Main.new]
  live := by simp [Main.new]
  dropped := by simp [Main.new]
  job := by simp [Main.new]
  saves := rfl
  heeds := each_nil

/-- An entry that stores nothing keeps what the log says. -/
lemma log_append (h : Inv inputs m) (entry : MainEvent) (hentry : entry.saved? = none) :
    Inv inputs { m with log := m.log ++ [entry] } :=
  { h with
    accepted := fun hconnected => (h.accepted hconnected).append _
    asked := fun account password hsave => (h.asked account password hsave).append _
    candidate := fun task htask => (h.candidate task htask).append _
    saves := by
      have hsaves : (m.log ++ [entry]).filterMap MainEvent.saved? = m.stored := by
        simpa [hentry] using h.saves
      exact hsaves
    heeds := by
      refine each_concat.mpr ⟨h.heeds, ?_⟩
      cases entry with
      | saved account password => simp [MainEvent.saved?] at hentry
      | submitted _ | recorded _ => trivial }

/-- Core reports `CONNECTED`: the flag is raised and the waiter notified. -/
lemma raised (h : Inv inputs m) (haccepted : Accepted m.log) (state : DiagnosticState)
    (hstate : state.connected = true) :
    Inv inputs { m with diagnostics := ⟨state, m.diagnostics.connected.notifyOne⟩ } :=
  { h with
    watched := by
      have hwatched := h.watched.raise
      rw [← hstate] at hwatched
      exact hwatched
    accepted := fun _ => haccepted
    awaits := fun result hphase => ⟨hstate, (h.awaits result hphase).2⟩
    passed := fun _ _ _ => hstate
    job := fun job hjob => ⟨hstate, (h.job job hjob).2⟩ }

/-- The rest of the diagnostics does not matter. -/
lemma unraised (h : Inv inputs m) {d : Diagnostics}
    (hconnected : d.wasConnected = m.diagnostics.wasConnected)
    (hnotify : d.connected = m.diagnostics.connected) : Inv inputs { m with diagnostics := d } :=
  { h with
    watched := by
      have hwatched := h.watched
      rwa [← hconnected, ← hnotify] at hwatched
    accepted := fun hup => h.accepted (hconnected ▸ hup)
    awaits := fun result hphase =>
      ⟨hconnected ▸ (h.awaits result hphase).1, (h.awaits result hphase).2⟩
    passed := fun task htask hpassed => hconnected ▸ h.passed task htask hpassed
    job := fun job hjob => ⟨hconnected ▸ (h.job job hjob).1, (h.job job hjob).2⟩ }

lemma event (h : Inv inputs m) (event : OpenvpnConnect.Event) :
    Inv inputs { m with
      diagnostics := m.diagnostics.record event
      log := m.log ++ [.recorded event] } := by
  have hlog := h.log_append (.recorded event) rfl
  by_cases hname : event.name = "CONNECTED"
  · have hraised := hlog.raised ⟨event, by simp, hname⟩ (m.diagnostics.record event).state
      (Diagnostics.record_wasConnected.trans (by simp [hname]))
    have hnotify : (m.diagnostics.record event).connected = m.diagnostics.connected.notifyOne := by
      simp [hname]
    rw [← hnotify] at hraised
    exact hraised
  · exact hlog.unraised (by simp [hname]) (by simp [hname])

/-- The closure belongs to the one save task. -/
lemma job_task (h : Inv inputs m) {task : SaveTask} {job : SaveJob}
    (htask : m.saveTask = some task) (hjob : m.job = some job) :
    task.account = job.account ∧ task.password = job.password ∧ task.point.handed := by
  obtain ⟨-, task', htask', hrest⟩ := h.job job hjob
  obtain rfl : task = task' := Option.some.inj (htask.symm.trans htask')
  exact hrest

lemma stage_ne_zero (h : Inv inputs m) {task : SaveTask} (htask : m.saveTask = some task) :
    m.phase.stage ≠ 0 := by
  intro hstage
  have hnone := (h.early hstage).1
  rw [htask] at hnone
  cases hnone

lemma watched_task (h : Inv inputs m) {task : SaveTask} (htask : m.saveTask = some task) :
    Watched m.diagnostics.wasConnected m.diagnostics.connected task.point.waitPoint := by
  have hwatched := h.watched
  rwa [waitPoint, htask, Option.elim_some] at hwatched

/-- The save task moves to another place; `n` is the notification it leaves, and `job` its
closure. -/
lemma retasked (h : Inv inputs m) {task : SaveTask} (htask : m.saveTask = some task)
    {point : SavePoint} (n : Notify) (job : Option SaveJob)
    (hwatched : Watched m.diagnostics.wasConnected n point.waitPoint)
    (hpassed : point.passed → m.diagnostics.wasConnected = true)
    (hjoins : point = .joining → ∃ job', job = some job')
    (hends : point = .finished → ∃ job', job = some job' ∧ job'.ran = true)
    (hdropped : point = .aborted → task.cancelled = true)
    (hjob : ∀ job', job = some job' → m.diagnostics.wasConnected = true ∧
      task.account = job'.account ∧ task.password = job'.password ∧ point.handed)
    (hsaves : m.stored = { m with job := job }.stored) :
    Inv inputs { m with
      diagnostics := { m.diagnostics with connected := n }
      saveTask := some { task with point }
      job := job } :=
  { h with
    watched := hwatched
    early := fun hstage => absurd hstage (h.stage_ne_zero htask)
    awaits := fun result hphase => ⟨(h.awaits result hphase).1, _, rfl⟩
    candidate := by
      rintro _ ⟨⟩
      exact h.candidate task htask
    passed := by
      rintro _ ⟨⟩
      exact hpassed
    joins := by
      rintro _ ⟨⟩
      exact hjoins
    ends := by
      rintro _ ⟨⟩
      exact hends
    live := by
      rintro _ ⟨⟩
      exact h.live task htask
    dropped := by
      rintro _ ⟨⟩
      exact hdropped
    job := fun job' hjob' => ⟨(hjob job' hjob').1, _, rfl, (hjob job' hjob').2⟩
    saves := h.saves.trans hsaves }

lemma polled (h : Inv inputs m) {task : SaveTask} {point point' : WaitPoint} {n : Notify}
    (htask : m.saveTask = some task) (hpoint : task.point = .waiting point)
    (hstep : point.step m.diagnostics.wasConnected m.diagnostics.connected = some (n, point')) :
    Inv inputs { m with
      diagnostics := { m.diagnostics with connected := n }
      saveTask := some { task with point := .waiting point' } } := by
  have hwatched := h.watched_task htask
  rw [hpoint] at hwatched
  refine h.retasked htask n m.job (hwatched.step hstep) ?_ (fun hjoining => by cases hjoining)
    (fun hfinished => by cases hfinished) (fun haborted => by cases haborted) ?_ rfl
  · intro hpassed
    have hreturned : point' = .returned := by
      cases point' <;> first | rfl | exact hpassed.elim
    subst hreturned
    exact WaitPoint.step_returned hstep
  · intro job hjob
    have hhanded := (h.job_task htask hjob).2.2
    rw [hpoint] at hhanded
    exact hhanded.elim

lemma handed (h : Inv inputs m) {task : SaveTask} (htask : m.saveTask = some task)
    (hpoint : task.point = .waiting .returned) :
    Inv inputs { m with
      saveTask := some { task with point := .joining }
      job := some ⟨task.account, task.password, false⟩ } := by
  have hwatched := h.watched_task htask
  rw [hpoint] at hwatched
  have hconnected : m.diagnostics.wasConnected = true :=
    h.passed task htask (by rw [hpoint]; trivial)
  have hnone : m.job = none := by
    cases hjob : m.job with
    | none => rfl
    | some job =>
      have hhanded := (h.job_task htask hjob).2.2
      rw [hpoint] at hhanded
      exact hhanded.elim
  refine h.retasked htask m.diagnostics.connected (some _) hwatched (fun _ => hconnected)
    (fun _ => ⟨_, rfl⟩) (fun hfinished => by cases hfinished)
    (fun haborted => by cases haborted) ?_ ?_
  · rintro _ ⟨⟩
    exact ⟨hconnected, rfl, rfl, trivial⟩
  · simp [stored, hnone]

lemma joined (h : Inv inputs m) {task : SaveTask} {job : SaveJob}
    (htask : m.saveTask = some task) (hpoint : task.point = .joining) (hjob : m.job = some job)
    (hran : job.ran = true) :
    Inv inputs { m with saveTask := some { task with point := .finished } } := by
  have hwatched := h.watched_task htask
  rw [hpoint] at hwatched
  have hconnected : m.diagnostics.wasConnected = true :=
    h.passed task htask (by rw [hpoint]; trivial)
  refine h.retasked htask m.diagnostics.connected m.job hwatched
    (fun _ => hconnected) (fun hjoining => by cases hjoining) (fun _ => ⟨job, hjob, hran⟩)
    (fun haborted => by cases haborted) ?_ rfl
  intro job hjob
  obtain ⟨haccount, hpassword, -⟩ := h.job_task htask hjob
  exact ⟨hconnected, haccount, hpassword, trivial⟩

lemma dropped_task (h : Inv inputs m) {task : SaveTask} (htask : m.saveTask = some task)
    (hcancelled : task.cancelled = true) :
    Inv inputs { m with
      diagnostics := { m.diagnostics with connected := m.diagnostics.connected.drop }
      saveTask := some { task with point := .aborted } } := by
  refine h.retasked htask _ m.job (.drop _ _) (fun hpassed => hpassed.elim)
    (fun hjoining => by cases hjoining) (fun hfinished => by cases hfinished)
    (fun _ => hcancelled) ?_
    rfl
  intro job hjob
  obtain ⟨haccount, hpassword, -⟩ := h.job_task htask hjob
  exact ⟨(h.job job hjob).1, haccount, hpassword, trivial⟩

/-- The closure stores the password. -/
lemma ran (h : Inv inputs m) {job : SaveJob} (hjob : m.job = some job) (hran : job.ran = false) :
    Inv inputs { m with
      job := some { job with ran := true }
      log := m.log ++ [.saved job.account job.password] } := by
  obtain ⟨hconnected, task, htask, haccount, hpassword, hhanded⟩ := h.job job hjob
  obtain ⟨account, password, _⟩ := job
  dsimp only at haccount hpassword hran
  subst haccount hpassword hran
  exact
  { h with
    accepted := fun hup => (h.accepted hup).append _
    asked := fun account password hsave => (h.asked account password hsave).append _
    candidate := fun task htask => (h.candidate task htask).append _
    early := fun hstage => absurd hstage (h.stage_ne_zero htask)
    joins := fun _ _ _ => ⟨_, rfl⟩
    ends := fun _ _ _ => ⟨_, rfl, rfl⟩
    job := by
      rintro _ ⟨⟩
      exact ⟨hconnected, task, htask, rfl, rfl, hhanded⟩
    saves := by
      have hsaves := h.saves
      simp only [stored, hjob] at hsaves
      simp [stored, hsaves, MainEvent.saved?]
    heeds := each_concat.mpr ⟨h.heeds, h.accepted hconnected, h.candidate task htask⟩ }

/-- The credentials are submitted. -/
lemma submitted (h : Inv inputs m) {credentials : OpenvpnConnect.Credentials}
    {save : Option (String × String)} (hphase : m.phase = .authenticating)
    (hok : inputs.authenticate = .ok (credentials, save)) :
    Inv inputs { m with
      phase := .binding
      passwordToSave := save
      log := m.log ++ [.submitted credentials] } := by
  have hlog := h.log_append (.submitted credentials) rfl
  have hearly := h.early (by rw [hphase]; rfl)
  exact
  { hlog with
    asked := by
      rintro account password rfl
      exact ⟨credentials, by simp, Inputs.authenticate_eq_ok hok⟩
    early := fun _ => hearly
    awaits := fun result hawaits => by cases hawaits
    live := fun task htask _ => by simp [hearly.1] at htask }

lemma spawned (h : Inv inputs m) (hphase : m.phase = .spawning) : Inv inputs m.spawn := by
  obtain ⟨hnone, hjob⟩ := h.early (by rw [hphase]; rfl)
  have hwatched := h.watched
  rw [waitPoint, hnone, Option.elim_none] at hwatched
  have hspawned : ∀ task, m.spawn.saveTask = some task →
      m.passwordToSave = some (task.account, task.password) ∧
        task.point = .waiting .head ∧ task.cancelled = false := by
    intro task htask
    obtain ⟨⟨account, password⟩, hsave, rfl⟩ := Option.map_eq_some_iff.mp htask
    exact ⟨hsave, rfl, rfl⟩
  exact
  { h with
    watched := by
      have hpoint : m.spawn.waitPoint = .head := by
        unfold waitPoint
        cases htask : m.spawn.saveTask with
        | none => rfl
        | some task =>
          have hhead := (hspawned task htask).2.1
          simp [hhead, SavePoint.waitPoint]
      rw [hpoint]
      exact hwatched
    early := fun hstage => by cases hstage
    awaits := fun result hawaits => by cases hawaits
    candidate := fun task htask => h.asked _ _ (hspawned task htask).1
    passed := fun task htask hpassed => by
      rw [(hspawned task htask).2.1] at hpassed
      exact hpassed.elim
    joins := fun task htask hjoining => by
      rw [(hspawned task htask).2.1] at hjoining
      cases hjoining
    ends := fun task htask hfinished => by
      rw [(hspawned task htask).2.1] at hfinished
      cases hfinished
    live := fun task htask _ => (hspawned task htask).2.2
    dropped := fun task htask haborted => by
      rw [(hspawned task htask).2.1] at haborted
      cases haborted
    job := fun job hjob' => by
      rw [show m.spawn.job = m.job from rfl, hjob] at hjob'
      cases hjob' }

/-- `main` moves on within its stage. -/
lemma rephased (h : Inv inputs m) {phase : MainPhase} (hstage : phase.stage = m.phase.stage)
    (hawaits : ∀ result, phase = .awaiting result →
      m.diagnostics.wasConnected = true ∧ ∃ task, m.saveTask = some task) :
    Inv inputs { m with phase } :=
  { h with
    early := fun hzero => h.early (hstage.symm.trans hzero)
    awaits := hawaits
    live := fun task htask hone => h.live task htask (hstage.symm.trans hone) }

lemma finished (h : Inv inputs m) (result : Except String Unit) : Inv inputs (m.finish result) := by
  have htask : ∀ task, (m.finish result).saveTask = some task → ∃ task',
      m.saveTask = some task' ∧ task = { task' with cancelled := true } := by
    intro task htask
    obtain ⟨task', htask', rfl⟩ := Option.map_eq_some_iff.mp htask
    exact ⟨task', htask', rfl⟩
  exact
  { h with
    watched := by
      have hpoint : (m.finish result).waitPoint = m.waitPoint := by
        unfold waitPoint finish
        cases m.saveTask <;> rfl
      rw [hpoint]
      exact h.watched
    early := fun hstage => by cases hstage
    awaits := fun result hawaits => by cases hawaits
    candidate := fun task hsome => by
      obtain ⟨task', htask', rfl⟩ := htask task hsome
      exact h.candidate task' htask'
    passed := fun task hsome hpassed => by
      obtain ⟨task', htask', rfl⟩ := htask task hsome
      exact h.passed task' htask' hpassed
    joins := fun task hsome hjoining => by
      obtain ⟨task', htask', rfl⟩ := htask task hsome
      exact h.joins task' htask' hjoining
    ends := fun task hsome hfinished => by
      obtain ⟨task', htask', rfl⟩ := htask task hsome
      exact h.ends task' htask' hfinished
    live := fun task hsome hstage => by cases hstage
    dropped := fun task hsome _ => by
      obtain ⟨task', htask', rfl⟩ := htask task hsome
      rfl
    job := fun job hjob => by
      obtain ⟨hconnected, task, hsome, hrest⟩ := h.job job hjob
      exact ⟨hconnected, { task with cancelled := true }, by simp [finish, hsome], hrest⟩ }

/-- Every step keeps the invariant. -/
lemma step (h : Inv inputs m) (hmoved : m.Moved inputs act m') : Inv inputs m' := by
  cases hmoved with
  | event event => exact h.event event
  | line text => exact h.unraised (by simp) (by simp)
  | polled htask hpoint hstep => exact h.polled htask hpoint hstep
  | handed htask hpoint => exact h.handed htask hpoint
  | joined htask hpoint hjob hran => exact h.joined htask hpoint hjob hran
  | ran hjob hran => exact h.ran hjob hran
  | dropped htask hcancelled => exact h.dropped_task htask hcancelled
  | submitted hphase hok => exact h.submitted hphase hok
  | spawned hphase => exact h.spawned hphase
  | awaited hphase htask hconnected =>
    exact h.rephased (by rw [hphase]; rfl) fun _ _ => ⟨hconnected, _, htask⟩
  | passed hstage _ hto => exact h.rephased hstage fun result hphase => absurd hphase (hto result)
  | finished => exact h.finished _

lemma reachable (h : (connectionSystem inputs).Reachable m) : Inv inputs m := by
  refine h.invariant (I := Inv inputs) ?_ fun m act m' hinv hstep => hinv.step (act_moved hstep)
  rintro _ rfl
  exact new

end Inv

/-! ## `save_task.await` -/

/-- The steps of the save task and of its closure until the handle is ready, once the flag is
up. -/
def remaining (m : Main) : ℕ :=
  match m.saveTask with
  | none => 0
  | some task =>
    match task.point with
    | .waiting point => point.remaining + 3
    | .joining => if m.job.any (·.ran) then 1 else 2
    | .finished | .aborted => 0

end Main

/-- The steps of the save task and of its closure. -/
def MainAct.saving : MainAct → Bool
  | .task | .job => true
  | _ => false

namespace Main

variable {inputs : Inputs} {m m' : Main} {act : MainAct}

lemma remaining_le (m : Main) : m.remaining ≤ 6 := by
  unfold remaining
  split
  · omega
  · split
    · rename_i point _
      cases point <;> decide
    · split <;> omega
    · omega
    · omega

/-- While `main` is at `save_task.await`, a step of the save task or of its closure leaves fewer
steps to go, and no other step changes their number. -/
lemma Inv.awaiting_step (h : Inv inputs m) (hmoved : m.Moved inputs act m')
    {result : Except String Unit} (hphase : m.phase = .awaiting result) (hact : act ≠ .joinSave) :
    m'.phase = .awaiting result ∧ act.saving.toNat + m'.remaining ≤ m.remaining := by
  have hconnected := (h.awaits result hphase).1
  have hlive : ∀ task, m.saveTask = some task → task.cancelled = false :=
    fun task htask => h.live task htask (by rw [hphase]; rfl)
  cases hmoved with
  | event | line => exact ⟨hphase, by simp [MainAct.saving, remaining]⟩
  | @polled task point point' n htask hpoint hstep =>
    refine ⟨hphase, ?_⟩
    have hwatched := h.watched_task htask
    rw [hconnected] at hwatched hstep
    rw [hpoint] at hwatched
    have hprogress : point'.remaining < point.remaining := hwatched.progress hstep
    simp only [remaining, htask, hpoint, MainAct.saving, Bool.toNat_true]
    omega
  | handed htask hpoint =>
    refine ⟨hphase, ?_⟩
    simp [remaining, htask, hpoint, MainAct.saving, WaitPoint.remaining]
  | joined htask hpoint hjob hran =>
    refine ⟨hphase, ?_⟩
    simp [remaining, htask, hpoint, hjob, hran, MainAct.saving]
  | @ran job hjob hran =>
    refine ⟨hphase, ?_⟩
    obtain ⟨-, task, htask, -, -, hhanded⟩ := h.job job hjob
    have hjoining : task.point = .joining := by
      cases hpoint : task.point with
      | waiting point => simp [hpoint, SavePoint.handed] at hhanded
      | joining => rfl
      | finished =>
        obtain ⟨job', hjob', hran'⟩ := h.ends task htask hpoint
        simp_all
      | aborted =>
        have hcancelled := h.dropped task htask hpoint
        simp [hlive task htask] at hcancelled
    simp [remaining, htask, hjoining, hjob, hran, MainAct.saving]
  | dropped htask hcancelled => simp [hlive _ htask] at hcancelled
  | submitted hfrom | spawned hfrom | awaited hfrom => simp [hphase] at hfrom
  | passed _ hfrom => exact absurd hphase (hfrom result)
  | finished hjoin => exact absurd (hjoin result hphase) hact

/-- While `main` is at `save_task.await`, the save task has finished, or it or its closure can take
a step. -/
lemma Inv.awaiting_enabled (h : Inv inputs m) {result : Except String Unit}
    (hphase : m.phase = .awaiting result) :
    (m.act inputs .joinSave).isSome ∨ (m.act inputs .task).isSome ∨ (m.act inputs .job).isSome := by
  obtain ⟨hconnected, task, htask⟩ := h.awaits result hphase
  have hwatched := h.watched_task htask
  rw [hconnected] at hwatched
  cases hpoint : task.point with
  | waiting point =>
    rw [hpoint] at hwatched
    right; left
    by_cases hreturned : point = .returned
    · simp [Main.act, stepTask, htask, hpoint, hreturned]
    · obtain ⟨n, point', hstep⟩ := hwatched.enabled hreturned
      rw [← hconnected] at hstep
      have hstep' : m.act inputs .task = _ := stepTask_waiting htask hpoint hreturned
      rw [hstep', Option.isSome_map]
      exact Option.isSome_of_eq_some hstep
  | joining =>
    obtain ⟨job, hjob⟩ := h.joins task htask hpoint
    right
    cases hran : job.ran with
    | true => left; simp [Main.act, stepTask, htask, hpoint, hjob, hran]
    | false => right; simp [Main.act, runJob, hjob, hran]
  | finished | aborted =>
    left
    simp [Main.act, hphase, htask, hpoint]

/-- `save_task.await` over a run. -/
lemma Inv.awaiting_run (h : Inv inputs m) {acts : List MainAct}
    (hrun : (connectionSystem inputs).Run m acts m') {result : Except String Unit}
    (hphase : m.phase = .awaiting result) (hacts : .joinSave ∉ acts) :
    Inv inputs m' ∧ m'.phase = .awaiting result ∧
      acts.countP MainAct.saving + m'.remaining ≤ m.remaining := by
  induction hrun with
  | nil => exact ⟨h, hphase, by simp⟩
  | @snoc acts mid last act _ hstep ih =>
    simp only [List.mem_append, List.mem_singleton, not_or] at hacts
    obtain ⟨hmid, hphase', hcount⟩ := ih hacts.1
    have hmoved : mid.Moved inputs act last := act_moved hstep
    obtain ⟨hphase'', hstep'⟩ := hmid.awaiting_step hmoved hphase' (Ne.symm hacts.2)
    refine ⟨hmid.step hmoved, hphase'', ?_⟩
    rw [List.countP_append, List.countP_singleton]
    cases hsaving : act.saving <;> simp_all <;> omega

end Main

/-! ## The guarantee -/

/-- What holds in every state of a run of the connection command. -/
structure MainKept (inputs : Inputs) (m : Main) : Prop where
  /-- `save_keychain_password` is called at most once. -/
  once : (m.log.filterMap MainEvent.saved?).length ≤ 1
  /-- It is called only after `CONNECTED` was recorded, with the password of the submitted
  credentials, and only if `resolve_vpn_password` asked for it. -/
  heeds : Each inputs.Heeds m.log
  /-- No waiter is parked without a notification once the flag is up. -/
  woken : m.diagnostics.wasConnected = true → ∀ task, m.saveTask = some task →
    task.point = .waiting .awaiting → m.diagnostics.connected.ticket = .woken
  /-- Until `save_task.await` returns, the handle is ready or the save task or its closure can take
  a step, and they take six steps at most. -/
  joined : ∀ result, m.phase = .awaiting result → ∀ acts m',
    (connectionSystem inputs).Run m acts m' → .joinSave ∉ acts →
      m'.phase = .awaiting result ∧ acts.countP MainAct.saving ≤ 6 ∧
        ((m'.act inputs .joinSave).isSome ∨ (m'.act inputs .task).isSome ∨
          (m'.act inputs .job).isSome)

theorem password_kept {inputs : Inputs} {m : Main} (h : (connectionSystem inputs).Reachable m) :
    MainKept inputs m := by
  have hinv := Main.Inv.reachable h
  constructor
  · rw [hinv.saves]
    unfold Main.stored
    split <;> simp
  · exact hinv.heeds
  · intro hconnected task htask hpoint
    have hwatched := hinv.watched_task htask
    rw [hpoint] at hwatched
    have hidle : m.diagnostics.connected.ticket ≠ .idle := fun hidle => hwatched.ticket.mp hidle rfl
    have hparked := hwatched.parked hconnected
    cases hticket : m.diagnostics.connected.ticket with
    | idle => exact absurd hticket hidle
    | registered => exact absurd hticket hparked
    | woken => rfl
  · intro result hphase acts m' hrun hacts
    obtain ⟨hinv', hphase', hcount⟩ := hinv.awaiting_run hrun hphase hacts
    have hle := m.remaining_le
    exact ⟨hphase', by omega, hinv'.awaiting_enabled hphase'⟩

namespace FirstLogin

/-- A username on the command line, a password in the environment, and an empty keychain. -/
def inputs : Inputs where
  profile := "/etc/client.ovpn"
  args := ⟨some "alice", none, true, true⟩
  evaluation := ⟨false, "", ""⟩
  host :=
    { env := fun name => if name = "OVPN_PASS" then some "new" else none
      readToString := fun _ => .error "no such file"
      readLine := .error "closed"
      promptPassword := fun _ => .error "not a terminal"
      keyringEntry := fun _ _ => .ok ()
      getPassword := fun _ _ => .error .noEntry
      savedPassword := none
      provideCredentials := fun _ => .ok () }

/-- The save task parks, the session comes up, the user interrupts at once, and the password is
stored while `main` waits for the save task. -/
def run : List MainAct :=
  [.authenticate, .bind (.ok ()), .spawn, .task, .task, .task, .event ⟨"CONNECTING", false, false⟩,
    .event ⟨"CONNECTED", false, false⟩, .interrupt true, .stopped, .task, .task, .task, .task, .job]

end FirstLogin

open FirstLogin in
/-- The submitted password is stored. -/
theorem password_kept_stored : ∃ m, System.replay (Main.act inputs) .new run = some m ∧
    m.phase = .awaiting (.ok ()) ∧
    m.log.filterMap MainEvent.saved? = [("/etc/client.ovpn\nalice", "new")] ∧
    MainKept inputs m :=
  ⟨_, rfl, rfl, by decide, password_kept ⟨.new, run, rfl, System.Run.of_replay rfl⟩⟩

end Ovpnlane
