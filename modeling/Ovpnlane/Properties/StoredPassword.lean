import Ovpnlane.Properties.Credential
import Ovpnlane.Properties.SavePassword
import Ovpnlane.Properties.Startup

/-!
# From the command line to the keychain

The program that asks (`Construction/Startup.lean`) ends where `connectionSystem` starts.  A host
agrees with a log when it gives the answers that were given; for each part of the credentials block,
what the part comes to is what the function of `Construction/Main.lean` gives for every such host
(`Follows`).  So the state in which the listener is bound is a state of `connectionSystem`, and what
each of the two guarantees holds of the whole command: a password that reaches the keychain was
given to this process, was submitted, and was accepted by the server (`password_stored`).

A password that OpenVPN Connect gives out is what the item of the chosen profile decodes to
(`connect_password_decoded`).
-/

namespace Ovpnlane

open Text OpenvpnConnect Inquiry

namespace Startup

/-! ## Hosts -/

/-- `saved_password` for a user, if a Connect profile is used. -/
def connectKeychain (host : Host) (user : String) : Except String (Option String) :=
  match host.savedPassword with
  | some savedPassword => savedPassword user
  | none => .ok none

/-- The host answers what the log holds. -/
structure Agrees (connectProfile : Option Connect.Profile) (log : Log Ask.Answer) (host : Host) :
    Prop where
  env : ∀ name value, Was log (.env name) value → host.env name = value
  readToString : ∀ path content, Was log (.readToString path) content →
    host.readToString path = content
  readLine : ∀ line, [⟨.prompt "VPN username: ", .ok ()⟩, ⟨.readLine, line⟩] <:+: log →
    host.readLine = line
  promptPassword : ∀ text password, Was log (.promptPassword text) password →
    host.promptPassword text = password
  keyringEntry : ∀ service account entry, Was log (.keyringEntry service account) entry →
    host.keyringEntry service account = entry
  getPassword : ∀ service account password, Was log (.getPassword service account) password →
    host.getPassword service account = password
  noneSaved : ∀ user, connectProfile.bind (·.passwordAccount user) = none →
    connectKeychain host user = .ok none
  connectPassword : ∀ user id password, connectProfile.bind (·.passwordAccount user) = some id →
    Was log (.readConnectPassword id) password → connectKeychain host user = password
  provideCredentials : ∀ credentials result, Was log (.provideCredentials credentials) result →
    host.provideCredentials credentials = result

/-- What `connectionSystem` depends on. -/
def inputsOf (args : StartArgs) (profile : String) (named : Option String)
    (evaluation : ProfileEvaluation) (host : Host) : Inputs where
  profile := profile
  args := { args.toConnectionArgs with username := named }
  evaluation := evaluation.toEvaluation
  host := host

section Following

variable {connectProfile : Option Connect.Profile} {log log' : Log Ask.Answer} {α β : Type}

lemma Agrees.of_longer {host : Host} (hlog : log <+: log') (h : Agrees connectProfile log' host) :
    Agrees connectProfile log host where
  env _ _ hwas := h.env _ _ (hwas.mono hlog)
  readToString _ _ hwas := h.readToString _ _ (hwas.mono hlog)
  readLine _ hread := h.readLine _ (hread.trans hlog.isInfix)
  promptPassword _ _ hwas := h.promptPassword _ _ (hwas.mono hlog)
  keyringEntry _ _ _ hwas := h.keyringEntry _ _ _ (hwas.mono hlog)
  getPassword _ _ _ hwas := h.getPassword _ _ _ (hwas.mono hlog)
  noneSaved := h.noneSaved
  connectPassword _ _ _ hid hwas := h.connectPassword _ _ _ hid (hwas.mono hlog)
  provideCredentials _ _ hwas := h.provideCredentials _ _ (hwas.mono hlog)

/-- What a part comes to is what the function gives, for every such host that agrees with the
log. -/
def Follows (connectProfile : Option Connect.Profile) (hosts : Host → Prop)
    (f : Host → Except String α) (p : Startup α) : Prop :=
  ∀ log, p.Obeys ⟨fun _ _ => True,
    fun log a => ∀ host, Agrees connectProfile log host → hosts host → f host = .ok a,
    fun _ _ => True⟩ log

variable {hosts : Host → Prop}

lemma Follows.congr {f f' : Host → Except String α} {p : Startup α}
    (h : Follows connectProfile hosts f p) (heq : ∀ host, hosts host → f' host = f host) :
    Follows connectProfile hosts f' p := fun log =>
  (h log).mono (fun _ _ => id)
    (fun _ _ ha host hagrees hhost => (heq host hhost).trans (ha host hagrees hhost)) fun _ _ => id

lemma follows_done {f : Host → Except String α} {a : α} (ha : ∀ host, hosts host → f host = .ok a) :
    Follows connectProfile hosts f (pure a) := fun _ host _ => ha host

lemma follows_failed {f : Host → Except String α} {e : String} :
    Follows connectProfile hosts f (throw e) := fun _ => trivial

lemma follows_lift (x : Except String α) : Follows connectProfile hosts (fun _ => x) (liftM x) :=
  fun _ => obeys_lift.mpr ⟨fun _ ha _ _ _ => ha, fun _ _ => trivial⟩

/-- One part after the other: the second one may use what the first one came to. -/
lemma follows_bind {f : Host → Except String α} {g : Host → Except String β} {p : Startup α}
    {q : α → Startup β} (hp : Follows connectProfile hosts f p)
    (hq : ∀ a, Follows connectProfile (fun host => hosts host ∧ f host = .ok a) g (q a)) :
    Follows connectProfile hosts g (p >>= q) := by
  intro log
  refine obeys_then _ (hp log) fun log₁ a _ ha => ?_
  refine ((hq a log₁).extends).mono (fun _ _ => id) ?_ fun _ _ => id
  intro log₂ b ⟨hlog, hb⟩ host hagrees hhost
  exact hb host hagrees ⟨hhost, ha host (hagrees.of_longer hlog) hhost⟩

/-- A question to a field of the host. -/
lemma follows_attempt {q : Ask} {f : Host → q.Answer} (answer : q.Answer → Except String α)
    (hf : ∀ log host r, Agrees connectProfile log host → Was log q r → f host = r) :
    Follows connectProfile hosts (fun host => answer (f host)) (attempt q answer) := by
  refine fun log => obeys_bind.mpr ⟨trivial, fun r => obeys_lift.mpr ⟨?_, fun _ _ => trivial⟩⟩
  intro a ha host hagrees _
  have hfield : f host = r := hf _ host r hagrees (was_last log q r)
  exact (congrArg answer hfield).trans ha

lemma follows_ask {q : Ask} {f : Host → q.Answer}
    (hf : ∀ log host r, Agrees connectProfile log host → Was log q r → f host = r) :
    Follows connectProfile hosts (fun host => .ok (f host)) (ask q) :=
  fun log => ⟨trivial, fun r host hagrees _ => congrArg _ (hf _ host r hagrees (was_last log q r))⟩

/-! ## The parts of the credentials block -/

lemma resolveVpnPassword_connect {savePassword : Bool} {own : Except String (Option String)}
    {prompt : Except String String} {password : String} (hown : ∀ found, own ≠ .ok (some found)) :
    Ovpnlane.resolveVpnPassword none savePassword own (.ok (some password)) prompt =
      .ok (password, savePassword) := by
  match own with
  | .ok (some found) => exact absurd rfl (hown found)
  | .ok none | .error _ => rfl

lemma resolveVpnPassword_prompt {savePassword : Bool} {own saved : Except String (Option String)}
    {password : String} (hown : ∀ found, own ≠ .ok (some found))
    (hsaved : ∀ found, saved ≠ .ok (some found)) :
    Ovpnlane.resolveVpnPassword none savePassword own saved (.ok password) =
      .ok (password, savePassword) := by
  match own, saved with
  | .ok (some found), _ => exact absurd rfl (hown found)
  | _, .ok (some found) => exact absurd rfl (hsaved found)
  | .ok none, .ok none | .ok none, .error _ | .error _, .ok none | .error _, .error _ => rfl

lemma follows_secret (name prompt : String) (quiet : Bool) :
    Follows connectProfile hosts (·.secret name prompt quiet) (secret name prompt quiet) := by
  refine follows_bind (follows_ask fun _ _ _ hagrees => hagrees.env name _) fun value => ?_
  cases value with
  | some value =>
    refine follows_done fun host ⟨_, henv⟩ => ?_
    rw [Host.secret, Except.ok.inj henv]
  | none =>
    cases quiet with
    | true => exact follows_failed
    | false =>
      refine Follows.congr (follows_attempt (withContext · "could not read password")
        fun _ _ _ hagrees => hagrees.promptPassword prompt _) ?_
      rintro host ⟨_, henv⟩
      rw [Host.secret, Except.ok.inj henv]
      rfl

lemma follows_authFileCredentials (path : String) :
    Follows connectProfile hosts (·.authFileCredentials path) (authFileCredentials path) := by
  refine follows_bind (follows_attempt (withContext · "could not read auth file")
    fun _ _ _ hagrees => hagrees.readToString path _) fun content => ?_
  refine follows_bind (follows_lift _) fun user => ?_
  refine follows_bind (follows_lift _) fun password => ?_
  refine follows_done fun host ⟨⟨⟨_, hcontent⟩, huser⟩, hpassword⟩ => ?_
  exact bind_eq_ok.mpr ⟨content, hcontent, bind_eq_ok.mpr ⟨user, huser,
    bind_eq_ok.mpr ⟨password, hpassword, rfl⟩⟩⟩

lemma follows_username (args : StartArgs) (profile : String) (evaluation : ProfileEvaluation)
    (named : Option String) :
    Follows connectProfile hosts
      (fun host => (inputsOf args profile named evaluation host).username)
      (username args evaluation named) := by
  cases named with
  | some user => exact follows_done fun _ _ => rfl
  | none =>
    unfold username Inputs.username inputsOf
    by_cases hlocked : evaluation.userlockedUsername ≠ ""
    · simp only [if_pos hlocked]
      exact follows_done fun _ _ => rfl
    simp only [if_neg hlocked]
    cases hquiet : args.nonInteractive with
    | true => exact follows_failed
    | false =>
      -- The line is the one after the prompt, so the two questions are taken together.
      refine fun log => ⟨trivial, fun r => ?_⟩
      cases r with
      | error e => trivial
      | ok _ =>
        refine ⟨trivial, fun line => obeys_lift.mpr ⟨fun user huser host hagrees _ => ?_,
          fun _ _ => trivial⟩⟩
        have hline := hagrees.readLine line ⟨log, [], by simp⟩
        simpa [hline] using huser

lemma follows_keychainPassword (account : String) :
    Follows connectProfile hosts (fun host => .ok (host.keychainPassword account))
      (keychainPassword account) := by
  refine follows_bind
    (follows_ask fun _ _ _ hagrees => hagrees.keyringEntry keychainService account _)
    fun entry => ?_
  cases entry with
  | error e =>
    refine follows_done fun host ⟨_, hentry⟩ => ?_
    rw [Host.keychainPassword, Except.ok.inj hentry]
  | ok _ =>
    refine follows_bind
      (follows_ask fun _ _ _ hagrees => hagrees.getPassword keychainService account _)
      fun password => ?_
    match password with
    | .ok password | .error .noEntry | .error .other =>
      refine follows_done fun host ⟨⟨_, hentry⟩, hpassword⟩ => ?_
      rw [Host.keychainPassword, Except.ok.inj hentry, Except.ok.inj hpassword]

lemma follows_savedPassword (user : String) :
    Follows connectProfile hosts (fun host => .ok (connectKeychain host user))
      (savedPassword connectProfile user) := by
  unfold savedPassword
  split
  · next id hid =>
    exact follows_ask fun _ _ _ hagrees => hagrees.connectPassword user id _ hid
  · next hnone =>
    exact fun log host hagrees _ => congrArg _ (hagrees.noneSaved user hnone)

/-- The sources of the password. -/
lemma follows_resolve (environment : Option String) (savePassword : Bool)
    {own saved : Host → Except String (Option String)} {prompted : Host → Except String String}
    {askOwn askSaved : Startup (Except String (Option String))} {askPrompt : Startup String}
    (hown : ∀ hosts, Follows connectProfile hosts (fun host => .ok (own host)) askOwn)
    (hsaved : ∀ hosts, Follows connectProfile hosts (fun host => .ok (saved host)) askSaved)
    (hprompted : ∀ hosts, Follows connectProfile hosts prompted askPrompt) :
    Follows connectProfile hosts (fun host => Ovpnlane.resolveVpnPassword environment savePassword
      (own host) (saved host) (prompted host))
      (resolveVpnPassword environment savePassword askOwn askSaved askPrompt) := by
  cases environment with
  | some password => exact follows_done fun _ _ => rfl
  | none =>
    refine follows_bind (hown _) fun first => ?_
    rcases first with e | _ | password
    case ok.some =>
      refine follows_done fun host ⟨_, hown⟩ => ?_
      rw [Except.ok.inj hown]
      rfl
    all_goals
      refine follows_bind (hsaved _) fun second => ?_
      rcases second with e' | _ | password
      case ok.some =>
        refine follows_done fun host ⟨⟨_, hown⟩, hsaved⟩ => ?_
        rw [Except.ok.inj hown, Except.ok.inj hsaved]
        exact resolveVpnPassword_connect (by simp)
      all_goals
        refine follows_bind (hprompted _) fun password => follows_done ?_
        rintro host ⟨⟨⟨-, hown⟩, hsaved⟩, hprompted⟩
        rw [Except.ok.inj hown, Except.ok.inj hsaved, hprompted]
        exact resolveVpnPassword_prompt (by simp) (by simp)

/-- The credentials before the challenge. -/
lemma follows_candidate (args : StartArgs) (profile : String) (named : Option String)
    (evaluation : ProfileEvaluation) :
    Follows connectProfile hosts
      (fun host => (inputsOf args profile named evaluation host).candidate)
      (candidate args profile connectProfile named evaluation) := by
  unfold candidate
  split
  · next path hpath =>
    refine follows_bind (follows_authFileCredentials path) fun credentials => follows_done ?_
    rintro host ⟨-, hcredentials⟩
    show Inputs.candidate _ = _
    unfold Inputs.candidate inputsOf
    simp [hpath, hcredentials, Except.map]
  · next hfile =>
    refine follows_bind (follows_username args profile evaluation named) fun user => ?_
    refine follows_bind (follows_ask fun _ _ _ hagrees => hagrees.env "OVPN_PASS" _)
      fun environment => ?_
    refine follows_bind (follows_resolve environment args.savePassword
      (fun _ => follows_keychainPassword (keychainAccount profile user))
      (fun _ => follows_savedPassword user)
      (fun _ => follows_secret "OVPN_PASS" "VPN password: " args.nonInteractive))
      fun ⟨password, shouldSave⟩ => follows_done ?_
    rintro host ⟨⟨⟨-, huser⟩, henvironment⟩, hresolved⟩
    have hauth : (inputsOf args profile named evaluation host).args.authFile = none := hfile
    have hpassword : (inputsOf args profile named evaluation host).resolvedPassword user =
        .ok (password, shouldSave) := by
      rw [← hresolved, ← Except.ok.inj henvironment]
      rfl
    unfold Inputs.candidate
    rw [hauth]
    exact bind_eq_ok.mpr ⟨user, huser, bind_eq_ok.mpr ⟨(password, shouldSave), hpassword, rfl⟩⟩

lemma follows_answered (args : StartArgs) (profile : String) (named : Option String)
    (evaluation : ProfileEvaluation) (credentials : Credentials) :
    Follows connectProfile hosts
      (fun host => (inputsOf args profile named evaluation host).answered credentials)
      (answered args evaluation credentials) := by
  unfold answered
  split_ifs with hchallenge
  · refine follows_bind (follows_secret _ _ _) fun response => follows_done ?_
    rintro host ⟨-, hresponse⟩
    exact (if_pos hchallenge).trans (except_map_eq_ok.mpr ⟨response, hresponse, rfl⟩)
  · exact follows_done fun host _ => if_neg hchallenge

/-- The credentials block: the program and the function. -/
lemma follows_authenticate (args : StartArgs) (profile : String) (named : Option String)
    {evaluation : ProfileEvaluation} (hauto : evaluation.autologin = false) :
    Follows connectProfile hosts
      (fun host => (inputsOf args profile named evaluation host).authenticate.map
        fun result => (some result.1, result.2))
      (authenticate args profile connectProfile named evaluation) := by
  unfold authenticate
  rw [if_neg (by simp [hauto])]
  refine follows_bind (follows_candidate args profile named evaluation)
    fun ⟨credentials, passwordToSave⟩ => ?_
  refine follows_bind (follows_answered args profile named evaluation credentials)
    fun credentials' => ?_
  refine follows_bind (follows_attempt (withContext · "could not set credentials")
    fun _ _ _ hagrees => hagrees.provideCredentials credentials' _) fun _ => follows_done ?_
  rintro host ⟨⟨⟨-, hcandidate⟩, hanswered⟩, hprovided⟩
  exact except_map_eq_ok.mpr ⟨(credentials', passwordToSave), bind_eq_ok.mpr
    ⟨_, hcandidate, bind_eq_ok.mpr ⟨_, hanswered, bind_eq_ok.mpr ⟨(), hprovided, rfl⟩⟩⟩, rfl⟩

end Following

/-! ## The connection after it -/

/-- What is on its way to the keychain, or there, is this. -/
structure Holds (passwordToSave : Option (String × String)) (m : Main) : Prop where
  stage : m.phase.stage ≠ 0
  task : ∀ task, m.saveTask = some task → passwordToSave = some (task.account, task.password)
  job : ∀ job, m.job = some job → passwordToSave = some (job.account, job.password)
  saved : ∀ account password, .saved account password ∈ m.log →
    passwordToSave = some (account, password)

section Holding

variable {passwordToSave : Option (String × String)} {inputs : Inputs} {m m' : Main} {act : MainAct}

lemma Holds.step (h : Holds passwordToSave m) (hmoved : m.Moved inputs act m') :
    Holds passwordToSave m' := by
  have hretask : ∀ task point, m.saveTask = some task → ∀ task',
      some { task with point } = some task' →
        passwordToSave = some (task'.account, task'.password) := by
    rintro task point htask task' heq
    cases heq
    exact h.task task htask
  cases hmoved with
  | event event => exact ⟨h.stage, h.task, h.job, by simpa using h.saved⟩
  | line text => exact ⟨h.stage, h.task, h.job, h.saved⟩
  | polled htask | joined htask | dropped htask =>
    exact ⟨h.stage, hretask _ _ htask, h.job, h.saved⟩
  | handed htask =>
    refine ⟨h.stage, hretask _ _ htask, fun job hjob => ?_, h.saved⟩
    cases hjob
    exact h.task _ htask
  | @ran job hjob hran =>
    have hpair := h.job job hjob
    refine ⟨h.stage, h.task, fun job' hjob' => ?_, fun account password hmem => ?_⟩
    · cases hjob'
      exact hpair
    · rcases List.mem_append.mp hmem with hmem | hmem
      · exact h.saved account password hmem
      · obtain ⟨rfl, rfl⟩ : account = job.account ∧ password = job.password := by simpa using hmem
        exact hpair
  | submitted hphase | spawned hphase => exact absurd (by rw [hphase]; rfl) h.stage
  | awaited => exact ⟨by simp [MainPhase.stage], h.task, h.job, h.saved⟩
  | passed hstage => exact ⟨hstage ▸ h.stage, h.task, h.job, h.saved⟩
  | finished =>
    refine ⟨by simp [Main.finish, MainPhase.stage], fun task htask => ?_, h.job, h.saved⟩
    obtain ⟨task', htask', rfl⟩ := Option.map_eq_some_iff.mp htask
    exact h.task task' htask'

lemma Holds.run (h : Holds passwordToSave m) {acts : List MainAct}
    (hrun : (connectionSystem inputs).Run m acts m') : Holds passwordToSave m' :=
  hrun.invariant (fun _ _ _ hholds hstep => hholds.step (Main.act_moved hstep)) h

end Holding

/-- The state in which `main` comes to `select!`. -/
def begun (credentials : Option Credentials) (passwordToSave : Option (String × String)) : Main :=
  Main.spawn { Main.new with passwordToSave, log := credentials.toList.map .submitted }

section Beginning

variable {args : StartArgs} {profile : String} {connectProfile : Option Connect.Profile}
  {named : Option String} {evaluation : ProfileEvaluation} {log before : Log Ask.Answer}
  {credentials : Option Credentials} {passwordToSave : Option (String × String)} {host : Host}

/-- What was submitted, by the function. -/
lemma authenticated (h : (authenticate args profile connectProfile named evaluation).After log
      (.done (credentials, passwordToSave)))
      (hagrees : Agrees connectProfile (before ++ log) host) :
    evaluation.autologin = true ∧ credentials = none ∧ passwordToSave = none ∨
      evaluation.autologin = false ∧ ∃ submitted, credentials = some submitted ∧
        (inputsOf args profile named evaluation host).authenticate =
          .ok (submitted, passwordToSave) := by
  cases hauto : evaluation.autologin with
  | true =>
    have hnothing : (authenticate args profile connectProfile named evaluation).Obeys
        ⟨fun _ _ => True, fun _ result => result = (none, none), fun _ _ => True⟩ [] := by
      unfold authenticate
      rw [if_pos hauto]
      exact rfl
    exact .inl ⟨rfl, Prod.mk.inj (hnothing.done h)⟩
  | false =>
    have hfollows : Follows connectProfile (fun _ => True)
        (fun host => (inputsOf args profile named evaluation host).authenticate.map
          fun result => (some result.1, result.2))
        (authenticate args profile connectProfile named evaluation) :=
      follows_authenticate args profile named hauto
    have hresult := (hfollows before).after h host hagrees trivial
    obtain ⟨⟨submitted, save⟩, hok, hpair⟩ := except_map_eq_ok.mp hresult
    obtain ⟨rfl, rfl⟩ : some submitted = credentials ∧ save = passwordToSave := Prod.mk.inj hpair
    exact .inr ⟨rfl, submitted, rfl, hok⟩

/-- The state is one of `connectionSystem`, after its first three steps. -/
lemma run_begun (h : (authenticate args profile connectProfile named evaluation).After log
      (.done (credentials, passwordToSave)))
      (hagrees : Agrees connectProfile (before ++ log) host) :
    (connectionSystem (inputsOf args profile named evaluation host)).Run .new
      [.authenticate, .bind (.ok ()), .spawn] (begun credentials passwordToSave) := by
  apply System.Run.of_replay
  have hfirst : Main.act (inputsOf args profile named evaluation host) .new .authenticate =
      some { Main.new with
        phase := .binding
        passwordToSave
        log := credentials.toList.map .submitted } := by
    have hautologin : (inputsOf args profile named evaluation host).evaluation.autologin =
      evaluation.autologin := rfl
    rcases authenticated h hagrees with ⟨hauto, rfl, rfl⟩ | ⟨hauto, submitted, rfl, hok⟩
    · simp [Main.act, Main.new, Main.authenticate, hautologin, hauto]
    · simp [Main.act, Main.new, Main.authenticate, hautologin, hauto, hok]
  rw [System.replay, hfirst]
  rfl

lemma holds_begun : Holds passwordToSave (begun credentials passwordToSave) where
  stage := by simp [begun, Main.spawn, MainPhase.stage]
  task task htask := by
    obtain ⟨⟨account, password⟩, hpair, rfl⟩ := Option.map_eq_some_iff.mp htask
    exact hpair
  job job hjob := nomatch hjob
  saved account password hmem := by
    cases credentials with
    | none => cases hmem
    | some submitted => simp [begun, Main.spawn] at hmem

end Beginning

/-- Where the credentials block is in the log of a connection. -/
lemma parts_of_listening {U : Connect.UnicodeTables} {macos : Bool} {source : ProfileSource}
    {args : StartArgs} {log : Log Ask.Answer} {address : SocketAddr}
    {credentials : Option Credentials} {passwordToSave : Option (String × String)}
    (h : (connection U macos source args).After log
      (.done (.listening address credentials passwordToSave))) :
    ∃ profile connectProfile named evaluation before part, Located log profile ∧
      Chosen log args source connectProfile named ∧ Evaluated log evaluation ∧
      before ++ part <+: log ∧
      (authenticate args profile connectProfile named evaluation).After part
        (.done (credentials, passwordToSave)) := by
  obtain ⟨_, rest₀, _, rfl, hensured, h₀⟩ := After.bind h
  obtain ⟨rfl, hloopback⟩ := hensured.ensure
  obtain ⟨log₁, rest₁, ⟨path, connectProfile, named⟩, rfl, hchosen, h₁⟩ := After.bind h₀
  have hchosenObeys : (chooseProfile U macos args source).Obeys (rules macos source args
      fun log chosen => Chosen log args source chosen.2.1 chosen.2.2) [] := obeys_chooseProfile U
  have hchosen : Chosen log₁ args source connectProfile named := hchosenObeys.done hchosen
  obtain ⟨log₂, rest₂, ⟨profile, content⟩, rfl, hloaded, h₂⟩ := After.bind h₁
  have hloadedObeys : (loadProfile path).Obeys (rules macos source args
      fun log loaded => Located log loaded.1) log₁ := obeys_loadProfile hloopback path
  have hlocated : Located (log₁ ++ log₂) profile := hloadedObeys.after hloaded
  obtain ⟨log₃, rest₃, evaluation, rfl, hevaluation, h₃⟩ := After.bind h₂
  have hevaluationObeys : (evaluateProfile args (configure args content)).Obeys
      (rules macos source args fun log evaluation =>
        Was log .interruptHandler (.ok ()) ∧ LastEvaluated log evaluation)
      (log₁ ++ log₂) := obeys_evaluateProfile hloopback _
  obtain ⟨hinterrupt, hevaluated⟩ := hevaluationObeys.after hevaluation
  cases hcheck : args.check with
  | true =>
    simp only [hcheck] at h₃
    have hchecked : (do ask (.print (report evaluation)); return .checked : Startup Started).Obeys
        ⟨fun _ _ => True, fun _ started => started = .checked, fun _ _ => True⟩ [] :=
      ⟨trivial, fun _ => rfl⟩
    exact nomatch hchecked.done h₃
  | false =>
    simp only [hcheck] at h₃
    obtain ⟨_, rest₄, _, rfl, hensured, h₄⟩ := After.bind h₃
    obtain ⟨rfl, hpki⟩ := hensured.ensure
    obtain ⟨log₅, rest₅, _, rfl, hquiet, h₅⟩ := After.bind h₄
    have hquietObeys : (keychainUi macos args).Obeys (rules macos source args fun log _ =>
        LastEvaluated log evaluation ∧
          (macos = true → args.nonInteractive = true → Was log .disableInteraction (.ok ())))
        (log₁ ++ log₂ ++ log₃) := obeys_keychainUi hcheck hevaluated
    obtain ⟨hevaluated₅, hinteraction⟩ := hquietObeys.after hquiet
    have hlog₅ : log₁ ++ log₂ ++ log₃ <+: log₁ ++ log₂ ++ log₃ ++ log₅ := List.prefix_append _ _
    have hcleared : Cleared macos args (log₁ ++ log₂ ++ log₃ ++ log₅) := ⟨hloopback, hcheck,
      hinterrupt.mono hlog₅, ⟨evaluation, hevaluated₅.evaluated, by simpa using hpki⟩, hinteraction⟩
    obtain ⟨log₆, rest₆, unlocked, rfl, hunlock, h₆⟩ := After.bind h₅
    have hunlockObeys : (unlock args (configure args content) evaluation).Obeys
        (rules macos source args fun log evaluation => LastEvaluated log evaluation)
        (log₁ ++ log₂ ++ log₃ ++ log₅) := obeys_unlock hcleared _ hevaluated₅
    have hunlocked : LastEvaluated (log₁ ++ log₂ ++ log₃ ++ log₅ ++ log₆) unlocked :=
      hunlockObeys.after hunlock
    obtain ⟨log₇, rest₇, ⟨credentials', passwordToSave'⟩, rfl, hauthenticate, h₇⟩ := After.bind h₆
    obtain ⟨log₈, rest₈, _, rfl, -, h₈⟩ := After.bind h₇
    obtain ⟨log₉, rest₉, address', rfl, -, h₉⟩ := After.bind h₈
    have hlast : (pure (.listening address' credentials' passwordToSave') : Startup Started).Obeys
        ⟨fun _ _ => True,
          fun _ started => started = .listening address' credentials' passwordToSave',
          fun _ _ => True⟩ [] := rfl
    cases hlast.done h₉
    refine ⟨profile, connectProfile, named, unlocked, log₁ ++ log₂ ++ log₃ ++ log₅ ++ log₆, log₇,
      hlocated.mono ?_, hchosen.mono ?_, hunlocked.evaluated.mono ?_, ?_, hauthenticate⟩ <;> simp

/-- What is known of a password that `connectionSystem` hands to the keychain. -/
def Sent (args : StartArgs) (log : Log Ask.Answer) (profile : String)
    (credentials : Option Credentials) (earlier : List MainEvent) : MainEvent → Prop
  | .saved account password => Accepted earlier ∧ args.savePassword = true ∧ Given log password ∧
    ∃ submitted, credentials = some submitted ∧ submitted.password = password ∧
      account = keychainAccount profile submitted.username
  | _ => True

/-- **What is stored.**  When the listener of a connection is bound, for every host that gives the
answers which were given, `connectionSystem` is where its first three steps lead; and whatever
follows, a password that is handed to the keychain is the one that was to be saved: it was given to
this process by the environment, by Connect or at the prompt, `--save-password` was there, it was
submitted, its account is of this profile and user, and the server has accepted it before. -/
theorem password_stored {U : Connect.UnicodeTables} {macos : Bool} {source : ProfileSource}
    {args : StartArgs} {log : Log Ask.Answer} {address : SocketAddr}
    {credentials : Option Credentials} {passwordToSave : Option (String × String)}
    (h : (main U macos (.connection source args)).After log
      (.done (.listening address credentials passwordToSave))) :
    ∃ profile connectProfile named evaluation, Located log profile ∧
      Chosen log args source connectProfile named ∧ Evaluated log evaluation ∧
      ∀ host, Agrees connectProfile log host →
        (connectionSystem (inputsOf args profile named evaluation host)).Run .new
          [.authenticate, .bind (.ok ()), .spawn] (begun credentials passwordToSave) ∧
        ∀ acts m, (connectionSystem (inputsOf args profile named evaluation host)).Run
          (begun credentials passwordToSave) acts m →
            Each (Sent args log profile credentials) m.log := by
  have hobeys : (connection U macos source args).Obeys
      (rules macos source args fun log started => Ended args log started) [] := obeys_connection U
  have hended : Ended args log (.listening address credentials passwordToSave) := hobeys.done h
  obtain ⟨profile, connectProfile, named, evaluation, before, part, hlocated, hchosen, hevaluated,
    hpart, hauthenticate⟩ := parts_of_listening h
  refine ⟨profile, connectProfile, named, evaluation, hlocated, hchosen, hevaluated, ?_⟩
  intro host hagrees
  have hagrees := hagrees.of_longer hpart
  have hstart := run_begun hauthenticate hagrees
  refine ⟨hstart, fun acts m hrun earlier event later hlog => ?_⟩
  cases event with
  | submitted | recorded => trivial
  | saved account password =>
    have hmem : .saved account password ∈ m.log := by
      rw [hlog]
      exact List.mem_append_right _ List.mem_cons_self
    have hsave : passwordToSave = some (account, password) :=
      (holds_begun.run hrun).saved account password hmem
    have hinv := Main.Inv.reachable ⟨.new, _, rfl, hstart.append hrun⟩
    have hheeds := hinv.heeds
    rw [hlog] at hheeds
    refine ⟨hheeds.at.1, ?_⟩
    rcases authenticated hauthenticate hagrees with ⟨-, -, hnone⟩ | ⟨-, submitted, rfl, hok⟩
    · simp [hnone] at hsave
    · rw [hsave] at hok
      obtain ⟨hpassword, haccount, -⟩ := Inputs.authenticate_eq_ok hok
      obtain ⟨hasked, hgiven, -⟩ := hended.2.2 account password hsave
      exact ⟨hasked, hgiven, submitted, rfl, hpassword, haccount⟩

/-- **A password of OpenVPN Connect** is asked for at most for the profile that was chosen and its
own user, after the keychain of the program had none; and where the keychain of Connect answers as
`read` does, it is what the item under the ID of the profile decodes to. -/
theorem connect_password_decoded {U : Connect.UnicodeTables} {macos : Bool} {source : ProfileSource}
    {args : StartArgs} {log : Log Ask.Answer} {p : Startup Started} {P : Connect.Primitives}
    {find : String → String → Except ℤ (List UInt8)} {id password : String}
    (h : (main U macos (.connection source args)).After log p)
    (hread : ∀ id answer, Was log (.readConnectPassword id) answer → P.read find id = .ok answer)
    (hwas : Was log (.readConnectPassword id) (.ok (some password))) :
    ∃ before profile selected user encoded,
      before ++ [⟨.readConnectPassword id, .ok (some password)⟩] <+: log ∧
      Resolving macos source args before profile (some selected) user ∧
      Missing before (keychainAccount profile user) ∧
      selected.savedPassword = true ∧ selected.username = some user ∧ selected.id = id ∧
      find "org.openvpn.client." id = .ok encoded ∧ P.decode encoded id = .ok (.ok password) := by
  have hobeys : (connection U macos source args).Obeys
      (rules macos source args fun log started => Ended args log started) [] := obeys_connection U
  obtain ⟨before, hbefore, hasks⟩ := h.asked hwas
  obtain ⟨profile, connectProfile, user, hresolving, haccount, hmissing⟩ := hobeys.asks hasks
  obtain ⟨selected, rfl, hid⟩ := Option.bind_eq_some_iff.mp haccount
  rw [Connect.Profile.passwordAccount] at hid
  split_ifs at hid with hboth
  rw [Bool.and_eq_true, beq_iff_eq] at hboth
  obtain rfl := Option.some.inj hid
  obtain ⟨encoded, hfind, hdecode⟩ := P.read_eq_some.mp (hread _ _ hwas)
  exact ⟨before, profile, selected, user, encoded, hbefore, hresolving, hmissing, hboth.1, hboth.2,
    rfl, hfind, hdecode⟩

namespace FirstUse

/-- A host that answers alike. -/
def host : Host where
  env name := world (.env name)
  readToString path := world (.readToString path)
  readLine := world .readLine
  promptPassword text := world (.promptPassword text)
  keyringEntry service account := world (.keyringEntry service account)
  getPassword service account := world (.getPassword service account)
  savedPassword := none
  provideCredentials credentials := world (.provideCredentials credentials)

lemma was_log {q : Ask} {r : q.Answer} (h : Was log q r) : world q = r :=
  (answer_of_meet h).elim (nomatch ·) Eq.symm

lemma agrees_log : Agrees none log host where
  env _ _ h := was_log h
  readToString _ _ h := was_log h
  readLine line h :=
    have hread : Was log .readLine line := h.subset (by simp)
    was_log hread
  promptPassword _ _ h := was_log h
  keyringEntry _ _ _ h := was_log h
  getPassword _ _ _ h := was_log h
  noneSaved _ _ := rfl
  connectPassword _ _ _ hid := nomatch hid
  provideCredentials _ _ h := was_log h

end FirstUse

open FirstUse in
/-- A typed password is to be saved. -/
theorem password_stored_typed : Agrees none log host ∧
    ∃ profile connectProfile named evaluation, Located log profile ∧
      Chosen log args (.file []) connectProfile named ∧ Evaluated log evaluation ∧
      ∀ host, Agrees connectProfile log host →
        (connectionSystem (inputsOf args profile named evaluation host)).Run .new
          [.authenticate, .bind (.ok ()), .spawn]
          (begun (some ⟨"alice", "new", ""⟩) (some ("/client\nalice", "new"))) ∧
        ∀ acts m, (connectionSystem (inputsOf args profile named evaluation host)).Run
          (begun (some ⟨"alice", "new", ""⟩) (some ("/client\nalice", "new"))) acts m →
            Each (Sent args log profile (some ⟨"alice", "new", ""⟩)) m.log :=
  ⟨agrees_log, password_stored after_log⟩

namespace ConnectUse

/-- The profile of the test vector. -/
def profile : Connect.Profile where
  id := "1700000000123"
  name := "work"
  path := [Connect.osString "client"]
  username := some "alice"
  savedPassword := true

/-- The keychain of Connect, with one item. -/
def find (_ id : String) : Except ℤ (List UInt8) :=
  if id = profile.id then .ok (Connect.osString Connect.vectorEncoded) else .error (-25300)

/-- The only profile, and an empty keychain of the program. -/
def world : (q : Ask) → q.Answer
  | .home => some []
  | .discoverIn _ => .ok [profile]
  | .readConnectPassword id =>
    if id = profile.id then .ok (some "synthetic-password-è-🔐") else .ok none
  | q => FirstUse.world q

def args : StartArgs := { FirstUse.args with username := none }

def start : Startup Started := main FirstUse.tables true (.connection (.connect none) args)

/-- The questions and answers of such a start. -/
def log : Log Ask.Answer := (start.meet world []).1

lemma after_log : start.After log (.done (.listening FirstUse.args.listen
    (some ⟨"alice", "synthetic-password-è-🔐", ""⟩)
    (some ("/client\nalice", "synthetic-password-è-🔐")))) := After.start.meet rfl

lemma read_of_was {id : String} {answer : Except String (Option String)}
    (h : Was log (.readConnectPassword id) answer) :
    Connect.vectorPrimitives.read find id = .ok answer := by
  obtain rfl : world (.readConnectPassword id) = answer :=
    (answer_of_meet h).elim (nomatch ·) Eq.symm
  by_cases hid : id = profile.id
  · subst hid
    decide +kernel
  · simp [world, Connect.Primitives.read, find, hid]

lemma was_log : Was log (.readConnectPassword profile.id) (.ok (some "synthetic-password-è-🔐")) :=
  List.mem_of_getElem? (i := 11) rfl

end ConnectUse

open ConnectUse in
/-- The password of the test vector. -/
theorem connect_password_decoded_vector : ∃ before path selected user encoded,
    before ++ [⟨.readConnectPassword profile.id, .ok (some "synthetic-password-è-🔐")⟩] <+: log ∧
    Resolving true (.connect none) args before path (some selected) user ∧
    Missing before (keychainAccount path user) ∧
    selected.savedPassword = true ∧ selected.username = some user ∧ selected.id = profile.id ∧
    find "org.openvpn.client." profile.id = .ok encoded ∧
    Connect.vectorPrimitives.decode encoded profile.id = .ok (.ok "synthetic-password-è-🔐") :=
  connect_password_decoded after_log (fun _ _ => read_of_was) was_log

end Startup

end Ovpnlane
