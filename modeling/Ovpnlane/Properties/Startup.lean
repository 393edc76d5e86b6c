import Ovpnlane.Construction.Startup
import Ovpnlane.Properties.Listing

/-!
# What the program asks before it listens

Every question of `main`, whatever it is answered (`startup_asks`): when a secret is asked for, from
whom, and what has been answered by then; and what is true when the listener is bound.  The log of
the questions is all that is spoken of, so nothing is said of a world beside its answers.

`Permitted` is the rule for one question.  Each part of `main` has one lemma, which says that the
part keeps the rule and what the log holds behind it; a fact about a log holds of every longer one
(`Was.mono`).
-/

namespace Ovpnlane

open Text OpenvpnConnect Inquiry

namespace Startup

/-! ## What a log says -/

/-- The question was asked and answered so. -/
def Was (log : Log Ask.Answer) (q : Ask) (r : q.Answer) : Prop := ⟨q, r⟩ ∈ log

/-- A profile has been evaluated so. -/
def Evaluated (log : Log Ask.Answer) (evaluation : ProfileEvaluation) : Prop :=
  ∃ config, Was log (.evaluate config) (.ok evaluation)

/-- So was it at its last evaluation, whose result `main` goes by. -/
def LastEvaluated (log : Log Ask.Answer) (evaluation : ProfileEvaluation) : Prop :=
  ∃ before config after, log = before ++ ⟨.evaluate config, .ok evaluation⟩ :: after ∧
    ∀ config' answer, ¬Was after (.evaluate config') answer

/-- This is the path of the profile. -/
def Located (log : Log Ask.Answer) (profile : String) : Prop :=
  ∃ path canonical, Was log (.canonicalize path) (.ok canonical) ∧
    Connect.toStr canonical = some profile

/-- The keychain of the program has been asked, and has no password of the account. -/
def Missing (log : Log Ask.Answer) (account : String) : Prop :=
  (∃ e, Was log (.keyringEntry keychainService account) (.error e)) ∨
    ∃ e, Was log (.getPassword keychainService account) (.error e)

/-- So has Connect's, if it may be used for the user. -/
def ConnectMissing (log : Log Ask.Answer) (profile : Option Connect.Profile)
    (user : String) : Prop :=
  ∀ id, profile.bind (·.passwordAccount user) = some id →
    ∃ answer, Was log (.readConnectPassword id) answer ∧ ∀ password, answer ≠ .ok (some password)

/-- What holds whenever the credentials are asked for. -/
structure Cleared (macos : Bool) (args : StartArgs) (log : Log Ask.Answer) : Prop where
  loopback : args.listen.ip.isLoopback = true
  check : args.check = false
  interrupt : Was log .interruptHandler (.ok ())
  evaluated : ∃ evaluation, Evaluated log evaluation ∧ evaluation.externalPki = false
  interaction : macos = true → args.nonInteractive = true → Was log .disableInteraction (.ok ())

/-- The variables of the environment that hold secrets, and the prompts that stand for them. -/
def secrets : List (String × String) :=
  [("OVPN_KEY_PASS", "Private key password: "), ("OVPN_PASS", "VPN password: "),
    ("OVPN_RESPONSE", "VPN challenge response: ")]

/-- How one of the profiles that were found is chosen. -/
inductive Picked (log : Log Ask.Answer) (profiles : List Connect.Profile) :
    Option String → Connect.Profile → Prop
  /-- By its ID or its name. -/
  | named {selector : String} {profile : Connect.Profile}
      (hselect : Connect.select profiles selector = .ok profile) :
      Picked log profiles (some selector) profile
  /-- There is no other. -/
  | only {profile : Connect.Profile} (honly : profiles = [profile]) :
      Picked log profiles none profile
  /-- By what was entered after the menu; the number that stands before a profile chooses it. -/
  | entered {U : Connect.UnicodeTables} {line : String} {profile : Connect.Profile}
      (hmem : profile ∈ profiles)
      (hread : [⟨.menu (U.menu profiles), .ok ()⟩, ⟨.readLine, .ok line⟩] <:+: log)
      (hnumber : ∀ i, i + 1 < 2 ^ 64 → line = toString (i + 1) ++ "\n" →
        profiles[i]? = some profile) : Picked log profiles none profile

/-- The Connect profile that is used, if one is, and the username it comes with. -/
def Chosen (log : Log Ask.Answer) (args : StartArgs) :
    ProfileSource → Option Connect.Profile → Option String → Prop
  | .file _, profile, user => profile = none ∧ user = args.username
  | .connect selector, profile, user => ∃ selected root profiles, profile = some selected ∧
    Was log (.discoverIn root) (.ok profiles) ∧ selected ∈ profiles ∧
    Picked log profiles selector selected ∧ user = args.username.or selected.username

/-- Who the user is: the one who was named, the one the profile is locked to, or the one who was
asked for. -/
def User (log : Log Ask.Answer) (evaluation : ProfileEvaluation) (named : Option String)
    (user : String) : Prop :=
  named = some user ∨ named = none ∧ (evaluation.userlockedUsername ≠ "" ∧
    user = evaluation.userlockedUsername ∨ ∃ line, user = trim line ∧
      [⟨.prompt "VPN username: ", .ok ()⟩, ⟨.readLine, .ok line⟩] <:+: log)

/-- What is known when a saved password is asked for. -/
structure Resolving (macos : Bool) (source : ProfileSource) (args : StartArgs)
    (log : Log Ask.Answer) (profile : String) (connectProfile : Option Connect.Profile)
    (user : String) : Prop extends Cleared macos args log where
  file : args.authFile = none
  environment : Was log (.env "OVPN_PASS") none
  located : Located log profile
  chosen : ∃ named evaluation, Chosen log args source connectProfile named ∧
    Evaluated log evaluation ∧ evaluation.autologin = false ∧ User log evaluation named user

/-- Where a password comes from. -/
inductive Given (log : Log Ask.Answer) : String → Prop
  | environment {password : String} (h : Was log (.env "OVPN_PASS") (some password)) :
      Given log password
  | connect {password id : String} (h : Was log (.readConnectPassword id) (.ok (some password))) :
      Given log password
  | typed {password : String} (h : Was log (.promptPassword "VPN password: ") (.ok password)) :
      Given log password

/-- What may be submitted. -/
structure Sourced (args : StartArgs) (log : Log Ask.Answer) (credentials : Credentials) : Prop where
  password : (∃ path content, args.authFile = some path ∧
      Was log (.readToString path) (.ok content) ∧ (lines content)[0]? = some credentials.username ∧
        (lines content)[1]? = some credentials.password) ∨
    args.authFile = none ∧ (Given log credentials.password ∨
      ∃ account, Was log (.getPassword keychainService account) (.ok credentials.password))
  response : credentials.response = "" ∨
    Was log (.env "OVPN_RESPONSE") (some credentials.response) ∨
      Was log (.promptPassword "VPN challenge response: ") (.ok credentials.response)

/-- What may be asked after a log. -/
def Permitted (macos : Bool) (source : ProfileSource) (args : StartArgs) (log : Log Ask.Answer) :
    Ask → Prop
  | .update _ => False
  | .home | .discoverIn _ | .isTerminal _ => ∃ selector, source = .connect selector
  | .print _ => args.check = true
  | .env _ => Cleared macos args log
  | .menu text => args.nonInteractive = false ∧ (∃ selector, source = .connect selector) ∧
    ∀ c ∈ text.toList, Connect.isControl c = true → c = '\n'
  | .prompt _ => args.nonInteractive = false ∧ Cleared macos args log
  | .readLine => args.nonInteractive = false ∧ ((∃ text, Was log (.menu text) (.ok ())) ∨
    Was log (.prompt "VPN username: ") (.ok ()) ∧ Cleared macos args log)
  | .promptPassword text => args.nonInteractive = false ∧ Cleared macos args log ∧
    (∃ name, (name, text) ∈ secrets ∧ Was log (.env name) none) ∧
    (text = "VPN password: " → ∃ profile connectProfile user,
      Resolving macos source args log profile connectProfile user ∧
        Missing log (keychainAccount profile user) ∧ ConnectMissing log connectProfile user)
  | .canonicalize _ | .merge _ | .interruptHandler | .spawnWorker .. | .newClient _ | .evaluate _ =>
    args.listen.ip.isLoopback = true
  | .disableInteraction => macos = true ∧ args.nonInteractive = true ∧ args.check = false
  | .readToString path => Cleared macos args log ∧ args.authFile = some path
  | .keyringEntry service account => service = keychainService ∧ ∃ profile connectProfile user,
    Resolving macos source args log profile connectProfile user ∧
      account = keychainAccount profile user
  | .getPassword service account => service = keychainService ∧
    Was log (.keyringEntry service account) (.ok ()) ∧ ∃ profile connectProfile user,
      Resolving macos source args log profile connectProfile user ∧
        account = keychainAccount profile user
  | .readConnectPassword id => ∃ profile connectProfile user,
    Resolving macos source args log profile connectProfile user ∧
      connectProfile.bind (·.passwordAccount user) = some id ∧
        Missing log (keychainAccount profile user)
  | .provideCredentials credentials => Cleared macos args log ∧ Sourced args log credentials
  | .bind address => address = args.listen ∧ Cleared macos args log ∧
    ((∃ evaluation, LastEvaluated log evaluation ∧ evaluation.autologin = true) ∨
      ∃ credentials, Was log (.provideCredentials credentials) (.ok ()))
  | .localAddr => Was log (.bind args.listen) (.ok ())

/-- What is to be saved: an account and a password of these credentials. -/
def Saves (args : StartArgs) (log : Log Ask.Answer) (credentials : Credentials)
    (passwordToSave : Option (String × String)) : Prop :=
  ∀ account password, passwordToSave = some (account, password) → args.savePassword = true ∧
    Given log password ∧ credentials.password = password ∧
      ∃ profile, Located log profile ∧ account = keychainAccount profile credentials.username

/-- What holds at the end. -/
def Ended (args : StartArgs) (log : Log Ask.Answer) : Started → Prop
  | .updated | .listed => False
  | .checked => args.check = true
  | .listening _ credentials passwordToSave => Was log (.bind args.listen) (.ok ()) ∧
    match credentials with
    | none => passwordToSave = none ∧
      ∃ evaluation, LastEvaluated log evaluation ∧ evaluation.autologin = true
    | some credentials => Was log (.provideCredentials credentials) (.ok ()) ∧
      Saves args log credentials passwordToSave

/-! ## Longer logs -/

section Mono

variable {log log' : Log Ask.Answer} {macos : Bool} {source : ProfileSource} {args : StartArgs}
  {profile user : String} {connectProfile : Option Connect.Profile}

lemma was_last (log : Log Ask.Answer) (q : Ask) (r : q.Answer) : Was (log ++ [⟨q, r⟩]) q r := by
  simp [Was]

lemma lastEvaluated_last (log : Log Ask.Answer) (config : Config) (evaluation : ProfileEvaluation) :
    LastEvaluated (log ++ [⟨.evaluate config, .ok evaluation⟩]) evaluation :=
  ⟨log, config, [], rfl, fun _ _ => List.not_mem_nil⟩

lemma LastEvaluated.evaluated {evaluation : ProfileEvaluation} (h : LastEvaluated log evaluation) :
    Evaluated log evaluation := by
  obtain ⟨before, config, after, rfl, -⟩ := h
  exact ⟨config, by simp [Was]⟩

/-- A question of another kind changes nothing about it. -/
lemma LastEvaluated.concat {evaluation : ProfileEvaluation} (h : LastEvaluated log evaluation)
    {q : Ask} (hq : ∀ config, q ≠ .evaluate config) (r : q.Answer) :
    LastEvaluated (log ++ [⟨q, r⟩]) evaluation := by
  obtain ⟨before, config, after, rfl, hnone⟩ := h
  refine ⟨before, config, after ++ [⟨q, r⟩], by simp, fun config' answer hwas => ?_⟩
  rcases List.mem_append.mp hwas with hmem | hmem
  · exact hnone config' answer hmem
  · exact hq config' (congrArg Sigma.fst (List.mem_singleton.mp hmem)).symm

variable (hlog : log <+: log')

include hlog

lemma Was.mono {q : Ask} {r : q.Answer} (h : Was log q r) : Was log' q r := hlog.subset h

lemma Evaluated.mono {evaluation : ProfileEvaluation} (h : Evaluated log evaluation) :
    Evaluated log' evaluation :=
  let ⟨config, hwas⟩ := h
  ⟨config, hwas.mono hlog⟩

lemma Located.mono (h : Located log profile) : Located log' profile :=
  let ⟨path, canonical, hwas, htext⟩ := h
  ⟨path, canonical, hwas.mono hlog, htext⟩

lemma Missing.mono {account : String} (h : Missing log account) : Missing log' account :=
  h.imp (fun ⟨e, hwas⟩ => ⟨e, hwas.mono hlog⟩) fun ⟨e, hwas⟩ => ⟨e, hwas.mono hlog⟩

lemma Picked.mono {profiles : List Connect.Profile} {selector : Option String}
    {selected : Connect.Profile} (h : Picked log profiles selector selected) :
    Picked log' profiles selector selected := by
  cases h with
  | named hselect => exact .named hselect
  | only honly => exact .only honly
  | entered hmem hread hnumber => exact .entered hmem (hread.trans hlog.isInfix) hnumber

lemma Chosen.mono {named : Option String} (h : Chosen log args source connectProfile named) :
    Chosen log' args source connectProfile named := by
  cases source with
  | file path => exact h
  | connect selector =>
    obtain ⟨selected, root, profiles, hprofile, hwas, hmem, hpicked, huser⟩ := h
    exact ⟨selected, root, profiles, hprofile, hwas.mono hlog, hmem, hpicked.mono hlog, huser⟩

lemma Cleared.mono (h : Cleared macos args log) : Cleared macos args log' where
  loopback := h.loopback
  check := h.check
  interrupt := h.interrupt.mono hlog
  evaluated :=
    let ⟨evaluation, hevaluated, hpki⟩ := h.evaluated
    ⟨evaluation, hevaluated.mono hlog, hpki⟩
  interaction hmacos hquiet := (h.interaction hmacos hquiet).mono hlog

lemma User.mono {evaluation : ProfileEvaluation} {named : Option String}
    (h : User log evaluation named user) : User log' evaluation named user :=
  h.imp_right fun ⟨hnamed, hrest⟩ => ⟨hnamed, hrest.imp_right fun ⟨line, htrim, hread⟩ =>
    ⟨line, htrim, hread.trans hlog.isInfix⟩⟩

lemma Resolving.mono (h : Resolving macos source args log profile connectProfile user) :
    Resolving macos source args log' profile connectProfile user where
  toCleared := h.toCleared.mono hlog
  file := h.file
  environment := h.environment.mono hlog
  located := h.located.mono hlog
  chosen :=
    let ⟨named, evaluation, hchosen, hevaluated, hauto, huser⟩ := h.chosen
    ⟨named, evaluation, hchosen.mono hlog, hevaluated.mono hlog, hauto, huser.mono hlog⟩

lemma Given.mono {password : String} (h : Given log password) : Given log' password := by
  cases h with
  | environment h => exact .environment (h.mono hlog)
  | connect h => exact .connect (h.mono hlog)
  | typed h => exact .typed (h.mono hlog)

end Mono

/-! ## The parts of the program -/

section Parts

variable {macos : Bool} {source : ProfileSource} {args : StartArgs} {log : Log Ask.Answer}
  {α β : Type}

/-- The rule, with what has to hold where a part goes on. -/
def rules (macos : Bool) (source : ProfileSource) (args : StartArgs)
    (post : Log Ask.Answer → α → Prop) : Terms Ask.Answer String α :=
  ⟨Permitted macos source args, post, fun _ _ => True⟩

/-- One part after the other. -/
lemma obeys_next {p : Startup α} {f : α → Startup β} (mid : Log Ask.Answer → α → Prop)
    {post : Log Ask.Answer → β → Prop} (hp : p.Obeys (rules macos source args mid) log)
    (hf : ∀ log' a, log <+: log' → mid log' a → (f a).Obeys (rules macos source args post) log') :
    (p >>= f).Obeys (rules macos source args post) log := obeys_then mid hp hf

lemma obeys_ask {q : Ask} {post : Log Ask.Answer → q.Answer → Prop}
    (hasks : Permitted macos source args log q) (hpost : ∀ r, post (log ++ [⟨q, r⟩]) r) :
    (ask q).Obeys (rules macos source args post) log := ⟨hasks, hpost⟩

lemma obeys_attempt {q : Ask} {answer : q.Answer → Except String α}
    {post : Log Ask.Answer → α → Prop} (hasks : Permitted macos source args log q)
    (hpost : ∀ r a, answer r = .ok a → post (log ++ [⟨q, r⟩]) a) :
    (attempt q answer).Obeys (rules macos source args post) log :=
  obeys_bind.mpr ⟨hasks, fun r => obeys_lift.mpr ⟨hpost r, fun _ _ => trivial⟩⟩

lemma obeys_require {condition : Bool} {text : String} {post : Log Ask.Answer → Unit → Prop}
    (hpost : condition = true → post log ()) :
    (ensure condition text : Startup Unit).Obeys (rules macos source args post) log :=
  obeys_ensure.mpr ⟨hpost, fun _ => trivial⟩

lemma obeys_context {value : Option α} {text : String} {post : Log Ask.Answer → α → Prop}
    (hpost : ∀ a, value = some a → post log a) :
    (liftM (context value text) : Startup α).Obeys (rules macos source args post) log :=
  obeys_lift.mpr ⟨fun a ha => hpost a (context_eq_ok.mp ha), fun _ _ => trivial⟩

/-! ### The profile -/

lemma obeys_discover {selector : Option String} (hsource : source = .connect selector) :
    (discover macos).Obeys (rules macos source args fun log profiles =>
      ∃ root, Was log (.discoverIn root) (.ok profiles)) log := by
  refine obeys_next (fun _ _ => True) (obeys_require fun _ => trivial) fun log _ _ _ => ?_
  refine obeys_next (fun _ _ => True) (obeys_attempt ⟨selector, hsource⟩ fun _ _ _ => trivial)
    fun log home _ _ => ?_
  refine obeys_attempt ⟨selector, hsource⟩ fun answer profiles hanswer => ?_
  rw [id_eq] at hanswer
  subst hanswer
  exact ⟨_, was_last _ _ _⟩

lemma obeys_canAsk {selector : Option String} (hsource : source = .connect selector) :
    (canAsk args.nonInteractive).Obeys (rules macos source args fun _ can =>
      can = true → args.nonInteractive = false) log := by
  unfold canAsk
  cases hquiet : args.nonInteractive with
  | true => exact fun h => nomatch h
  | false =>
    refine obeys_next (fun _ _ => True) (obeys_ask ⟨selector, hsource⟩ fun _ => trivial)
      fun log input _ _ => ?_
    cases input with
    | true => exact obeys_ask ⟨selector, hsource⟩ fun _ _ => rfl
    | false => exact fun _ => rfl

lemma mem_of_select {profiles : List Connect.Profile} {selector : String}
    {profile : Connect.Profile} (h : Connect.select profiles selector = .ok profile) :
    profile ∈ profiles := by
  unfold Connect.select at h
  split at h
  · next found hfound =>
    cases h
    exact List.mem_of_find?_eq_some hfound
  · split at h
    · cases h
    · next found hfound =>
      cases h
      have hmem : profile ∈ profiles.filter fun p => p.name == selector := by simp [hfound]
      exact (List.mem_filter.mp hmem).1
    · cases h

lemma Picked.mem {profiles : List Connect.Profile} {selector : Option String}
    {selected : Connect.Profile} (h : Picked log profiles selector selected) :
    selected ∈ profiles := by
  cases h with
  | named hselect => exact mem_of_select hselect
  | only honly => simp [honly]
  | entered hmem => exact hmem

/-- The menu has line feeds, and no other control character. -/
lemma eq_of_isControl_menu (U : Connect.UnicodeTables) {profiles : List Connect.Profile} {c : Char}
    (h : c ∈ (U.menu profiles).toList) (hcontrol : Connect.isControl c = true) : c = '\n' := by
  have hmem := List.mem_filter.mpr ⟨h, hcontrol⟩
  rw [U.filter_isControl_menu] at hmem
  exact List.eq_of_mem_replicate hmem

lemma obeys_choose {U : Connect.UnicodeTables} {selector : Option String}
    (hsource : source = .connect selector) (profiles : List Connect.Profile) :
    (choose U profiles selector args.nonInteractive).Obeys
      (rules macos source args fun log selected => Picked log profiles selector selected) log := by
  unfold choose
  split
  · exact obeys_lift.mpr ⟨fun _ => .named, fun _ _ => trivial⟩
  · exact .only rfl
  · refine obeys_next (fun _ _ => True) (obeys_require fun _ => trivial) fun log _ _ _ => ?_
    refine obeys_next (fun _ can => can = true → args.nonInteractive = false)
      (obeys_canAsk hsource) fun log can _ hcan => ?_
    refine obeys_next (fun _ _ => args.nonInteractive = false) (obeys_require hcan)
      fun log _ _ hquiet => ?_
    refine obeys_next (fun log _ => ∃ before, log = before ++ [⟨.menu (U.menu profiles), .ok ()⟩])
      (obeys_attempt ⟨hquiet, ⟨_, hsource⟩, fun _ => eq_of_isControl_menu U⟩
        fun answer _ hanswer => ?_)
      fun log _ _ ⟨before, hbefore⟩ => ?_
    · rw [id_eq] at hanswer
      exact ⟨_, by rw [hanswer]⟩
    have hmenu : Was log (.menu (U.menu profiles)) (.ok ()) := hbefore ▸ was_last _ _ _
    refine obeys_next (fun log line =>
        [⟨.menu (U.menu profiles), .ok ()⟩, ⟨.readLine, .ok line⟩] <:+: log)
      (obeys_attempt ⟨hquiet, .inl ⟨_, hmenu⟩⟩ fun answer line hanswer => ?_)
      fun log line _ hread => ?_
    · rw [id_eq] at hanswer
      exact ⟨before, [], by simp [hbefore, hanswer]⟩
    refine obeys_context fun profile hprofile => ?_
    obtain ⟨index, hindex, hget⟩ := Option.bind_eq_some_iff.mp hprofile
    refine .entered (List.mem_of_getElem? hget) hread fun i hfits hline => ?_
    rw [hline, Connect.menuIndex_number hfits] at hindex
    rw [Option.some.inj hindex]
    exact hget

lemma obeys_chooseProfile (U : Connect.UnicodeTables) :
    (chooseProfile U macos args source).Obeys (rules macos source args fun log chosen =>
      Chosen log args source chosen.2.1 chosen.2.2) log := by
  cases source with
  | file path => exact ⟨rfl, rfl⟩
  | connect selector =>
    refine obeys_next _ (obeys_discover rfl) fun log profiles _ ⟨root, hdiscovered⟩ => ?_
    refine obeys_next _ (obeys_choose rfl profiles) fun log' selected hlog hpicked => ?_
    exact ⟨selected, root, profiles, rfl, hdiscovered.mono hlog, hpicked.mem, hpicked, rfl⟩

/-- The answer that a question is given without a context. -/
lemma was_of_id {q : Ask} {r r' : q.Answer} (h : r = r') (log : Log Ask.Answer) :
    Was (log ++ [⟨q, r⟩]) q r' := h ▸ was_last log q r

lemma obeys_loadProfile (hloopback : args.listen.ip.isLoopback = true) (path : Connect.OsPath) :
    (loadProfile path).Obeys
      (rules macos source args fun log loaded => Located log loaded.1) log := by
  refine obeys_next (fun log canonical => Was log (.canonicalize path) (.ok canonical))
    (obeys_attempt hloopback fun answer canonical hanswer =>
      was_of_id (withContext_eq_ok.mp hanswer) _) fun log canonical _ hcanonical => ?_
  refine obeys_next (fun log text => Located log text)
    (obeys_context fun text htext => ⟨path, canonical, hcanonical, htext⟩)
    fun log text _ hlocated => ?_
  refine obeys_next (fun log _ => Located log text)
    (obeys_ask hloopback fun merged => hlocated.mono (List.prefix_append _ _))
    fun log merged _ hlocated => ?_
  exact obeys_next (fun _ _ => True) (obeys_require fun _ => trivial)
    fun log' _ hlog _ => hlocated.mono hlog

/-! ### OpenVPN Core -/

lemma obeys_evaluateProfile (hloopback : args.listen.ip.isLoopback = true) (config : Config) :
    (evaluateProfile args config).Obeys (rules macos source args fun log evaluation =>
      Was log .interruptHandler (.ok ()) ∧ LastEvaluated log evaluation) log := by
  refine obeys_next (fun log _ => Was log .interruptHandler (.ok ()))
    (obeys_attempt hloopback fun answer _ hanswer => was_of_id (withContext_eq_ok.mp hanswer) _)
    fun log _ _ hinterrupt => ?_
  refine obeys_next (fun _ _ => True) (obeys_attempt hloopback fun _ _ _ => trivial)
    fun log' _ hworker _ => ?_
  refine obeys_next (fun _ _ => True) (obeys_attempt hloopback fun _ _ _ => trivial)
    fun log'' _ hclient _ => ?_
  refine obeys_attempt hloopback fun answer evaluation hanswer => ?_
  have hlog := (hworker.trans hclient).trans (List.prefix_append _ [⟨.evaluate config, answer⟩])
  rw [withContext_eq_ok.mp hanswer] at hlog ⊢
  exact ⟨hinterrupt.mono hlog, lastEvaluated_last log'' config evaluation⟩

/-! ### Secrets -/

/-- A secret, from its variable or from its prompt. -/
def Told (log : Log Ask.Answer) (name prompt value : String) : Prop :=
  Was log (.env name) (some value) ∨ Was log (.promptPassword prompt) (.ok value)

lemma obeys_secret {name prompt : String} (hcleared : Cleared macos args log)
    (hsecret : (name, prompt) ∈ secrets)
    (hvpn : prompt = "VPN password: " → ∃ profile connectProfile user,
      Resolving macos source args log profile connectProfile user ∧
        Missing log (keychainAccount profile user) ∧ ConnectMissing log connectProfile user) :
    (secret name prompt args.nonInteractive).Obeys (rules macos source args fun log value =>
      Told log name prompt value) log := by
  refine obeys_next (fun log value => Was log (.env name) value)
    (obeys_ask hcleared fun value => was_last _ _ _) fun log' value hlog hvalue => ?_
  cases value with
  | some value => exact .inl hvalue
  | none =>
    cases hquiet : args.nonInteractive with
    | true => exact trivial
    | false =>
      refine obeys_attempt ⟨hquiet, hcleared.mono hlog, ⟨name, hsecret, hvalue⟩, fun hprompt => ?_⟩
        fun answer value hanswer => .inr (was_of_id (withContext_eq_ok.mp hanswer) _)
      obtain ⟨profile, connectProfile, user, hresolving, hmissing, hconnect⟩ := hvpn hprompt
      exact ⟨profile, connectProfile, user, hresolving.mono hlog, hmissing.mono hlog,
        fun id hid => (hconnect id hid).imp fun _ ⟨hwas, hnone⟩ => ⟨hwas.mono hlog, hnone⟩⟩

lemma obeys_unlock (hcleared : Cleared macos args log) (config : Config)
    {evaluation : ProfileEvaluation} (hevaluated : LastEvaluated log evaluation) :
    (unlock args config evaluation).Obeys (rules macos source args fun log evaluation =>
      LastEvaluated log evaluation) log := by
  unfold unlock
  split_ifs
  · refine obeys_next _
      (obeys_secret hcleared (by decide) fun hprompt => absurd hprompt (by decide))
      fun log' password hlog _ => ?_
    refine obeys_attempt hcleared.loopback fun answer evaluation hanswer => ?_
    rw [withContext_eq_ok.mp hanswer]
    exact lastEvaluated_last log' _ evaluation
  · exact hevaluated

/-! ### The password -/

lemma obeys_authFileCredentials (hcleared : Cleared macos args log) {path : String}
    (hpath : args.authFile = some path) :
    (authFileCredentials path).Obeys (rules macos source args fun log credentials =>
      Sourced args log credentials) log := by
  refine obeys_next (fun log content => Was log (.readToString path) (.ok content))
    (obeys_attempt ⟨hcleared, hpath⟩ fun answer content hanswer =>
      was_of_id (withContext_eq_ok.mp hanswer) _) fun log content _ hcontent => ?_
  refine obeys_next (fun _ user => (lines content)[0]? = some user)
    (obeys_context fun user huser => ?_)
    fun log' user huser hfirst => ?_
  · exact (Option.filter_eq_some_iff.mp huser).1
  refine obeys_next (fun _ password => (lines content)[1]? = some password)
    (obeys_context fun _ hpassword => hpassword) fun log'' password hpassword hsecond => ?_
  exact ⟨.inl ⟨path, content, hpath, (hcontent.mono huser).mono hpassword, hfirst, hsecond⟩,
    .inl rfl⟩

lemma obeys_username (hcleared : Cleared macos args log) (evaluation : ProfileEvaluation)
    (named : Option String) :
    (username args evaluation named).Obeys (rules macos source args fun log user =>
      User log evaluation named user) log := by
  cases named with
  | some user => exact .inl rfl
  | none =>
    unfold username
    split_ifs with hlocked
    · exact .inr ⟨rfl, .inl ⟨hlocked, rfl⟩⟩
    refine obeys_next (fun _ _ => args.nonInteractive = false)
      (obeys_require fun hask => by simpa using hask) fun log' _ hlog hquiet => ?_
    have hcleared' := hcleared.mono hlog
    refine obeys_next (fun log _ => ∃ before, log = before ++ [⟨.prompt "VPN username: ", .ok ()⟩])
      (obeys_attempt ⟨hquiet, hcleared'⟩ fun answer _ hanswer => ?_)
      fun log'' _ hprompt ⟨before, hbefore⟩ => ?_
    · rw [id_eq] at hanswer
      exact ⟨_, by rw [hanswer]⟩
    · have hwas : Was log'' (.prompt "VPN username: ") (.ok ()) := by
        rw [hbefore]
        exact was_last _ _ _
      refine obeys_attempt ⟨hquiet, .inr ⟨hwas, hcleared'.mono hprompt⟩⟩
        fun answer user hanswer => ?_
      obtain ⟨line, hline, htrim⟩ := except_map_eq_ok.mp hanswer
      refine .inr ⟨rfl, .inr ⟨line, htrim.symm, before, [], ?_⟩⟩
      rw [hbefore, hline]
      simp

/-- What the keychain of the program says of an account. -/
structure Looked (log : Log Ask.Answer) (account : String)
    (result : Except String (Option String)) :
    Prop where
  found : ∀ password, result = .ok (some password) →
    Was log (.getPassword keychainService account) (.ok password)
  missing : (∀ password, result ≠ .ok (some password)) → Missing log account

lemma obeys_keychainPassword {profile user : String} {connectProfile : Option Connect.Profile}
    (hresolving : Resolving macos source args log profile connectProfile user) :
    (keychainPassword (keychainAccount profile user)).Obeys
    (rules macos source args fun log result =>
      Looked log (keychainAccount profile user) result) log := by
  refine obeys_next (fun log entry =>
      Was log (.keyringEntry keychainService (keychainAccount profile user)) entry)
    (obeys_ask ⟨rfl, profile, connectProfile, user, hresolving, rfl⟩ fun entry => was_last _ _ _)
    fun log' entry hlog hentry => ?_
  cases entry with
  | error e => exact ⟨by simp, fun _ => .inl ⟨e, hentry⟩⟩
  | ok _ =>
    refine obeys_next (fun log password =>
        Was log (.getPassword keychainService (keychainAccount profile user)) password)
      (obeys_ask ⟨rfl, hentry, profile, connectProfile, user, hresolving.mono hlog, rfl⟩
        fun password => was_last _ _ _) fun log'' password _ hpassword => ?_
    match password with
    | .ok password =>
      refine ⟨fun other hother => ?_, fun hnone => absurd rfl (hnone password)⟩
      obtain rfl : password = other := by simpa using hother
      exact hpassword
    | .error .noEntry => exact ⟨by simp, fun _ => .inr ⟨_, hpassword⟩⟩
    | .error .other => exact ⟨by simp, fun _ => .inr ⟨_, hpassword⟩⟩

/-- What Connect's keychain says. -/
structure ConnectLooked (log : Log Ask.Answer) (profile : Option Connect.Profile) (user : String)
    (result : Except String (Option String)) : Prop where
  found : ∀ password, result = .ok (some password) → Given log password
  missing : (∀ password, result ≠ .ok (some password)) → ConnectMissing log profile user

lemma obeys_savedPassword {profile user : String} {connectProfile : Option Connect.Profile}
    (hresolving : Resolving macos source args log profile connectProfile user)
    (hmissing : Missing log (keychainAccount profile user)) :
    (savedPassword connectProfile user).Obeys (rules macos source args fun log result =>
      ConnectLooked log connectProfile user result) log := by
  unfold savedPassword
  split
  · next id hid =>
    refine obeys_ask ⟨profile, connectProfile, user, hresolving, hid, hmissing⟩ fun result => ?_
    refine ⟨fun password hfound => .connect (was_of_id hfound _), fun hnone other hother => ?_⟩
    obtain rfl : id = other := Option.some.inj (hid.symm.trans hother)
    exact ⟨result, was_last _ _ _, hnone⟩
  · next hnone => exact ⟨by simp, fun _ id hid => by simp [hnone] at hid⟩

/-- A password, and whether it is to be saved. -/
def Resolved (args : StartArgs) (log : Log Ask.Answer) (resolved : String × Bool) : Prop :=
  Given log resolved.1 ∧ (resolved.2 = true → args.savePassword = true) ∨
    resolved.2 = false ∧ ∃ account, Was log (.getPassword keychainService account) (.ok resolved.1)

/-- The prompt, when nothing is saved. -/
lemma obeys_prompted {profile user : String} {connectProfile : Option Connect.Profile}
    (hresolving : Resolving macos source args log profile connectProfile user)
    (hmissing : Missing log (keychainAccount profile user))
    (hconnect : ConnectMissing log connectProfile user) :
    Obeys (rules macos source args fun log resolved => Resolved args log resolved) (do
      return (← secret "OVPN_PASS" "VPN password: " args.nonInteractive,
        args.savePassword)) log := by
  refine obeys_next _ (obeys_secret hresolving.toCleared (by decide) fun _ =>
    ⟨profile, connectProfile, user, hresolving, hmissing, hconnect⟩) fun log' password _ htold => ?_
  exact .inl ⟨htold.elim .environment .typed, id⟩

lemma obeys_resolve {profile user : String} {connectProfile : Option Connect.Profile}
    {environment : Option String} (henvironment : Was log (.env "OVPN_PASS") environment)
    (hresolving : environment = none →
      Resolving macos source args log profile connectProfile user) :
    (resolveVpnPassword environment args.savePassword
      (keychainPassword (keychainAccount profile user)) (savedPassword connectProfile user)
      (secret "OVPN_PASS" "VPN password: " args.nonInteractive)).Obeys
      (rules macos source args fun log resolved => Resolved args log resolved) log := by
  cases environment with
  | some password => exact .inl ⟨.environment henvironment, id⟩
  | none =>
    have hresolving := hresolving rfl
    refine obeys_next _ (obeys_keychainPassword hresolving) fun log₁ own hlog₁ hown => ?_
    rcases own with e | _ | password
    case ok.some => exact .inr ⟨rfl, _, hown.found password rfl⟩
    -- an entry that cannot be read is one that is not there
    all_goals
      have hmissing := hown.missing (by simp)
      refine obeys_next _ (obeys_savedPassword (hresolving.mono hlog₁) hmissing)
        fun log₂ connect hlog₂ hconnect => ?_
      have hresolving₂ := hresolving.mono (hlog₁.trans hlog₂)
      rcases connect with e' | _ | password
      case ok.some => exact .inl ⟨hconnect.found password rfl, id⟩
      all_goals exact obeys_prompted hresolving₂ (hmissing.mono hlog₂) (hconnect.missing (by simp))

/-! ### The credentials -/

lemma Sourced.mono {log' : Log Ask.Answer} {credentials : Credentials} (hlog : log <+: log')
    (h : Sourced args log credentials) : Sourced args log' credentials where
  password := by
    rcases h.password with ⟨path, content, hpath, hwas, hlines⟩ | ⟨hfile, hpassword⟩
    · exact .inl ⟨path, content, hpath, hwas.mono hlog, hlines⟩
    · exact .inr ⟨hfile, hpassword.imp (·.mono hlog)
        fun ⟨account, hwas⟩ => ⟨account, hwas.mono hlog⟩⟩
  response := h.response.imp_right (Or.imp (·.mono hlog) (·.mono hlog))

lemma Saves.mono {log' : Log Ask.Answer} {credentials credentials' : Credentials}
    {passwordToSave : Option (String × String)} (hlog : log <+: log')
    (h : Saves args log credentials passwordToSave)
    (husername : credentials'.username = credentials.username)
    (hpassword : credentials'.password = credentials.password) :
    Saves args log' credentials' passwordToSave := by
  intro account password hsome
  obtain ⟨hsave, hgiven, hsame, profile, hlocated, haccount⟩ := h account password hsome
  exact ⟨hsave, hgiven.mono hlog, hpassword.trans hsame, profile, hlocated.mono hlog,
    husername ▸ haccount⟩

lemma obeys_candidate {profile : String} {connectProfile : Option Connect.Profile}
    {named : Option String} {evaluation : ProfileEvaluation} (hcleared : Cleared macos args log)
    (hlocated : Located log profile) (hchosen : Chosen log args source connectProfile named)
    (hevaluated : Evaluated log evaluation) (hauto : evaluation.autologin = false) :
    (candidate args profile connectProfile named evaluation).Obeys
      (rules macos source args fun log result =>
        Sourced args log result.1 ∧ Saves args log result.1 result.2) log := by
  unfold candidate
  split
  · next path hpath =>
    refine obeys_next _ (obeys_authFileCredentials hcleared hpath)
      fun log' credentials _ hsourced => ?_
    exact ⟨hsourced, by simp [Saves]⟩
  · next hfile =>
    refine obeys_next _ (obeys_username hcleared evaluation named) fun log₁ user hlog₁ huser => ?_
    refine obeys_next (fun log environment => Was log (.env "OVPN_PASS") environment)
      (obeys_ask (hcleared.mono hlog₁) fun _ => was_last _ _ _)
      fun log₂ environment hlog₂ henvironment => ?_
    have hlog := hlog₁.trans hlog₂
    have hresolving : environment = none →
        Resolving macos source args log₂ profile connectProfile user := by
      rintro rfl
      exact ⟨hcleared.mono hlog, hfile, henvironment, hlocated.mono hlog, named, evaluation,
        hchosen.mono hlog, hevaluated.mono hlog, hauto, huser.mono hlog₂⟩
    refine obeys_next _ (obeys_resolve henvironment hresolving)
      fun log₃ ⟨password, shouldSave⟩ hlog₃ hresolved => ?_
    refine ⟨⟨.inr ⟨hfile, hresolved.imp (·.1) (·.2)⟩, .inl rfl⟩, fun account other hsaved => ?_⟩
    cases shouldSave with
    | false => simp at hsaved
    | true =>
      obtain ⟨rfl, rfl⟩ : keychainAccount profile user = account ∧ password = other := by
        simpa using hsaved
      rcases hresolved with ⟨hgiven, hsave⟩ | ⟨hfalse, -⟩
      · exact ⟨hsave rfl, hgiven, rfl, profile, hlocated.mono (hlog.trans hlog₃), rfl⟩
      · cases hfalse

lemma obeys_answered {evaluation : ProfileEvaluation} {credentials : Credentials}
    (hcleared : Cleared macos args log) (hsourced : Sourced args log credentials) :
    (answered args evaluation credentials).Obeys (rules macos source args fun log result =>
      Sourced args log result ∧ result.username = credentials.username ∧
        result.password = credentials.password) log := by
  unfold answered
  split_ifs
  · refine obeys_next _
      (obeys_secret hcleared (by decide) fun hprompt => absurd hprompt (by decide))
      fun log' response hlog htold => ?_
    exact ⟨⟨(hsourced.mono hlog).password, .inr htold⟩, rfl, rfl⟩
  · exact ⟨hsourced, rfl, rfl⟩

/-- What the credentials block leaves. -/
def Authenticated (args : StartArgs) (log : Log Ask.Answer) :
    Option Credentials × Option (String × String) → Prop
  | (none, passwordToSave) => passwordToSave = none ∧
    ∃ evaluation, LastEvaluated log evaluation ∧ evaluation.autologin = true
  | (some credentials, passwordToSave) => Was log (.provideCredentials credentials) (.ok ()) ∧
    Saves args log credentials passwordToSave

lemma obeys_authenticate {profile : String} {connectProfile : Option Connect.Profile}
    {named : Option String} {evaluation : ProfileEvaluation} (hcleared : Cleared macos args log)
    (hlocated : Located log profile) (hchosen : Chosen log args source connectProfile named)
    (hevaluated : LastEvaluated log evaluation) :
    (authenticate args profile connectProfile named evaluation).Obeys
      (rules macos source args fun log result => Authenticated args log result) log := by
  unfold authenticate
  split_ifs with hauto
  · exact ⟨rfl, evaluation, hevaluated, hauto⟩
  · refine obeys_next _ (obeys_candidate hcleared hlocated hchosen hevaluated.evaluated
      (by simpa using hauto)) fun log₁ ⟨credentials, passwordToSave⟩ hlog₁ ⟨hsourced, hsaves⟩ => ?_
    refine obeys_next _ (obeys_answered (hcleared.mono hlog₁) hsourced)
      fun log₂ answered hlog₂ ⟨hsourced, husername, hpassword⟩ => ?_
    refine obeys_next (fun log _ => log₂ <+: log ∧ Was log (.provideCredentials answered) (.ok ()))
      (obeys_attempt ⟨hcleared.mono (hlog₁.trans hlog₂), hsourced⟩ fun answer _ hanswer =>
        ⟨List.prefix_append _ _, was_of_id (withContext_eq_ok.mp hanswer) _⟩)
      fun log₃ _ _ ⟨hlog₃, hprovided⟩ => ?_
    exact ⟨hprovided, hsaves.mono (hlog₂.trans hlog₃) husername hpassword⟩

/-! ### The command -/

lemma obeys_keychainUi (hcheck : args.check = false) {evaluation : ProfileEvaluation}
    (hevaluated : LastEvaluated log evaluation) :
    (keychainUi macos args).Obeys (rules macos source args fun log _ =>
      LastEvaluated log evaluation ∧
        (macos = true → args.nonInteractive = true →
          Was log .disableInteraction (.ok ()))) log := by
  unfold keychainUi
  split_ifs with hquiet
  · rw [Bool.and_eq_true] at hquiet
    exact obeys_attempt ⟨hquiet.1, hquiet.2, hcheck⟩ fun answer _ hanswer =>
      ⟨hevaluated.concat (by simp) answer, fun _ _ => was_of_id (withContext_eq_ok.mp hanswer) _⟩
  · refine ⟨hevaluated, fun hmacos hnon => ?_⟩
    exact absurd (by rw [hmacos, hnon]; rfl) hquiet

lemma obeys_establish {config : Config} {profile : String}
    {connectProfile : Option Connect.Profile} {named : Option String}
    {evaluation : ProfileEvaluation} (hloopback : args.listen.ip.isLoopback = true)
    (hcheck : args.check = false) (hinterrupt : Was log .interruptHandler (.ok ()))
    (hlocated : Located log profile) (hchosen : Chosen log args source connectProfile named)
    (hevaluated : LastEvaluated log evaluation) :
    (establish macos args config profile connectProfile named evaluation).Obeys
      (rules macos source args fun log started => Ended args log started) log := by
  refine obeys_next (fun log _ => LastEvaluated log evaluation ∧ evaluation.externalPki = false)
    (obeys_require fun hpki => ⟨hevaluated, by simpa using hpki⟩)
    fun log₁ _ hlog₁ ⟨hevaluated₁, hpki⟩ => ?_
  refine obeys_next _ (obeys_keychainUi hcheck hevaluated₁)
    fun log₂ _ hlog₂ ⟨hevaluated₂, hinteraction⟩ => ?_
  have hlog := hlog₁.trans hlog₂
  have hcleared : Cleared macos args log₂ := ⟨hloopback, hcheck, hinterrupt.mono hlog,
    ⟨evaluation, hevaluated₂.evaluated, hpki⟩, hinteraction⟩
  refine obeys_next _ (obeys_unlock hcleared config hevaluated₂)
    fun log₃ unlocked hlog₃ hunlocked => ?_
  refine obeys_next _ (obeys_authenticate (hcleared.mono hlog₃) (hlocated.mono (hlog.trans hlog₃))
    (hchosen.mono (hlog.trans hlog₃)) hunlocked)
    fun log₄ ⟨credentials, passwordToSave⟩ hlog₄ hauthenticated => ?_
  refine obeys_next (fun log _ => log₄ <+: log ∧ Was log (.bind args.listen) (.ok ()) ∧
      ∀ evaluation, LastEvaluated log₄ evaluation → LastEvaluated log evaluation)
    (obeys_attempt ⟨rfl, hcleared.mono (hlog₃.trans hlog₄), ?_⟩ fun answer _ hanswer =>
      ⟨List.prefix_append _ _, was_of_id (withContext_eq_ok.mp hanswer) _,
        fun _ h => h.concat (by simp) answer⟩)
    fun log₅ _ _ ⟨hlog₅, hbound, hkept₅⟩ => ?_
  · cases credentials with
    | none => exact .inl hauthenticated.2
    | some credentials => exact .inr ⟨credentials, hauthenticated.1⟩
  refine obeys_next (fun log _ => log₅ <+: log ∧
      ∀ evaluation, LastEvaluated log₅ evaluation → LastEvaluated log evaluation)
    (obeys_attempt hbound fun answer _ _ =>
      ⟨List.prefix_append _ _, fun _ h => h.concat (by simp) answer⟩)
    fun log₆ address _ ⟨hlog₆, hkept₆⟩ => ?_
  have hlast := hlog₅.trans hlog₆
  cases credentials with
  | none =>
    obtain ⟨hnone, unlocked, hevaluated, hauto⟩ := hauthenticated
    exact ⟨hbound.mono hlog₆, hnone, unlocked, hkept₆ _ (hkept₅ _ hevaluated), hauto⟩
  | some credentials =>
    exact ⟨hbound.mono hlog₆, hauthenticated.1.mono hlast, hauthenticated.2.mono hlast rfl rfl⟩

lemma obeys_connection (U : Connect.UnicodeTables) :
    (connection U macos source args).Obeys
      (rules macos source args fun log started => Ended args log started) log := by
  refine obeys_next (fun _ _ => args.listen.ip.isLoopback = true) (obeys_require id)
    fun log₁ _ _ hloopback => ?_
  refine obeys_next _ (obeys_chooseProfile U)
    fun log₂ ⟨path, connectProfile, named⟩ _ hchosen => ?_
  refine obeys_next _ (obeys_loadProfile hloopback path)
    fun log₃ ⟨profile, content⟩ hlog₃ hlocated => ?_
  refine obeys_next _ (obeys_evaluateProfile hloopback (configure args content))
    fun log₄ evaluation hlog₄ ⟨hinterrupt, hevaluated⟩ => ?_
  split_ifs with hcheck
  · exact obeys_next (fun _ _ => True) (obeys_ask hcheck fun _ => trivial) fun _ _ _ _ => hcheck
  · exact obeys_establish hloopback (by simpa using hcheck) hinterrupt (hlocated.mono hlog₄)
      (hchosen.mono (hlog₃.trans hlog₄)) hevaluated

end Parts

/-- **What `main` asks.**  Whatever the world answers, each question of a connection is asked only
where it may be: nothing is asked of a human with `--non-interactive`, nothing secret with `--check`
or before the interrupt handler is there, a saved password only for the account of this profile and
user and when no earlier source has one, and the listener is bound on a loopback address after the
credentials were taken.  When the listener is bound, the password to save is the one that was
submitted, and does not come from the keychain of the program. -/
theorem startup_asks (U : Connect.UnicodeTables) (macos : Bool) (source : ProfileSource)
    (args : StartArgs) :
    (∀ log q, (main U macos (.connection source args)).Asks log q →
      Permitted macos source args log q) ∧
    ∀ log started, (main U macos (.connection source args)).After log (.done started) →
      Ended args log started := by
  have hobeys : (main U macos (.connection source args)).Obeys
      (rules macos source args fun log started => Ended args log started) [] := obeys_connection U
  exact ⟨fun log q hasks => hobeys.asks hasks, fun log started hafter => hobeys.done hafter⟩

namespace FirstUse

def tables : Connect.UnicodeTables := ⟨fun _ => false, fun _ => true⟩

/-- A profile by its path, and `--save-password`. -/
def args : StartArgs where
  username := some "alice"
  authFile := none
  savePassword := true
  nonInteractive := false
  listen := ⟨.v4 (.new 127 0 0 1), 1080⟩
  dns := []
  check := false
  connectTimeout := 30
  idleTimeout := 300
  maxConnections := 256
  conflicts _ := rfl
  connectTimeout_mem := by decide
  maxConnections_mem := by decide

def evaluation : ProfileEvaluation := ⟨⟨false, "", ""⟩, "vpn.example", "1194", "udp", false, false⟩

/-- An empty keychain, and a password at the prompt. -/
def world : (q : Ask) → q.Answer
  | .env _ | .home => none
  | .discoverIn _ => .error "no directory"
  | .isTerminal _ => true
  | .print _ => ()
  | .readLine | .readToString _ => .error "closed"
  | .promptPassword _ => .ok "new"
  | .canonicalize _ => .ok (Connect.osString "/client")
  | .merge _ => ⟨"", "client"⟩
  | .evaluate _ => .ok evaluation
  | .keyringEntry _ _ => .ok ()
  | .getPassword _ _ => .error .noEntry
  | .readConnectPassword _ => .ok none
  | .localAddr => .ok args.listen
  | .update _ | .menu _ | .prompt _ | .interruptHandler | .spawnWorker .. | .newClient _
  | .disableInteraction | .provideCredentials _ | .bind _ => .ok ()

def start : Startup Started := main tables false (.connection (.file []) args)

/-- The questions and answers of such a start. -/
def log : Log Ask.Answer := (start.meet world []).1

/-- The listener is bound. -/
lemma after_log : start.After log (.done (.listening args.listen (some ⟨"alice", "new", ""⟩)
    (some ("/client\nalice", "new")))) := After.start.meet rfl

end FirstUse

open FirstUse in
/-- The start comes to the listener. -/
theorem startup_asks_listening : Ended args log (.listening args.listen (some ⟨"alice", "new", ""⟩)
    (some ("/client\nalice", "new"))) :=
  (startup_asks tables false (.file []) args).2 _ _ after_log

end Startup

end Ovpnlane
