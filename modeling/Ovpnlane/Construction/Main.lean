import Ovpnlane.Construction.Diagnostics
import Ovpnlane.Framework.Fallible
import Ovpnlane.Framework.Transition

/-!
# The connection command

`main` (`src/main.rs`) from the credentials on.  The first half of the file is the credentials
block: the auth file or the username and `resolve_vpn_password`, the challenge response, and the
pair that is to be stored in the system keychain.  The second half is what runs at the same time:
`main` itself through its shutdown sequence, the save task it spawned, the blocking closure the save
task hands to `spawn_blocking`, and the event and log callbacks of OpenVPN Core, which run on a
thread of Core.  `connectionSystem` lets all of them act in any order; each action is one section
under the diagnostics lock, one poll of a future, or one step of `main` between two of its awaits.

`log` is not in the source: it keeps the credentials that were submitted, the events that were
recorded and the calls of `save_keychain_password`, in the order in which they happened.
-/

namespace Ovpnlane

namespace OpenvpnConnect

structure Evaluation where
  autologin : Bool
  userlockedUsername : String
  staticChallenge : String

structure Credentials where
  username : String
  password : String
  response : String
  deriving DecidableEq

def Credentials.new (username password : String) : Credentials := ⟨username, password, ""⟩

end OpenvpnConnect

open OpenvpnConnect Text

/-- What the credentials block reads of the command line; `username` is `--username` or
`OVPN_USER`. -/
structure ConnectionArgs where
  username : Option String
  authFile : Option String
  savePassword : Bool
  nonInteractive : Bool

inductive KeyringError
  | noEntry
  | other

/-- What the operating system, the user and OpenVPN Core answer. -/
structure Host where
  env : String → Option String
  readToString : String → Except String String
  /-- A line typed after the username prompt. -/
  readLine : Except String String
  promptPassword : String → Except String String
  /-- `keyring::Entry::new`, for a service and an account. -/
  keyringEntry : String → String → Except KeyringError Unit
  getPassword : String → String → Except KeyringError String
  /-- `saved_password` of the OpenVPN Connect profile, if one is used. -/
  savedPassword : Option (String → Except String (Option String))
  provideCredentials : Credentials → Except String Unit

/-- Everything the credentials block depends on; `profile` is the canonical path. -/
structure Inputs where
  profile : String
  args : ConnectionArgs
  evaluation : Evaluation
  host : Host

/-! ## Credentials -/

/-- `resolve_vpn_password`: a source is asked only when no earlier one has a password. -/
def resolveVpnPassword (environment : Option String) (savePassword : Bool)
    (ownKeychain connectKeychain : Except String (Option String)) (prompt : Except String String) :
    Except String (String × Bool) :=
  match environment with
  | some password => .ok (password, savePassword)
  | none =>
    match ownKeychain with
    | .ok (some password) => .ok (password, false)
    | .ok none | .error _ =>
      match connectKeychain with
      | .ok (some password) => .ok (password, savePassword)
      | .ok none | .error _ => prompt.map fun password => (password, savePassword)

def keychainService : String := "ovpnlane"

def keychainAccount (profile username : String) : String := profile ++ "\n" ++ username

namespace Host

variable (host : Host)

def keychainPassword (account : String) : Except String (Option String) :=
  match host.keyringEntry keychainService account with
  | .error _ => .error "could not open system keychain"
  | .ok () =>
    match host.getPassword keychainService account with
    | .ok password => .ok (some password)
    | .error .noEntry => .ok none
    | .error .other => .error "could not retrieve password from system keychain"

/-- `save_keychain_password`, with the keychain it leaves behind; `taken` is whether the keychain
takes the password. -/
def saveKeychainPassword (taken : Bool) (account password : String) : Except String Unit × Host :=
  match host.keyringEntry keychainService account with
  | .error _ => (.error "could not open system keychain", host)
  | .ok () =>
    if taken then
      (.ok (), { host with
        getPassword := fun service account' =>
          if service = keychainService ∧ account' = account then .ok password
          else host.getPassword service account' })
    else (.error "could not store password in system keychain", host)

def secret (name prompt : String) (nonInteractive : Bool) : Except String String :=
  match host.env name with
  | some value => .ok value
  | none =>
    if nonInteractive then .error ("set " ++ name ++ " for non-interactive authentication")
    else withContext (host.promptPassword prompt) "could not read password"

def authFileCredentials (path : String) : Except String Credentials := do
  let content ← withContext (host.readToString path) "could not read auth file"
  let user ← context ((lines content)[0]?.filter (· ≠ ""))
    "auth file must contain username on line 1"
  let password ← context (lines content)[1]? "auth file must contain password on line 2"
  return .new user password

end Host

namespace Inputs

variable (inputs : Inputs)

def username : Except String String :=
  match inputs.args.username with
  | some user => .ok user
  | none =>
    if inputs.evaluation.userlockedUsername ≠ "" then .ok inputs.evaluation.userlockedUsername
    else if inputs.args.nonInteractive then .error "set --username/OVPN_USER or --auth-file"
    else inputs.host.readLine.map trim

def resolvedPassword (username : String) : Except String (String × Bool) :=
  resolveVpnPassword (inputs.host.env "OVPN_PASS") inputs.args.savePassword
    (inputs.host.keychainPassword (keychainAccount inputs.profile username))
    (match inputs.host.savedPassword with
      | some savedPassword => savedPassword username
      | none => .ok none)
    (inputs.host.secret "OVPN_PASS" "VPN password: " inputs.args.nonInteractive)

/-- The credentials before the challenge, and `password_to_save`. -/
def candidate : Except String (Credentials × Option (String × String)) :=
  match inputs.args.authFile with
  | some path => (inputs.host.authFileCredentials path).map fun credentials => (credentials, none)
  | none => do
    let username ← inputs.username
    let (password, shouldSave) ← inputs.resolvedPassword username
    return (.new username password,
      if shouldSave then some (keychainAccount inputs.profile username, password) else none)

def answered (credentials : Credentials) : Except String Credentials :=
  if inputs.evaluation.staticChallenge ≠ "" then
    (inputs.host.secret "OVPN_RESPONSE" "VPN challenge response: " inputs.args.nonInteractive).map
      fun response => { credentials with response }
  else .ok credentials

/-- The credentials block: what was submitted, and `password_to_save`. -/
def authenticate : Except String (Credentials × Option (String × String)) := do
  let (credentials, passwordToSave) ← inputs.candidate
  let credentials ← inputs.answered credentials
  withContext (inputs.host.provideCredentials credentials) "could not set credentials"
  return (credentials, passwordToSave)

end Inputs

/-! ## `main`, the save task and the callbacks -/

inductive SavePoint
  | waiting (point : WaitPoint)
  | joining
  | finished
  /-- Dropped by the runtime before it finished. -/
  | aborted
  deriving DecidableEq

structure SaveTask where
  account : String
  password : String
  point : SavePoint
  /-- `abort` was called, or the runtime shuts down. -/
  cancelled : Bool

/-- The closure given to `spawn_blocking`, which is not cancelled with the task. -/
structure SaveJob where
  account : String
  password : String
  ran : Bool

inductive MainPhase
  | authenticating
  | binding
  | spawning
  | selecting
  /-- Stopping the proxy and the session. -/
  | stopping (result : Except String Unit)
  | awaiting (result : Except String Unit)
  /-- Before `save_task.abort()`. -/
  | aborting (result : Except String Unit)
  | returned (result : Except String Unit)
  deriving DecidableEq

inductive MainEvent
  | submitted (credentials : Credentials)
  | recorded (event : OpenvpnConnect.Event)
  | saved (account password : String)
  deriving DecidableEq

structure Main where
  phase : MainPhase
  passwordToSave : Option (String × String)
  diagnostics : Diagnostics
  saveTask : Option SaveTask
  job : Option SaveJob
  log : List MainEvent

inductive MainAct
  | event (event : OpenvpnConnect.Event)
  | line (text : String)
  | task
  /-- A blocking thread runs the closure of the save task. -/
  | job
  | cancel
  | authenticate
  | bind (bound : Except String Unit)
  | spawn
  /-- The first arm of `select!`; `false` if the handler closed. -/
  | interrupt (signal : Bool)
  /-- The second arm: the status `connect` returned, or its error. -/
  | session (status : Except String String)
  | proxy (result : Except String Unit)
  /-- The proxy and the session have ended. -/
  | stopped
  | joinSave
  | abortSave
  deriving DecidableEq

namespace Main

def new : Main := ⟨.authenticating, none, .new, none, none, []⟩

/-- `main` returns, and the runtime shuts down. -/
def finish (m : Main) (result : Except String Unit) : Main :=
  { m with
    phase := .returned result
    saveTask := m.saveTask.map fun task => { task with cancelled := true } }

def stepTask (m : Main) : Option Main :=
  m.saveTask.bind fun task =>
    match task.point with
    | .waiting .returned => some { m with
        saveTask := some { task with point := .joining }
        job := some ⟨task.account, task.password, false⟩ }
    | .waiting point =>
      (point.step m.diagnostics.wasConnected m.diagnostics.connected).map fun (n, point) =>
        { m with
          diagnostics := { m.diagnostics with connected := n }
          saveTask := some { task with point := .waiting point } }
    | .joining =>
      if m.job.any (·.ran) then some { m with saveTask := some { task with point := .finished } }
      else none
    | .finished | .aborted => none

def runJob (m : Main) : Option Main :=
  m.job.bind fun job =>
    if job.ran then none
    else some { m with
      job := some { job with ran := true }
      log := m.log ++ [.saved job.account job.password] }

/-- The runtime drops the save task, with the future it holds. -/
def dropTask (m : Main) : Option Main :=
  m.saveTask.bind fun task =>
    if task.cancelled && task.point != .finished && task.point != .aborted then
      some { m with
        diagnostics := { m.diagnostics with connected := m.diagnostics.connected.drop }
        saveTask := some { task with point := .aborted } }
    else none

def authenticate (inputs : Inputs) (m : Main) : Main :=
  if inputs.evaluation.autologin then { m with phase := .binding }
  else
    match inputs.authenticate with
    | .error text => m.finish (.error text)
    | .ok (credentials, passwordToSave) => { m with
        phase := .binding
        passwordToSave
        log := m.log ++ [.submitted credentials] }

def spawn (m : Main) : Main :=
  { m with
    phase := .selecting
    saveTask := m.passwordToSave.map fun (account, password) =>
      ⟨account, password, .waiting .head, false⟩ }

/-- The test of `was_connected` after the proxy and the session have ended. -/
def stopped (m : Main) (result : Except String Unit) : Main :=
  match m.saveTask with
  | none => m.finish result
  | some _ =>
    if m.diagnostics.wasConnected then { m with phase := .awaiting result }
    else { m with phase := .aborting result }

/-- The next state, if the action is enabled. -/
def act (inputs : Inputs) (m : Main) : MainAct → Option Main
  | .event event => some { m with
      diagnostics := m.diagnostics.record event
      log := m.log ++ [.recorded event] }
  | .line text => some { m with diagnostics := m.diagnostics.log text }
  | .task => m.stepTask
  | .job => m.runJob
  | .cancel => m.dropTask
  | .authenticate => if m.phase = .authenticating then some (m.authenticate inputs) else none
  | .bind bound =>
    if m.phase = .binding then
      match withContext bound "could not bind SOCKS5 port" with
      | .ok () => some { m with phase := .spawning }
      | .error text => some (m.finish (.error text))
    else none
  | .spawn => if m.phase = .spawning then some m.spawn else none
  | .interrupt signal =>
    if m.phase = .selecting then
      if signal then some { m with phase := .stopping (.ok ()) }
      -- `ensure!` leaves `main`: the save task is neither awaited nor aborted by it.
      else some (m.finish (.error "interrupt handler closed unexpectedly"))
    else none
  | .session status =>
    if m.phase = .selecting then
      some { m with phase := .stopping (status.bind fun s => .error (m.diagnostics.sessionEnd s)) }
    else none
  | .proxy result =>
    if m.phase = .selecting then some { m with phase := .stopping result } else none
  | .stopped =>
    match m.phase with
    | .stopping result => some (m.stopped result)
    | _ => none
  | .joinSave =>
    match m.phase with
    | .awaiting result =>
      if m.saveTask.any (fun task => task.point == .finished || task.point == .aborted) then
        some (m.finish result)
      else none
    | _ => none
  | .abortSave =>
    match m.phase with
    | .aborting result => some (m.finish result)
    | _ => none

end Main

/-- `main` with everything that runs beside it. -/
def connectionSystem (inputs : Inputs) : System Main MainAct :=
  .ofFun (· = .new) (Main.act inputs)

end Ovpnlane
