import Ovpnlane.Construction.Address
import Ovpnlane.Construction.Listing
import Ovpnlane.Construction.Main
import Ovpnlane.Construction.Password
import Ovpnlane.Construction.Update
import Ovpnlane.Framework.Inquiry

/-!
# The start of the program

`main` (`src/main.rs`) from the parsed command line to the bound listener, as a program that asks:
the environment, the file system, the terminal, the keychains and OpenVPN Core each answer the
questions of `Ask`, and the order of the questions is that of the source.  What follows the listener
is `Construction/Main.lean` and `Construction/Process.lean`.

`Construction/Main.lean` also has the credentials block as a function of a `Host`.  There a source
is a value, so the function cannot say which of them are asked; here it is a program.  Log messages
are left out.
-/

namespace Ovpnlane

open Text OpenvpnConnect

def IpAddr.isLoopback : IpAddr → Bool
  | .v4 ip => ip.octets.headD 0 == 127
  | .v6 ip => ip.octets == List.replicate 15 0 ++ [1]

namespace OpenvpnConnect

/-- `Evaluation`, with what is checked and printed before the credentials. -/
structure ProfileEvaluation extends Evaluation where
  remoteHost : String
  remotePort : String
  remoteProto : String
  privateKeyPasswordRequired : Bool
  externalPki : Bool

/-- `Config`, as far as it is set. -/
structure Config where
  profileContent : String
  guiVersion : String
  connectionTimeoutSeconds : ℕ
  tunPersist : Bool
  googleDnsFallback : Bool
  compressionMode : String
  contentList : List (String × String)
  privateKeyPassword : String
  deriving DecidableEq

/-- What `merge_config_path` gives. -/
structure Merged where
  errorText : String
  profileContent : String

end OpenvpnConnect

/-- `ConnectionArgs` as `clap` accepts it. -/
structure StartArgs extends ConnectionArgs where
  listen : SocketAddr
  dns : List IpAddr
  check : Bool
  connectTimeout : ℕ
  idleTimeout : ℕ
  maxConnections : ℕ
  /-- `--save-password` conflicts with `--auth-file`. -/
  conflicts : savePassword = true → authFile = none
  connectTimeout_mem : 1 ≤ connectTimeout ∧ connectTimeout ≤ 300
  maxConnections_mem : 1 ≤ maxConnections ∧ maxConnections ≤ 4096

inductive ProfileSource
  | file (path : Connect.OsPath)
  | connect (selector : Option String)

inductive Invocation
  | update (args : Update.UpdateArgs)
  | profiles
  | connection (source : ProfileSource) (args : StartArgs)

inductive StandardStream
  | input
  | error
  deriving DecidableEq

inductive Ask
  | update (args : Update.UpdateArgs)
  | env (name : String)
  | home
  | discoverIn (root : Connect.OsPath)
  | isTerminal (stream : StandardStream)
  /-- Text for standard output. -/
  | print (text : String)
  /-- The menu of profiles, on standard error. -/
  | menu (text : String)
  /-- Another text for standard error, and a flush. -/
  | prompt (text : String)
  | readLine
  | promptPassword (text : String)
  | canonicalize (path : Connect.OsPath)
  | merge (path : String)
  | interruptHandler
  | spawnWorker (connectTimeout idleTimeout maxConnections : ℕ)
  /-- `Client::new`, with the DNS override of its handler. -/
  | newClient (dns : List IpAddr)
  | evaluate (config : Config)
  | disableInteraction
  | readToString (path : String)
  | keyringEntry (service account : String)
  | getPassword (service account : String)
  /-- `password::read`. -/
  | readConnectPassword (profileId : String)
  | provideCredentials (credentials : Credentials)
  | bind (address : SocketAddr)
  | localAddr

abbrev Ask.Answer : Ask → Type
  | .env _ => Option String
  | .home => Option Connect.OsPath
  | .discoverIn _ => Except String (List Connect.Profile)
  | .isTerminal _ => Bool
  | .print _ => Unit
  | .readLine | .promptPassword _ | .readToString _ => Except String String
  | .canonicalize _ => Except String Connect.OsString
  | .merge _ => Merged
  | .evaluate _ => Except String ProfileEvaluation
  | .keyringEntry _ _ => Except KeyringError Unit
  | .getPassword _ _ => Except KeyringError String
  | .readConnectPassword _ => Except String (Option String)
  | .localAddr => Except String SocketAddr
  | .update _ | .menu _ | .prompt _ | .interruptHandler | .spawnWorker .. | .newClient _ |
      .disableInteraction
  | .provideCredentials _ | .bind _ => Except String Unit

/-- How far the program came when `main` has nothing more to ask. -/
inductive Started
  | updated
  | listed
  | checked
  /-- The listener is bound; the credentials that were submitted, and `password_to_save`. -/
  | listening (address : SocketAddr) (credentials : Option Credentials)
    (passwordToSave : Option (String × String))

abbrev Startup := Inquiry Ask Ask.Answer String

namespace Startup

open Inquiry

def ask (q : Ask) : Startup q.Answer := question q

/-- A question whose answer may be an error. -/
def attempt {α : Type} (q : Ask) (answer : q.Answer → Except String α) : Startup α := do
  liftM (answer (← ask q))

/-! ## Profiles -/

/-- `discover`; `macos` is `cfg!(target_os = "macos")`. -/
def discover (macos : Bool) : Startup (List Connect.Profile) := do
  ensure macos "OpenVPN Connect discovery is only supported on macOS; use --config PATH"
  let home ← attempt .home (context · "HOME is not set; use --config PATH")
  attempt (.discoverIn (home ++ [Connect.osString "Library",
    Connect.osString "Application Support", Connect.osString "OpenVPN Connect"])) id

def canAsk (nonInteractive : Bool) : Startup Bool := do
  if nonInteractive then return false
  else
    let input : Bool ← ask (.isTerminal .input)
    if input then ask (.isTerminal .error) else return false

def choose (U : Connect.UnicodeTables) (profiles : List Connect.Profile) (selector : Option String)
    (nonInteractive : Bool) : Startup Connect.Profile :=
  match selector, profiles with
  | some selector, _ => liftM (Connect.select profiles selector)
  | none, [profile] => return profile
  | none, _ => do
    ensure (!profiles.isEmpty) "no OpenVPN Connect profiles found"
    ensure (← canAsk nonInteractive) ("specify a profile name or " ++
      "ID: ovpnlane connect <PROFILE>; run `ovpnlane profiles` to list them")
    attempt (.menu (U.menu profiles)) id
    let line ← attempt .readLine id
    liftM (context ((Connect.menuIndex line).bind fun index => profiles[index]?)
      ("invalid selection; enter a number from 1 to " ++ toString profiles.length))

/-- The profile of a source: its path, the Connect profile if it is one, and the username. -/
def chooseProfile (U : Connect.UnicodeTables) (macos : Bool) (args : StartArgs) :
    ProfileSource → Startup (Connect.OsPath × Option Connect.Profile × Option String)
  | .file path => return (path, none, args.username)
  | .connect selector => do
    let profiles ← discover macos
    let selected ← choose U profiles selector args.nonInteractive
    return (selected.path, some selected, args.username.or selected.username)

def loadProfile (path : Connect.OsPath) : Startup (String × String) := do
  let canonical ← attempt (.canonicalize path) (withContext · "could not open profile")
  let text ← liftM (context (Connect.toStr canonical) "profile path is not valid UTF-8")
  let merged : Merged ← ask (.merge text)
  ensure (merged.errorText == "") ("could not load profile: " ++ merged.errorText)
  return (text, merged.profileContent)

/-! ## OpenVPN Core -/

def packageVersion : String := "0.0.4"

def configure (args : StartArgs) (content : String) : Config where
  profileContent := content
  guiVersion := "ovpnlane/" ++ packageVersion
  connectionTimeoutSeconds := args.connectTimeout
  tunPersist := false
  googleDnsFallback := false
  compressionMode := "no"
  contentList := [("remote-cert-tls", "server")]
  privateKeyPassword := ""

/-- The interrupt handler, the worker, the client, and the evaluation of the profile. -/
def evaluateProfile (args : StartArgs) (config : Config) : Startup ProfileEvaluation := do
  attempt .interruptHandler (withContext · "could not install interrupt handler")
  attempt (.spawnWorker args.connectTimeout args.idleTimeout args.maxConnections) id
  attempt (.newClient args.dns) id
  attempt (.evaluate config) (withContext · "profile evaluation failed")

def report (evaluation : ProfileEvaluation) : String :=
  "Profile valid. Remote: " ++ evaluation.remoteHost ++ ":" ++ evaluation.remotePort ++ " (" ++
      evaluation.remoteProto ++ ")\n" ++
    "Username/password required: " ++ toString (!evaluation.autologin) ++ "\n" ++
    "Private key password required: " ++ toString evaluation.privateKeyPasswordRequired ++ "\n" ++
    "External PKI required: " ++ toString evaluation.externalPki ++ "\n" ++
    "Static challenge required: " ++ toString (evaluation.staticChallenge != "") ++ "\n"

/-! ## Secrets -/

def secret (name prompt : String) (nonInteractive : Bool) : Startup String := do
  match ← ask (.env name) with
  | some value => return value
  | none =>
    if nonInteractive then throw ("set " ++ name ++ " for non-interactive authentication")
    else attempt (.promptPassword prompt) (withContext · "could not read password")

/-- The private key password, and the evaluation with it. -/
def unlock (args : StartArgs) (config : Config) (evaluation : ProfileEvaluation) :
    Startup ProfileEvaluation := do
  if evaluation.privateKeyPasswordRequired then
    let password ← secret "OVPN_KEY_PASS" "Private key password: " args.nonInteractive
    attempt (.evaluate { config with privateKeyPassword := password })
      (withContext · "could not unlock private key")
  else return evaluation

def authFileCredentials (path : String) : Startup Credentials := do
  let content ← attempt (.readToString path) (withContext · "could not read auth file")
  let user ← liftM (context ((lines content)[0]?.filter (· ≠ ""))
    "auth file must contain username on line 1")
  let password ← liftM (context (lines content)[1]? "auth file must contain password on line 2")
  return .new user password

def username (args : StartArgs) (evaluation : ProfileEvaluation) : Option String → Startup String
  | some user => return user
  | none => do
    if evaluation.userlockedUsername ≠ "" then return evaluation.userlockedUsername
    else
      ensure (!args.nonInteractive) "set --username/OVPN_USER or --auth-file"
      attempt (.prompt "VPN username: ") id
      attempt .readLine (·.map trim)

def keychainPassword (account : String) : Startup (Except String (Option String)) := do
  match ← ask (.keyringEntry keychainService account) with
  | .error _ => return .error "could not open system keychain"
  | .ok () =>
    match ← ask (.getPassword keychainService account) with
    | .ok password => return .ok (some password)
    | .error .noEntry => return .ok none
    | .error .other => return .error "could not retrieve password from system keychain"

/-- `saved_password` of the Connect profile, if one is used. -/
def savedPassword (profile : Option Connect.Profile) (username : String) :
    Startup (Except String (Option String)) :=
  match profile.bind (·.passwordAccount username) with
  | some id => ask (.readConnectPassword id)
  | none => return .ok none

def resolveVpnPassword (environment : Option String) (savePassword : Bool)
    (ownKeychain connectKeychain : Startup (Except String (Option String)))
    (prompt : Startup String) : Startup (String × Bool) := do
  match environment with
  | some password => return (password, savePassword)
  | none =>
    match ← ownKeychain with
    | .ok (some password) => return (password, false)
    | .ok none | .error _ =>
      match ← connectKeychain with
      | .ok (some password) => return (password, savePassword)
      | .ok none | .error _ => return (← prompt, savePassword)

def candidate (args : StartArgs) (profile : String) (connectProfile : Option Connect.Profile)
    (user : Option String) (evaluation : ProfileEvaluation) :
    Startup (Credentials × Option (String × String)) := do
  match args.authFile with
  | some path => return (← authFileCredentials path, none)
  | none =>
    let username ← username args evaluation user
    let account := keychainAccount profile username
    let (password, shouldSave) ← resolveVpnPassword (← ask (.env "OVPN_PASS"))
      args.savePassword (keychainPassword account) (savedPassword connectProfile username)
      (secret "OVPN_PASS" "VPN password: " args.nonInteractive)
    return (.new username password, if shouldSave then some (account, password) else none)

def answered (args : StartArgs) (evaluation : ProfileEvaluation) (credentials : Credentials) :
    Startup Credentials := do
  if evaluation.staticChallenge ≠ "" then
    let response ← secret "OVPN_RESPONSE" "VPN challenge response: " args.nonInteractive
    return { credentials with response }
  else return credentials

def authenticate (args : StartArgs) (profile : String) (connectProfile : Option Connect.Profile)
    (user : Option String) (evaluation : ProfileEvaluation) :
    Startup (Option Credentials × Option (String × String)) := do
  if evaluation.autologin then return (none, none)
  else
    let (credentials, passwordToSave) ← candidate args profile connectProfile user evaluation
    let credentials ← answered args evaluation credentials
    attempt (.provideCredentials credentials) (withContext · "could not set credentials")
    return (some credentials, passwordToSave)

/-! ## The command -/

/-- The guard `_keychain_ui`: no dialog of the keychain is shown while it is there. -/
def keychainUi (macos : Bool) (args : StartArgs) : Startup Unit :=
  if macos && args.nonInteractive then
    attempt .disableInteraction
      (withContext · "could not disable Keychain prompts for --non-interactive")
  else return ()

/-- From the evaluation to the listener. -/
def establish (macos : Bool) (args : StartArgs) (config : Config) (profile : String)
    (connectProfile : Option Connect.Profile) (user : Option String)
    (evaluation : ProfileEvaluation) : Startup Started := do
  ensure (!evaluation.externalPki) "external PKI/smart-card profiles are not supported"
  keychainUi macos args
  let evaluation ← unlock args config evaluation
  let (credentials, passwordToSave) ← authenticate args profile connectProfile user evaluation
  attempt (.bind args.listen) (withContext · "could not bind SOCKS5 port")
  return .listening (← attempt .localAddr id) credentials passwordToSave

/-- A connection, from its profile on. -/
def connection (U : Connect.UnicodeTables) (macos : Bool) (source : ProfileSource)
    (args : StartArgs) : Startup Started := do
  ensure args.listen.ip.isLoopback "--listen must be a loopback address (127.0.0.1 or ::1)"
  let (path, connectProfile, user) ← chooseProfile U macos args source
  let (profile, content) ← loadProfile path
  let config := configure args content
  let evaluation ← evaluateProfile args config
  if args.check then
    ask (.print (report evaluation))
    return .checked
  else establish macos args config profile connectProfile user evaluation

/-- `main` up to the listener. -/
def main (U : Connect.UnicodeTables) (macos : Bool) : Invocation → Startup Started
  | .update args => do
    attempt (.update args) id
    return .updated
  | .profiles => do
    let profiles ← discover macos
    ask (.print (U.list profiles))
    return .listed
  | .connection source args => connection U macos source args

end Startup

end Ovpnlane
