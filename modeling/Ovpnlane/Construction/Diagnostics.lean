import Ovpnlane.Construction.Text
import Ovpnlane.Framework.Notify
import Mathlib.Data.List.Infix

/-!
# Diagnostics of a VPN session

`Diagnostics` (`src/vpn.rs`): what the event and log callbacks of OpenVPN Core leave behind for the
final message, and the notification the save task waits for.  Every function here runs under the
lock of `DiagnosticShared::state`, so each is one atomic step; `notify_one` is called with the lock
held and belongs to the step that raises the flag.
-/

namespace Ovpnlane

/-- What `record` reads of an event of Core. -/
structure OpenvpnConnect.Event where
  name : String
  error : Bool
  fatal : Bool
  deriving DecidableEq

/-- An event as Core hands it to the callback. -/
structure OpenvpnConnect.CoreEvent extends OpenvpnConnect.Event where
  info : String
  deriving DecidableEq

structure OpenvpnConnect.Status where
  status : String
  message : String
  deriving DecidableEq

open OpenvpnConnect (Event CoreEvent Status)

/-- The callbacks of `EventHandler`. -/
inductive Callback where
  | log (text : String)
  | event (event : CoreEvent)
  deriving DecidableEq

structure DiagnosticState where
  receivedReply : Bool
  certificateFailed : Bool
  connected : Bool
  failure : Option String
  deriving DecidableEq

/-- `DiagnosticShared`: the state behind the lock and the notification beside it. -/
structure Diagnostics where
  state : DiagnosticState
  connected : Notify
  deriving DecidableEq

/-- `event_code`: a name that may be copied into a message. -/
def eventCode (name : String) : String :=
  if name ≠ "" ∧ name.utf8ByteSize ≤ 80 ∧
      name.toList.all (fun c => c.isUpper || c.isDigit || c == '_') then name
  else "OPENVPN_ERROR"

namespace Diagnostics

def new : Diagnostics := ⟨⟨false, false, false, none⟩, .new⟩

/-- The text of an error or fatal event. -/
def failureText (state : DiagnosticState) (name : String) : String :=
  if name = "AUTH_FAILED" then
    "AUTH_FAILED: the VPN server rejected authentication; check VPN credentials, MFA requirements and server policy"
  else if name = "CONNECTION_TIMEOUT" then
    if state.certificateFailed then
      "CONNECTION_TIMEOUT: VPN server certificate verification failed"
    else if !state.receivedReply then
      "CONNECTION_TIMEOUT: no reply received from the VPN server; check the remote address, port/protocol, network reachability and tls-auth/tls-crypt settings"
    else
      "CONNECTION_TIMEOUT: the VPN server replied, but connection setup did not complete before the timeout"
  else eventCode name ++ ": VPN connection failed"

/-- The match on the name of the event. -/
def progress (d : Diagnostics) (name : String) : Diagnostics :=
  if name = "CONNECTING" then { d with state := { d.state with receivedReply := true } }
  else if name = "CONNECTED" then
    { state := ⟨true, false, true, none⟩, connected := d.connected.notifyOne }
  else d

def record (d : Diagnostics) (event : Event) : Diagnostics :=
  let d := d.progress event.name
  if event.error || event.fatal then
    { d with state := { d.state with failure := some (failureText d.state event.name) } }
  else d

/-- `UserspaceVpn::log`: a certificate failure is recognised in a line of Core's log. -/
def log (d : Diagnostics) (text : String) : Diagnostics :=
  let lower := Text.toAsciiLowercase text
  if Text.contains lower "certificate verification failed" ||
      Text.contains lower "certificate verify failed" ||
      Text.contains lower "verify-x509-name did not match" then
    { d with state := { d.state with certificateFailed := true } }
  else d

def wasConnected (d : Diagnostics) : Bool := d.state.connected

/-- What `session_end` reads of the final status of Core. -/
def sessionEnd (d : Diagnostics) (status : String) : String :=
  match d.state.failure with
  | some failure => "VPN session ended: " ++ failure
  | none =>
    if d.state.certificateFailed then
      "VPN session ended: VPN server certificate verification failed"
    else if status ≠ "" then "VPN session ended: " ++ eventCode status
    else
      "VPN session ended without a reported error; run with --verbose to see connection events"

/-- `UserspaceVpn::log` and `UserspaceVpn::event`, in the order Core calls them. -/
def handle (d : Diagnostics) : Callback → Diagnostics
  | .log text => d.log text
  | .event event => d.record event.toEvent

/-- `Diagnostics::session_end`, after the callbacks of a session. -/
def sessionText (callbacks : List Callback) (status : Status) : String :=
  (callbacks.foldl handle new).sessionEnd status.status

variable {d : Diagnostics} {event : Event}

/-- The flag of `wait_connected` is raised by `CONNECTED` and never lowered. -/
@[simp] lemma record_wasConnected :
    (d.record event).wasConnected = (d.wasConnected || event.name == "CONNECTED") := by
  have hprogress : (d.progress event.name).wasConnected =
      (d.wasConnected || event.name == "CONNECTED") := by
    unfold progress wasConnected
    by_cases hconnecting : event.name = "CONNECTING"
    · simp [hconnecting]
    · by_cases hconnected : event.name = "CONNECTED"
      · simp [hconnected]
      · simp [hconnecting, hconnected]
  unfold record
  dsimp only
  split <;> exact hprogress

/-- The notification is sent by `CONNECTED`, in the step that raises the flag. -/
@[simp] lemma record_connected :
    (d.record event).connected =
      if event.name = "CONNECTED" then d.connected.notifyOne else d.connected := by
  have hprogress : (d.progress event.name).connected =
      if event.name = "CONNECTED" then d.connected.notifyOne else d.connected := by
    unfold progress
    by_cases hconnecting : event.name = "CONNECTING"
    · simp [hconnecting]
    · by_cases hconnected : event.name = "CONNECTED"
      · simp [hconnected]
      · simp [hconnecting, hconnected]
  unfold record
  dsimp only
  split <;> exact hprogress

@[simp] lemma log_wasConnected (text : String) : (d.log text).wasConnected = d.wasConnected := by
  unfold log
  dsimp only
  split <;> rfl

@[simp] lemma log_connected (text : String) : (d.log text).connected = d.connected := by
  unfold log
  dsimp only
  split <;> rfl

end Diagnostics

end Ovpnlane
