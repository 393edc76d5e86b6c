import Ovpnlane.Construction.Diagnostics
import Ovpnlane.Framework.History
import Mathlib.Data.List.Forall2

/-!
# The final message of a session

`Diagnostics` keeps four flags of an unbounded history of events and log lines, and `session_end`
reads the message off them.  Here the message is described by the history itself.

* `copied`: what a message takes over of a name, which is what `event_code` returns
  (`eventCode_eq`).
* `Summary`: what the flags say of the history, kept by every callback (`summary_handle`).
* `Truthful`: the message as a function of the part of the history that counts, which starts with
  the last `CONNECTED`.
* `Discreet`: every message is a fixed text or carries one code of 1 to 80 plain characters.
* `session_message`: the message is truthful and discreet, and two sessions that differ only in
  what must not be copied get the same message.
-/

namespace Ovpnlane

open OpenvpnConnect (Event CoreEvent Status)

namespace Diagnostics

/-! ## Codes -/

/-- A code of 1 to 80 capital letters, digits and underscores. -/
def PlainCode (code : String) : Prop :=
  1 ≤ code.length ∧ code.length ≤ 80 ∧
    ∀ c ∈ code.toList, c.isUpper = true ∨ c.isDigit = true ∨ c = '_'

instance (code : String) : Decidable (PlainCode code) :=
  decidable_of_iff (1 ≤ code.length ∧ code.length ≤ 80 ∧
    code.toList.all (fun c => c.isUpper || c.isDigit || c == '_') = true)
    (by simp only [PlainCode, List.all_eq_true, Bool.or_eq_true, beq_iff_eq, or_assoc])

/-- What a message copies of a name: a plain code is copied, and any other name is left out. -/
def copied (name : String) : String := if PlainCode name then name else "OPENVPN_ERROR"

/-- A plain character takes one byte. -/
lemma utf8Size_plain {c : Char} (h : c.isUpper = true ∨ c.isDigit = true ∨ c = '_') :
    c.utf8Size = 1 := by
  rw [Char.utf8Size_eq_one_iff, UInt32.le_iff_toNat_le]
  rcases h with h | h | rfl
  · exact (of_decide_eq_true h).2.trans (by decide)
  · rw [Char.isDigit, Bool.and_eq_true] at h
    exact (UInt32.le_iff_toNat_le.mp (of_decide_eq_true h.2)).trans (by decide)
  · decide

lemma utf8ByteSize_plain {cs : List Char}
    (h : ∀ c ∈ cs, c.isUpper = true ∨ c.isDigit = true ∨ c = '_') :
    (String.ofList cs).utf8ByteSize = cs.length := by
  induction cs with
  | nil => rfl
  | cons c cs ih =>
    have hchar : (String.ofList [c]).utf8ByteSize = c.utf8Size := by
      rw [← String.singleton_eq_ofList, String.utf8ByteSize_singleton]
    rw [← List.singleton_append, String.ofList_append, String.utf8ByteSize_append, hchar,
      utf8Size_plain (h c (by simp)), ih fun d hd => h d (by simp [hd]), List.length_append,
      List.length_singleton]

/-- **`event_code` copies plain codes only.**  It measures the name in bytes, and a plain code has
as many bytes as characters. -/
lemma eventCode_eq (name : String) : eventCode name = copied name := by
  have hiff : (name ≠ "" ∧ name.utf8ByteSize ≤ 80 ∧
      name.toList.all (fun c => c.isUpper || c.isDigit || c == '_') = true) ↔ PlainCode name := by
    have hchars : name.toList.all (fun c => c.isUpper || c.isDigit || c == '_') = true ↔
        ∀ c ∈ name.toList, c.isUpper = true ∨ c.isDigit = true ∨ c = '_' := by
      simp [or_assoc]
    have hne : name ≠ "" ↔ 1 ≤ name.length := by
      rw [Nat.one_le_iff_ne_zero, Ne, Ne, String.length_eq_zero_iff]
    rw [hchars, hne, PlainCode]
    refine and_congr_right fun _ => and_congr_left fun hplain => ?_
    have hsize := utf8ByteSize_plain hplain
    rw [String.ofList_toList, String.length_toList] at hsize
    rw [hsize]
  unfold eventCode copied
  simp only [hiff]

/-! ## Reading a history -/

/-- A log line that tells of a failed certificate check. -/
def certificateLine (text : String) : Bool :=
  let lower := Text.toAsciiLowercase text
  Text.contains lower "certificate verification failed" ||
    Text.contains lower "certificate verify failed" ||
    Text.contains lower "verify-x509-name did not match"

/-- The callback reports a failed certificate check. -/
def certificateFailure : Callback → Bool
  | .log text => certificateLine text
  | .event _ => false

/-- The callback is the event of this name. -/
def named (name : String) : Callback → Bool
  | .log _ => false
  | .event event => event.name == name

/-- The callback shows that the server has replied. -/
def reply (callback : Callback) : Bool := named "CONNECTING" callback || named "CONNECTED" callback

/-- The callback is an error or a fatal event. -/
def failed : Callback → Bool
  | .log _ => false
  | .event event => event.error || event.fatal

/-- The part of the history that counts, from the last `CONNECTED` on. -/
def sinceConnected (callbacks : List Callback) : List Callback :=
  sinceLast (named "CONNECTED") callbacks

/-- What a connection timeout is attributed to. -/
inductive TimeoutCause where
  | certificate
  | noReply
  | incompleteHandshake
  deriving DecidableEq

def TimeoutCause.text : TimeoutCause → String
  | .certificate => "CONNECTION_TIMEOUT: VPN server certificate verification failed"
  | .noReply =>
    "CONNECTION_TIMEOUT: no reply received from the VPN server; check the remote address, port/protocol, network reachability and tls-auth/tls-crypt settings"
  | .incompleteHandshake =>
    "CONNECTION_TIMEOUT: the VPN server replied, but connection setup did not complete before the timeout"

/-- The attribution of a timeout, from the part that counts before it and the whole history
before it. -/
def timeoutCause (part before : List Callback) : TimeoutCause :=
  if part.any certificateFailure then .certificate
  else if !before.any reply then .noReply
  else .incompleteHandshake

/-- The report of a failure with another name. -/
def failureReport (name : String) : String :=
  if name = "AUTH_FAILED" then
    "AUTH_FAILED: the VPN server rejected authentication; check VPN credentials, MFA requirements and server policy"
  else copied name ++ ": VPN connection failed"

/-- The report of the failure `name`. -/
def reportOf (name : String) (part before : List Callback) : String :=
  if name = "CONNECTION_TIMEOUT" then (timeoutCause part before).text else failureReport name

lemma failureText_eq (state : DiagnosticState) (name : String) (part before : List Callback)
    (hcertificate : state.certificateFailed = part.any certificateFailure)
    (hreply : state.receivedReply = before.any reply) :
    failureText state name = reportOf name part before := by
  unfold failureText reportOf failureReport timeoutCause
  rw [hcertificate, hreply, eventCode_eq]
  by_cases hauth : name = "AUTH_FAILED"
  · subst hauth
    simp
  · by_cases htimeout : name = "CONNECTION_TIMEOUT"
    · subst htimeout
      simp only [if_true, String.reduceEq, if_false]
      by_cases hpart : part.any certificateFailure = true
      · simp [hpart, TimeoutCause.text]
      · by_cases hbefore : before.any reply = true <;> simp [hpart, hbefore, TimeoutCause.text]
    · simp [hauth, htimeout]

/-! ## What the flags say -/

/-- The flags, by the history. -/
structure Summary (callbacks : List Callback) (state : DiagnosticState) : Prop where
  reply : state.receivedReply = callbacks.any reply
  certificate : state.certificateFailed = (sinceConnected callbacks).any certificateFailure
  failure : ∀ before pre event, callbacks = before ++ sinceConnected callbacks →
    LastOf failed (sinceConnected callbacks) pre (.event event) →
    state.failure = some (reportOf event.name pre (before ++ pre))
  clear : (∀ callback ∈ sinceConnected callbacks, failed callback = false) → state.failure = none

lemma summary_new : Summary [] new.state where
  reply := rfl
  certificate := rfl
  failure := fun _ _ _ _ hlast => absurd hlast not_lastOf_nil
  clear := fun _ => rfl

variable {callbacks : List Callback} {d : Diagnostics}

/-- A callback other than `CONNECTED` adds to every flag. -/
lemma Summary.extend {state state' : DiagnosticState} {callback : Callback}
    (h : Summary callbacks state) (hother : named "CONNECTED" callback = false)
    (hreply : state'.receivedReply = (state.receivedReply || Diagnostics.reply callback))
    (hcertificate : state'.certificateFailed =
      (state.certificateFailed || certificateFailure callback))
    (hkept : failed callback = false → state'.failure = state.failure)
    (hfailed : ∀ event, callback = .event event → failed callback = true →
      state'.failure = some (reportOf event.name (sinceConnected callbacks) callbacks)) :
    Summary (callbacks ++ [callback]) state' := by
  have hsince : sinceConnected (callbacks ++ [callback]) =
      sinceConnected callbacks ++ [callback] := by
    rw [sinceConnected, sinceLast_concat, hother]
    rfl
  constructor
  · rw [hreply, h.reply, List.any_append]
    simp
  · rw [hcertificate, h.certificate, hsince, List.any_append]
    simp
  · intro before pre event hsplit hlast
    rw [hsince, ← List.append_assoc] at hsplit
    have hbefore : callbacks = before ++ sinceConnected callbacks :=
      List.append_inj_left' hsplit rfl
    rw [hsince] at hlast
    rcases lastOf_concat.mp hlast with ⟨hfail, rfl, hevent⟩ | ⟨hfail, hlast⟩
    · rw [← hbefore]
      exact hfailed event hevent.symm hfail
    · rw [hkept hfail]
      exact h.failure before pre event hbefore hlast
  · intro hclear
    rw [hsince] at hclear
    rw [hkept (hclear callback (by simp))]
    exact h.clear fun other hother => hclear other (by simp [hother])

lemma Summary.log (h : Summary callbacks d.state) (text : String) :
    Summary (callbacks ++ [.log text]) (d.log text).state := by
  have hlog : (d.log text).state = ⟨d.state.receivedReply,
      d.state.certificateFailed || certificateLine text, d.state.connected, d.state.failure⟩ := by
    unfold Diagnostics.log
    by_cases hline : certificateLine text = true
    · rw [hline, Bool.or_true]
      exact congrArg Diagnostics.state (if_pos hline)
    · rw [Bool.not_eq_true] at hline
      rw [hline, Bool.or_false]
      exact congrArg Diagnostics.state (if_neg (Bool.eq_false_iff.mp hline))
  refine h.extend rfl ?_ ?_ ?_ ?_
  · simp [hlog, Diagnostics.reply, named]
  · simp [hlog, certificateFailure]
  · intro _
    rw [hlog]
  · intro event hevent
    simp at hevent

/-- An event other than `CONNECTED`. -/
lemma Summary.event (h : Summary callbacks d.state) {event : CoreEvent}
    (hother : event.name ≠ "CONNECTED") :
    Summary (callbacks ++ [.event event]) (d.record event.toEvent).state := by
  have hprogress : (d.progress event.name).state =
      ⟨d.state.receivedReply || event.name == "CONNECTING", d.state.certificateFailed,
        d.state.connected, d.state.failure⟩ := by
    unfold progress
    by_cases hconnecting : event.name = "CONNECTING"
    · simp [hconnecting]
    · rw [if_neg hconnecting, if_neg hother, beq_eq_false_iff_ne.mpr hconnecting, Bool.or_false]
  have htext : failureText (d.progress event.name).state event.name =
      reportOf event.name (sinceConnected callbacks) callbacks := by
    by_cases htimeout : event.name = "CONNECTION_TIMEOUT"
    · refine failureText_eq _ _ _ _ ?_ ?_
      · rw [hprogress]
        exact h.certificate
      · rw [hprogress, htimeout]
        exact (Bool.or_false _).trans h.reply
    · simp only [failureText, reportOf, failureReport, htimeout, if_false, eventCode_eq]
  have hrecord : (d.record event.toEvent).state =
      ⟨d.state.receivedReply || event.name == "CONNECTING", d.state.certificateFailed,
        d.state.connected, if event.error || event.fatal then
          some (reportOf event.name (sinceConnected callbacks) callbacks)
        else d.state.failure⟩ := by
    unfold record
    dsimp only
    by_cases hfail : (event.error || event.fatal) = true
    · rw [if_pos hfail, if_pos hfail, htext, hprogress]
    · rw [if_neg hfail, if_neg hfail, hprogress]
  refine h.extend (by simpa [named] using hother) ?_ ?_ ?_ ?_
  · rw [hrecord, Diagnostics.reply, named, named, beq_eq_false_iff_ne.mpr hother, Bool.or_false]
  · simp [hrecord, certificateFailure]
  · intro hfail
    rw [hrecord]
    exact if_neg (by simpa [failed] using hfail)
  · rintro other hsame hfail
    obtain rfl := Callback.event.inj hsame
    rw [hrecord]
    exact if_pos hfail

/-- `CONNECTED` starts the part that counts. -/
lemma Summary.connected {event : CoreEvent} (hname : event.name = "CONNECTED") :
    Summary (callbacks ++ [.event event]) (d.record event.toEvent).state := by
  have hsince : sinceConnected (callbacks ++ [.event event]) = [.event event] := by
    rw [sinceConnected, sinceLast_concat]
    simp [named, hname]
  have hrecord : (d.record event.toEvent).state = ⟨true, false, true,
      if event.error || event.fatal then some (failureReport "CONNECTED") else none⟩ := by
    unfold record progress
    by_cases hfail : (event.error || event.fatal) = true <;>
      simp [hname, hfail, failureText, failureReport, eventCode_eq]
  constructor
  · simp [hrecord, Diagnostics.reply, named, hname]
  · rw [hsince, hrecord]
    rfl
  · intro before pre other _ hlast
    rw [hsince] at hlast
    rcases (@lastOf_concat _ _ [] _ _ _).mp hlast with ⟨hfail, rfl, hsame⟩ | ⟨-, hlast⟩
    · obtain rfl := Callback.event.inj hsame
      have hreport : reportOf other.name [] (before ++ []) = failureReport "CONNECTED" := by
        rw [reportOf, hname]
        exact if_neg (by decide)
      rw [hrecord, hreport]
      exact if_pos hfail
    · exact absurd hlast not_lastOf_nil
  · intro hclear
    rw [hsince] at hclear
    rw [hrecord]
    exact if_neg (by simpa [failed] using hclear)

/-- **The flags after any history.** -/
theorem summary_handle (callbacks : List Callback) :
    Summary callbacks (callbacks.foldl handle new).state := by
  induction callbacks using List.reverseRecOn with
  | nil => exact summary_new
  | append_singleton callbacks callback ih =>
    rw [List.foldl_append, List.foldl_cons, List.foldl_nil]
    cases callback with
    | log text => exact ih.log text
    | event event =>
      by_cases hname : event.name = "CONNECTED"
      · exact Summary.connected hname
      · exact ih.event hname

/-! ## The message -/

/-- The message by the history.  A failure is reported with the part that counts before it and the
whole history before it. -/
structure Truthful (callbacks : List Callback) (status : Status) (text : String) : Prop where
  failure : ∀ before pre event, callbacks = before ++ sinceConnected callbacks →
    LastOf failed (sinceConnected callbacks) pre (.event event) →
    text = "VPN session ended: " ++ reportOf event.name pre (before ++ pre)
  certificate : (∀ callback ∈ sinceConnected callbacks, failed callback = false) →
    (∃ callback ∈ sinceConnected callbacks, certificateFailure callback = true) →
    text = "VPN session ended: VPN server certificate verification failed"
  status : (∀ callback ∈ sinceConnected callbacks, failed callback = false) →
    (∀ callback ∈ sinceConnected callbacks, certificateFailure callback = false) →
    text = if status.status ≠ "" then "VPN session ended: " ++ copied status.status else
      "VPN session ended without a reported error; run with --verbose to see connection events"

lemma sessionText_truthful (callbacks : List Callback) (status : Status) :
    Truthful callbacks status (sessionText callbacks status) := by
  have hsummary := summary_handle callbacks
  constructor
  · intro before pre event hbefore hlast
    rw [sessionText, sessionEnd, hsummary.failure before pre event hbefore hlast]
  · intro hclear hcertificate
    have hflag := hsummary.certificate.trans (List.any_eq_true.mpr hcertificate)
    rw [sessionText, sessionEnd, hsummary.clear hclear]
    exact if_pos hflag
  · intro hclear hcertificate
    have hflag := hsummary.certificate.trans
      (List.any_eq_false.mpr fun callback hmem => Bool.eq_false_iff.mp (hcertificate callback hmem))
    rw [sessionText, sessionEnd, hsummary.clear hclear, eventCode_eq]
    exact if_neg (Bool.eq_false_iff.mp hflag)

/-! ## What is copied -/

lemma copied_plain (name : String) : PlainCode (copied name) := by
  unfold copied
  split
  · assumption
  · decide

/-- The messages that copy nothing. -/
def fixedTexts : List String :=
  ["VPN session ended: " ++ failureReport "AUTH_FAILED",
    "VPN session ended: " ++ TimeoutCause.certificate.text,
    "VPN session ended: " ++ TimeoutCause.noReply.text,
    "VPN session ended: " ++ TimeoutCause.incompleteHandshake.text,
    "VPN session ended: VPN server certificate verification failed",
    "VPN session ended without a reported error; run with --verbose to see connection events"]

/-- A message copies one plain code at most. -/
inductive Discreet : String → Prop
  | fixed {text : String} : text ∈ fixedTexts → Discreet text
  | failure {code : String} :
    PlainCode code → Discreet ("VPN session ended: " ++ (code ++ ": VPN connection failed"))
  | status {code : String} : PlainCode code → Discreet ("VPN session ended: " ++ code)

lemma reportOf_discreet (name : String) (part before : List Callback) :
    Discreet ("VPN session ended: " ++ reportOf name part before) := by
  unfold reportOf
  by_cases htimeout : name = "CONNECTION_TIMEOUT"
  · rw [if_pos htimeout]
    apply Discreet.fixed
    cases timeoutCause part before <;> simp [fixedTexts]
  · rw [if_neg htimeout]
    by_cases hauth : name = "AUTH_FAILED"
    · rw [hauth]
      exact .fixed (by simp [fixedTexts])
    · rw [failureReport, if_neg hauth]
      exact .failure (copied_plain name)

lemma Truthful.discreet {callbacks : List Callback} {status : Status} {text : String}
    (h : Truthful callbacks status text) : Discreet text := by
  by_cases hfailed : ∃ callback ∈ sinceConnected callbacks, failed callback = true
  · obtain ⟨pre, callback, hlast⟩ := exists_lastOf hfailed
    obtain ⟨before, hbefore⟩ := sinceLast_suffix (p := named "CONNECTED") callbacks
    cases callback with
    | log line => exact absurd hlast.holds (by simp [failed])
    | event event =>
      rw [h.failure before pre event hbefore.symm hlast]
      exact reportOf_discreet _ _ _
  · have hclear : ∀ callback ∈ sinceConnected callbacks, failed callback = false := by
      intro callback hmem
      exact Bool.eq_false_iff.mpr fun hfail => hfailed ⟨callback, hmem, hfail⟩
    by_cases hcertificate : ∃ callback ∈ sinceConnected callbacks,
        certificateFailure callback = true
    · rw [h.certificate hclear hcertificate]
      exact .fixed (by simp [fixedTexts])
    · rw [h.status hclear fun callback hmem =>
        Bool.eq_false_iff.mpr fun hline => hcertificate ⟨callback, hmem, hline⟩]
      split
      · exact .status (copied_plain _)
      · exact .fixed (by simp [fixedTexts])

/-! ## What is not copied -/

/-- The callbacks differ at most in the payload of an event, or in what a log line says beyond a
failed certificate check. -/
def Alike : Callback → Callback → Prop
  | .log text, .log text' => certificateLine text = certificateLine text'
  | .event event, .event event' => event.toEvent = event'.toEvent
  | _, _ => False

lemma handle_alike (d : Diagnostics) {callback callback' : Callback}
    (h : Alike callback callback') : d.handle callback = d.handle callback' := by
  cases callback with
  | log text =>
    cases callback' with
    | log text' =>
      have hline : certificateLine text = certificateLine text' := h
      unfold certificateLine at hline
      simp only [handle, log, hline]
    | event event' => exact h.elim
  | event event =>
    cases callback' with
    | log text' => exact h.elim
    | event event' => exact congrArg d.record h

lemma foldl_handle_alike {callbacks callbacks' : List Callback}
    (h : List.Forall₂ Alike callbacks callbacks') (d : Diagnostics) :
    callbacks.foldl handle d = callbacks'.foldl handle d := by
  induction h generalizing d with
  | nil => rfl
  | cons hhead _ ih => rw [List.foldl_cons, List.foldl_cons, handle_alike d hhead, ih]

/-- **The final message of a session** is the true cause of its history, carries at most one plain
code, and does not depend on payloads, status messages or the other content of log lines. -/
theorem session_message (callbacks : List Callback) (status : Status) :
    Truthful callbacks status (sessionText callbacks status) ∧
      Discreet (sessionText callbacks status) ∧
      ∀ callbacks' status', List.Forall₂ Alike callbacks callbacks' →
        status.status = status'.status →
        sessionText callbacks status = sessionText callbacks' status' := by
  have htruthful := sessionText_truthful callbacks status
  refine ⟨htruthful, htruthful.discreet, fun callbacks' status' halike hstatus => ?_⟩
  rw [sessionText, sessionText, foldl_handle_alike halike, hstatus]

end Diagnostics

end Ovpnlane
