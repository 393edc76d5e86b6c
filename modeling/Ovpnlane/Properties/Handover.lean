import Ovpnlane.Properties.Resources
import Ovpnlane.Framework.History
import Ovpnlane.Framework.Ledger

/-!
# A reply is handed over until it is used

A request's reply is held by a lookup or by a flow, passes from the one to the other, and is used up
by an entry of the log: it is sent, or it goes out of scope (`Event.spent`).
`Handled held es held'` is the account of one operation: nothing is lost or duplicated, no deadline
changes, every use of a reply is justified by what was observed, and a reply whose receiver was seen
to be gone is used up.

Each visit of a step is a handover of the one reply it is about (`Dialed.handled`,
`LookupVisit.handled`, `FlowVisit.handled`); handovers compose and hold beside other replies, so
`step_handled` and `connect_handled` follow from the rules of `Properties/Resources.lean`.
-/

namespace Ovpnlane

variable {B : Backend}

/-! ## What an entry says about a reply -/

/-- The reply a call uses up, with the value that is sent. -/
def FlowCall.resolves : FlowCall B → List (Reply × Option B.Answer)
  | .sendReply _ reply answer _ => [(reply, some answer)]
  | _ => []

/-- A flow sends the connection when its socket is established. -/
def FlowCall.Justified : FlowCall B → Prop
  | .sendReply s _ answer _ => ∀ c, answer = .ok c → B.state s = .established
  | _ => True

/-- The reply whose receiver a call has seen to be gone. -/
def FlowCall.closedFor : FlowCall B → List Reply
  | .isClosed reply true => [reply]
  | _ => []

namespace Event

/-- The reply an entry uses up, with the value that is sent; `none` if it goes out of scope. -/
def resolves : Event B → List (Reply × Option B.Answer)
  | .sent reply answer _ => [(reply, some answer)]
  | .dropped reply _ => [(reply, none)]
  | .flow _ call => call.resolves
  | _ => []

def spent (e : Event B) : List Reply := e.resolves.map Prod.fst

def closedFor : Event B → List Reply
  | .observed reply true => [reply]
  | .flow _ call => call.closedFor
  | _ => []

/-- The request an entry accepts, with its deadline. -/
def accepts : Event B → List (Reply × Instant)
  | .accepted reply deadline => [(reply, deadline)]
  | _ => []

/-- Why a reply may be used up: outside a flow only an error is sent, and a reply goes out of scope
when its receiver is gone. -/
def Justified (pre : List (Event B)) : Event B → Prop
  | .sent _ answer _ => ∃ error, answer = .error error
  | .dropped reply cause => cause = .receiverClosed ∧ reply ∈ pre.flatMap closedFor
  | .flow _ call => call.Justified
  | _ => True

lemma Justified.mono {pre pre' : List (Event B)} {e : Event B} (h : Justified pre e)
    (hsub : pre ⊆ pre') : Justified pre' e := by
  cases e with
  | dropped reply cause =>
    refine ⟨h.1, ?_⟩
    obtain ⟨e, he, hr⟩ := List.mem_flatMap.mp h.2
    exact List.mem_flatMap.mpr ⟨e, hsub he, hr⟩
  | _ => exact h

/-- An entry that is about no reply. -/
def Quiet (e : Event B) : Prop :=
  e.resolves = [] ∧ e.closedFor = [] ∧ ∀ pre, Justified pre e

/-- An entry that uses up no reply and observes no receiver but that of `r`. -/
def Watches (r : Reply) (e : Event B) : Prop :=
  e.resolves = [] ∧ (∀ r' ∈ e.closedFor, r' = r) ∧ ∀ pre, Justified pre e

lemma Quiet.watches {e : Event B} (h : e.Quiet) (r : Reply) : e.Watches r :=
  ⟨h.1, by simp [h.2.1], h.2.2⟩

lemma quiet_of_isTransmitted {e : Event B} (h : e.isTransmitted = true) :
    e.Quiet ∧ e.accepts = [] := by
  cases e with
  | transmitted packet taken => exact ⟨⟨rfl, rfl, fun _ => trivial⟩, rfl⟩
  | _ => simp [isTransmitted] at h

@[simp] lemma accepts_flow (request : Reply) (calls : List (FlowCall B)) :
    (calls.map (Event.flow request)).flatMap accepts = [] := by
  simp [List.flatMap_map, accepts]

@[simp] lemma accepts_dropped (replies : List Reply) (cause : DropCause) :
    (replies.map fun r => (Event.dropped r cause : Event B)).flatMap accepts = [] := by
  simp [List.flatMap_map, accepts]

end Event

/-! ## Handovers -/

/-- The open request of a flow and its deadline. -/
def Flow.pending (f : Flow B) : List (Reply × Instant) := f.reply.toList.map (·, f.deadline)

/-- The open request of a lookup and its deadline. -/
def Lookup.pending (l : Lookup) : Reply × Instant := (l.reply, l.deadline)

/-- The open requests of lookups and flows. -/
def pendingOf (lookups : List Lookup) (flows : List (Flow B)) : List (Reply × Instant) :=
  lookups.map Lookup.pending ++ flows.flatMap Flow.pending

lemma pendingOf_append (lookups : List Lookup) (flows flows' : List (Flow B)) :
    (pendingOf lookups (flows ++ flows')).Perm
      (flows.flatMap Flow.pending ++ pendingOf lookups flows') := by
  rw [pendingOf, pendingOf, List.flatMap_append]
  exact List.perm_append_comm_assoc ..

/-- The open requests of an engine. -/
def Engine.pending (e : Engine B) : List (Reply × Instant) := pendingOf e.lookups e.flows

/-- The entries `es` account for the replies held before. -/
structure Handled (before : List (Reply × Instant)) (es : List (Event B))
    (after : List (Reply × Instant)) : Prop where
  accounts : Accounts Event.spent (before.map Prod.fst) es (after.map Prod.fst)
  /-- Whoever holds a request holds its deadline. -/
  deadlines : ∀ x ∈ after, x ∈ before
  justified : Each Event.Justified es
  settled : ∀ r ∈ es.flatMap Event.closedFor, r ∈ es.flatMap Event.spent

namespace Handled

variable {before mid after : List (Reply × Instant)} {es es' : List (Event B)}

/-- Entries that are about no reply. -/
lemma idle (held : List (Reply × Instant)) (h : ∀ e ∈ es, e.Quiet) : Handled held es held where
  accounts := .idle (List.flatMap_eq_nil_iff.mpr fun e he => by rw [Event.spent, (h e he).1]; rfl)
  deadlines := fun _ hx => hx
  justified := fun pre e post hes => (h e (by simp [hes])).2.2 pre
  settled := by
    intro r hr
    obtain ⟨e, he, hr⟩ := List.mem_flatMap.mp hr
    rw [(h e he).2.1] at hr
    exact absurd hr List.not_mem_nil

/-- Entries about one reply, the last of which uses it up. -/
lemma used {r : Reply} {deadline : Instant} {e : Event B} (hes : ∀ a ∈ es, a.Watches r)
    (hspent : e.spent = [r]) (hclosed : e.closedFor = []) (he : Event.Justified es e) :
    Handled [(r, deadline)] (es ++ [e]) [] where
  accounts := by
    have hnone : es.flatMap Event.spent = [] :=
      List.flatMap_eq_nil_iff.mpr fun a ha => by rw [Event.spent, (hes a ha).1]; rfl
    simp [Accounts, hnone, hspent]
  deadlines := by simp
  justified := each_concat.mpr
    ⟨fun pre a post hpre => (hes a (by simp [hpre])).2.2 pre, he⟩
  settled := by
    intro r' hr'
    rw [List.flatMap_append, List.mem_append] at hr' ⊢
    right
    rcases hr' with hr' | hr'
    · obtain ⟨a, ha, hr'⟩ := List.mem_flatMap.mp hr'
      simp [hspent, (hes a ha).2.1 r' hr']
    · simp [hclosed] at hr'

lemma trans (h : Handled before es mid) (h' : Handled mid es' after) :
    Handled before (es ++ es') after where
  accounts := h.accounts.trans h'.accounts
  deadlines := fun x hx => h.deadlines x (h'.deadlines x hx)
  justified := each_append.mpr ⟨h.justified,
    h'.justified.mono fun _ _ he => he.mono (List.subset_append_right _ _)⟩
  settled := by
    intro r hr
    rw [List.flatMap_append, List.mem_append] at hr ⊢
    exact hr.imp (h.settled r) (h'.settled r)

lemma perm {before' after' : List (Reply × Instant)} (h : Handled before es after)
    (hb : before'.Perm before) (ha : after.Perm after') : Handled before' es after' where
  accounts := h.accounts.perm (hb.map _) (ha.map _)
  deadlines := fun x hx => hb.mem_iff.mpr (h.deadlines x (ha.mem_iff.mpr hx))
  justified := h.justified
  settled := h.settled

/-- Beside requests nobody touches. -/
lemma frame (h : Handled before es after) (rest : List (Reply × Instant)) :
    Handled (before ++ rest) es (after ++ rest) where
  accounts := by
    rw [List.map_append, List.map_append]
    exact h.accounts.frame _
  deadlines := by
    intro x hx
    rw [List.mem_append] at hx ⊢
    exact hx.imp_left (h.deadlines x)
  justified := h.justified
  settled := h.settled

end Handled

/-! ## The calls of a poll -/

namespace Polling

/-- Whether a call is about the open request. -/
def isAnswering : FlowCall B → Bool
  | .isClosed .. | .sendReply .. => true
  | _ => false

/-- How a poll deals with the open request: the calls about it, and who holds it afterwards. -/
inductive Answering (p : Polling B) (now : Instant) :
    List (FlowCall B) → Option Reply → Bool → Prop
  | idle (keep : Bool) (hreply : p.flow.reply = none) : Answering p now [] none keep
  | gone (reply : Reply) (hreply : p.flow.reply = some reply) :
      Answering p now [.isClosed reply true] (some reply) false
  | sent (reply : Reply) (answer : B.Answer) (delivered keep : Bool)
      (hreply : p.flow.reply = some reply)
      (hok : ∀ c, answer = .ok c → B.state p.socket = .established) :
      Answering p now [.isClosed reply false, .sendReply p.socket reply answer delivered] none keep
  | waits (reply : Reply) (hreply : p.flow.reply = some reply) (hnow : now < p.flow.deadline) :
      Answering p now [.isClosed reply false] (some reply) true

/-- A relay whose request has been answered makes no call about it. -/
lemma relay_quiet {r r' : Relay B} {cs : List (FlowCall B)} (h : (relaySystem B).Run r cs r')
    (hreply : r.reply = none) : r'.reply = none ∧ ∀ c ∈ cs, isAnswering c = false := by
  induction h with
  | nil => exact ⟨hreply, by simp⟩
  | @snoc cs t u c _ hstep ih =>
    obtain ⟨ht, hcs⟩ := ih
    have hc : isAnswering c = false ∧ u.reply = none := by
      cases c with
      | isClosed reply closed => exact absurd (ht.symm.trans hstep.1) (by simp)
      | sendReply s reply answer delivered => exact absurd (ht.symm.trans hstep.2.1) (by simp)
      | recv s data wrote count =>
        obtain ⟨-, -, -, -, -, -, -, rfl⟩ := hstep
        exact ⟨rfl, ht⟩
      | recvError s =>
        obtain ⟨-, -, -, rfl⟩ := hstep
        exact ⟨rfl, ht⟩
      | shutdown s result =>
        obtain ⟨-, -, -, -, -, rfl⟩ := hstep
        exact ⟨rfl, ht⟩
      | send s room read count =>
        obtain ⟨-, -, -, -, -, -, -, rfl⟩ := hstep
        exact ⟨rfl, ht⟩
      | sendError s =>
        obtain ⟨-, -, -, rfl⟩ := hstep
        exact ⟨rfl, ht⟩
      | close s =>
        obtain ⟨-, -, rfl⟩ := hstep
        exact ⟨rfl, ht⟩
      | abort s =>
        obtain ⟨-, rfl⟩ := hstep
        exact ⟨rfl, ht⟩
    refine ⟨hc.2, fun d hd => ?_⟩
    rcases List.mem_append.mp hd with hd | hd
    · exact hcs d hd
    · rw [List.mem_singleton.mp hd]
      exact hc.1

/-- **How a poll deals with the open request.** -/
lemma PollStep.answering {p p' : Polling B} {now : Instant} {keep : Bool}
    (h : PollStep p now p' keep) :
    ∃ first rest, p'.calls = p.calls ++ (first ++ rest) ∧ Answering p now first p'.flow.reply keep ∧
      ∀ c ∈ rest, isAnswering c = false := by
  rcases h.moves with hq | ⟨q, hq, hmoves⟩
  · cases hq with
    | gone reply hreply hclosed =>
      exact ⟨[.isClosed reply true], [.abort p.socket],
        by simp [abort, note, isClosed, ← hclosed], hreply ▸ .gone reply hreply,
        by simp [isAnswering]⟩
    | failed reply kind delivered q hreply hclosed hsend =>
      obtain ⟨reply', hreply', -, rfl⟩ := sendReply_eq_ok hsend
      obtain rfl : reply = reply' := by simpa using hreply.symm.trans hreply'
      exact ⟨[.isClosed reply false, .sendReply p.socket reply
          (.error ⟨kind, "VPN TCP connection failed"⟩) delivered], [.abort p.socket],
        by simp [abort, note, isClosed, ← hclosed], .sent reply _ delivered false hreply (by simp),
        by simp [isAnswering]⟩
    | refused reply client q hreply hclosed hestablished hclient hsend =>
      obtain ⟨reply', hreply', -, rfl⟩ := sendReply_eq_ok hsend
      obtain rfl : reply = reply' := by simpa using hreply.symm.trans hreply'
      exact ⟨[.isClosed reply false, .sendReply p.socket reply
          (.ok ⟨client, p.flow.localAddr⟩) false], [.abort p.socket],
        by simp [abort, note, isClosed, takeClient, ← hclosed],
        .sent reply _ false false hreply (fun _ _ => hestablished), by simp [isAnswering]⟩
    | waits reply hreply hclosed hnow =>
      exact ⟨[.isClosed reply false], [], by simp [note, isClosed, ← hclosed],
        hreply ▸ .waits reply hreply hnow, by simp⟩
  · obtain ⟨more, hmore, hrun⟩ := Moves.leads hmoves hq.answered_of_none
    obtain ⟨hanswered, hquiet⟩ := relay_quiet hrun hq.answered_of_none
    have hreply : p'.flow.reply = none := hanswered
    rw [hreply]
    cases hq with
    | idle hidle => exact ⟨[], more, hmore, .idle keep hidle, hquiet⟩
    | answered reply client q hreply hclosed hestablished hclient hsend =>
      obtain ⟨reply', hreply', -, rfl⟩ := sendReply_eq_ok hsend
      obtain rfl : reply = reply' := by simpa using hreply.symm.trans hreply'
      exact ⟨[.isClosed reply false, .sendReply p.socket reply
          (.ok ⟨client, p.flow.localAddr⟩) true], more,
        by rw [hmore]; simp [note, isClosed, takeClient, touch, ← hclosed],
        .sent reply _ true keep hreply (fun _ _ => hestablished), hquiet⟩

end Polling

/-! ## The visits are handovers -/

namespace Polling

lemma quiet_of_not_answering {c : FlowCall B} (request : Reply) (h : isAnswering c = false) :
    (Event.flow request c).Quiet := by
  cases c with
  | isClosed reply closed | sendReply s reply answer delivered => simp [isAnswering] at h
  | _ => exact ⟨rfl, rfl, fun _ => trivial⟩

/-- The entries of a poll, with the reply that goes out of scope if the flow goes. -/
lemma Answering.handled {p : Polling B} {now : Instant} {first rest : List (FlowCall B)}
    {reply : Option Reply} {keep : Bool} (h : Answering p now first reply keep)
    (hrest : ∀ c ∈ rest, isAnswering c = false) (request : Reply) :
    Handled p.flow.pending
      ((first ++ rest).map (.flow request) ++
        (if keep then [] else reply.toList.map (.dropped · .receiverClosed)))
      (if keep then reply.toList.map (·, p.flow.deadline) else []) := by
  have hquiet : ∀ e ∈ rest.map (Event.flow request), e.Quiet := by
    intro e he
    obtain ⟨c, hc, rfl⟩ := List.mem_map.mp he
    exact quiet_of_not_answering request (hrest c hc)
  cases h with
  | idle _ hreply => simpa [Flow.pending, hreply] using Handled.idle [] hquiet
  | gone reply hreply =>
    have hwatch : ∀ a ∈ Event.flow request (.isClosed reply true) :: rest.map (.flow request),
        a.Watches reply := by
      refine List.forall_mem_cons.mpr ⟨⟨rfl, ?_, fun _ => trivial⟩,
        fun e he => (hquiet e he).watches reply⟩
      simp [Event.closedFor, FlowCall.closedFor]
    simpa [Flow.pending, hreply] using @Handled.used B _ reply p.flow.deadline
      (.dropped reply .receiverClosed) hwatch rfl rfl
      ⟨rfl, by simp [Event.closedFor, FlowCall.closedFor]⟩
  | sent reply answer delivered _ hreply hok =>
    have hwatch : ∀ a ∈ [Event.flow (B := B) request (.isClosed reply false)],
        a.Watches reply := by
      simp [Event.Watches, Event.resolves, FlowCall.resolves, Event.closedFor, FlowCall.closedFor,
        Event.Justified, FlowCall.Justified]
    have hsent := @Handled.used B _ reply p.flow.deadline
      (.flow request (.sendReply p.socket reply answer delivered)) hwatch rfl rfl hok
    simpa [Flow.pending, hreply] using hsent.trans (.idle [] hquiet)
  | waits reply hreply =>
    have hfirst : (Event.flow (B := B) request (.isClosed reply false)).Quiet :=
      ⟨rfl, rfl, fun _ => trivial⟩
    simpa [Flow.pending, hreply] using
      Handled.idle [(reply, p.flow.deadline)] (List.forall_mem_cons.mpr ⟨hfirst, hquiet⟩)

end Polling

namespace Machine

variable {C : NetContract B} {m m' : Machine B} {now : Instant}

/-- An error is sent for a request after some entries about it. -/
lemma handled_refused {reply : Reply} {deadline : Instant} {es : List (Event B)} {error : IoError}
    {delivered : Bool} (hes : ∀ a ∈ es, a.Watches reply) :
    Handled [(reply, deadline)] (es ++ [.sent reply (.error error) delivered]) [] :=
  .used hes rfl rfl ⟨error, rfl⟩

lemma watches_observed (reply : Reply) (closed : Bool) :
    (Event.observed (B := B) reply closed).Watches reply := by
  cases closed <;> simp [Event.Watches, Event.resolves, Event.closedFor, Event.Justified]

lemma quiet_query (reply : Reply) (name : String) (kind : DnsQueryType)
    (handle : Except String QueryHandle) : (Event.query (B := B) reply name kind handle).Quiet :=
  ⟨rfl, rfl, fun _ => trivial⟩

lemma Dialed.handled {ip : IpAddr} {port : ℕ} {reply : Reply} {deadline : Instant}
    (hd : Dialed C m ip port reply deadline m') :
    ∃ es new, m'.log = m.log ++ es ∧ m'.engine.flows = m.engine.flows ++ new ∧
      m'.engine.lookups = m.engine.lookups ∧
      Handled [(reply, deadline)] es (new.flatMap Flow.pending) ∧
        es.flatMap Event.accepts = [] := by
  have hquiet : ∀ e ∈ [Event.connectIp (B := B) reply ip port], e.Quiet :=
    List.forall_mem_singleton.mpr ⟨rfl, rfl, fun _ => trivial⟩
  cases hd with
  | refused net nextPort error delivered hinventory hnext hengine hlog =>
    exact ⟨_, [], hlog, by simp [hengine], by simp [hengine],
      handled_refused fun a ha => (hquiet a ha).watches reply, rfl⟩
  | opened net nextPort flow _ _ _ _ _ _ hreply _ _ hdeadline hengine hlog =>
    refine ⟨_, [flow], hlog, by simp [hengine], by simp [hengine], ?_, rfl⟩
    simpa [Flow.pending, hreply, hdeadline] using Handled.idle [(reply, deadline)] hquiet

/-- A visit of a lookup hands its request over. -/
lemma LookupVisit.handled {lookup : Lookup} {w : Verdict Lookup}
    (hv : LookupVisit C now m lookup m' w) :
    ∃ es new, m'.log = m.log ++ es ∧ m'.engine.flows = m.engine.flows ++ new ∧
      Handled [lookup.pending] es (w.rest.map Lookup.pending ++ new.flatMap Flow.pending) ∧
      es.flatMap Event.accepts = [] := by
  have hwatch : ∀ result, ∀ a ∈ [Event.observed (B := B) lookup.reply false,
      .queryResult lookup.reply lookup.query result], a.Watches lookup.reply := by
    intro result
    simpa using ⟨watches_observed lookup.reply false,
      Event.Quiet.watches (⟨rfl, rfl, fun _ => trivial⟩ :
        (Event.queryResult (B := B) lookup.reply lookup.query result).Quiet) lookup.reply⟩
  have hquiet : ∀ result, ∀ a ∈ [Event.observed (B := B) lookup.reply false,
      .queryResult lookup.reply lookup.query result], a.Quiet := by
    intro result
    simp [Event.Quiet, Event.resolves, Event.closedFor, Event.Justified]
  cases hv with
  | expired net closed error delivered _ hengine hlog =>
    exact ⟨_, [], hlog, by simp [hengine],
      @handled_refused B _ _ [_] _ _ (List.forall_mem_singleton.mpr (watches_observed _ closed)),
      rfl⟩
  | pending net _ _ hengine hlog =>
    exact ⟨_, [], hlog, by simp [hengine], .idle _ (hquiet .pending), rfl⟩
  | resolved m₁ net result ip _ _ hengine hlog hdial =>
    obtain ⟨es, new, hlog', hflows, -, hhandled, haccepts⟩ := hdial.handled
    refine ⟨_, new, by rw [hlog', hlog, List.append_assoc], by simp [hflows, hengine],
      (Handled.idle _ (hquiet result)).trans hhandled, ?_⟩
    simp [haccepts, Event.accepts]
  | failed net result events error delivered _ _ hengine hevents hlog =>
    rw [List.append_assoc, List.append_assoc, ← List.append_assoc _ events] at hlog
    refine ⟨_, [], hlog, by simp [hengine], handled_refused fun a ha => ?_, ?_⟩
    · rcases List.mem_append.mp ha with ha | ha
      · exact hwatch result a ha
      · rcases hevents with rfl | ⟨kind, text, rfl⟩
        · simp at ha
        · rw [List.mem_singleton.mp ha]
          exact (quiet_query ..).watches _
    · rcases hevents with rfl | ⟨kind, text, rfl⟩ <;> rfl
  | again freed net result kind query _ hfallback _ _ _ hengine hlog =>
    refine ⟨_, [], hlog, by simp [hengine], .idle _ ?_, rfl⟩
    simp [Event.Quiet, Event.resolves, Event.closedFor, Event.Justified]

/-- A lookup that stays is not too late. -/
lemma LookupVisit.timely {lookup kept : Lookup} (hv : LookupVisit C now m lookup m' (.keep kept)) :
    now < kept.deadline := by
  cases hv with
  | pending net hnow => exact hnow

/-- A visit of a flow hands its request over, and one that stays is not too late. -/
lemma FlowVisit.handled {flow : Flow B} {w : Verdict (Flow B)} (hv : FlowVisit C now m flow m' w) :
    ∃ es, m'.log = m.log ++ es ∧
      Handled flow.pending es (w.rest.flatMap Flow.pending) ∧ es.flatMap Event.accepts = [] ∧
      ∀ x ∈ w.rest.flatMap Flow.pending, now < x.2 := by
  cases hv with
  | kept socket p net hpoll _ _ hlog =>
    have hstep := Polling.poll_step hpoll
    obtain ⟨first, rest, hcalls, hanswering, hrest⟩ := hstep.answering
    have hdeadline : p.flow.deadline = flow.deadline := hstep.frame.2.2.1
    have hhandled := hanswering.handled hrest flow.request
    rw [show p.calls = first ++ rest from hcalls] at hlog
    refine ⟨_, hlog, by simpa [Verdict.rest, Flow.pending, hdeadline] using hhandled, by simp, ?_⟩
    intro x hx
    obtain ⟨reply, hreply, rfl⟩ : ∃ r, p.flow.reply = some r ∧ (r, p.flow.deadline) = x := by
      simpa [Verdict.rest, Flow.pending] using hx
    rw [hreply] at hanswering
    cases hanswering with
    | waits _ _ hnow => simpa [hdeadline] using hnow
  | dropped socket p net hpoll _ _ hlog =>
    obtain ⟨first, rest, hcalls, hanswering, hrest⟩ := (Polling.poll_step hpoll).answering
    have hhandled := hanswering.handled hrest flow.request
    rw [show p.calls = first ++ rest from hcalls, List.append_assoc] at hlog
    exact ⟨_, hlog, by simpa [Verdict.rest] using hhandled, by simp, by simp [Verdict.rest]⟩

/-! ## Steps and requests are handovers -/

/-- `s` is on the way of a step of `m` at the time `now`, with these requests open. -/
def Underway (m : Machine B) (now : Instant) (s : Machine B)
    (held : List (Reply × Instant)) : Prop :=
  ∃ es, s.log = m.log ++ es ∧ Handled m.engine.pending es held ∧
    es.flatMap Event.accepts = [] ∧ .stepAt now ∈ es

lemma Underway.extend {s s' : Machine B} {es : List (Event B)}
    {held before after rest : List (Reply × Instant)} (h : m.Underway now s held)
    (hlog : s'.log = s.log ++ es) (hes : Handled before es after)
    (haccepts : es.flatMap Event.accepts = []) (hheld : held.Perm (before ++ rest)) :
    m.Underway now s' (after ++ rest) := by
  obtain ⟨es₀, hlog₀, hhandled, haccepts₀, hstep⟩ := h
  exact ⟨es₀ ++ es, by rw [hlog, hlog₀, List.append_assoc],
    hhandled.trans ((hes.frame rest).perm hheld .rfl),
    by rw [List.flatMap_append, haccepts₀, haccepts]; rfl, List.mem_append_left _ hstep⟩

lemma Underway.perm {s : Machine B} {held held' : List (Reply × Instant)}
    (h : m.Underway now s held) (hp : held.Perm held') : m.Underway now s held' := by
  obtain ⟨es, hlog, hhandled, hes⟩ := h
  exact ⟨es, hlog, hhandled.perm .rfl hp, hes⟩

lemma LookupVisit.underway {s s' : Machine B} {v r : List Lookup} {lookup : Lookup}
    {w : Verdict Lookup} (hv : LookupVisit C now s lookup s' w)
    (h : m.Underway now s (pendingOf (v ++ lookup :: r) s.engine.flows)) :
    w.After (fun v r => m.Underway now s' (pendingOf (v ++ r) s'.engine.flows)) v r := by
  obtain ⟨es, new, hlog, hflows, hhandled, haccepts⟩ := hv.handled
  refine @Verdict.after_of_rest _ (fun l => m.Underway now s' (pendingOf l s'.engine.flows))
    (fun l l' hp hl => hl.perm ((hp.map _).append_right _)) v r w ?_
  have hbefore : (pendingOf (v ++ lookup :: r) s.engine.flows).Perm
      ([lookup.pending] ++ pendingOf (v ++ r) s.engine.flows) :=
    (List.perm_middle.map Lookup.pending).append_right _
  apply (h.extend hlog hhandled haccepts hbefore).perm
  rw [hflows]
  simpa [pendingOf, List.append_assoc] using
    (@List.perm_append_comm _ (new.flatMap Flow.pending)
      (pendingOf (v ++ r) s.engine.flows)).append_left (w.rest.map Lookup.pending)

lemma FlowVisit.underway {s s' : Machine B} {v r : List (Flow B)} {flow : Flow B}
    {w : Verdict (Flow B)} (hv : FlowVisit C now s flow s' w)
    (h : m.Underway now s (pendingOf s.engine.lookups (v ++ flow :: r))) :
    w.After (fun v r => m.Underway now s' (pendingOf s'.engine.lookups (v ++ r))) v r := by
  obtain ⟨es, hlog, hhandled, haccepts, -⟩ := hv.handled
  refine @Verdict.after_of_rest _ (fun l => m.Underway now s' (pendingOf s'.engine.lookups l))
    (fun l l' hp hl => hl.perm ((hp.flatMap_right _).append_left _)) v r w ?_
  have hmiddle := (@List.perm_middle _ flow v r).flatMap_right Flow.pending
  have hfirst := pendingOf_append s.engine.lookups [flow] (v ++ r)
  rw [List.flatMap_singleton] at hfirst
  apply (h.extend hlog hhandled haccepts ((hmiddle.append_left _).trans hfirst)).perm
  rw [hv.lookups]
  exact (pendingOf_append s.engine.lookups w.rest (v ++ r)).symm

/-- What the interface leaves alone. -/
lemma Serviced.pending (hs : Serviced C m m') :
    m'.engine.pending = m.engine.pending ∧
      ∃ es, m'.log = m.log ++ es ∧ ∀ e ∈ es, e.Quiet ∧ e.accepts = [] := by
  obtain ⟨net, device, events, hengine, -, hlog, hevents, -⟩ := hs
  exact ⟨by rw [hengine]; rfl, events, hlog,
    fun e he => Event.quiet_of_isTransmitted (hevents e he)⟩

/-- The state of the lookup loop: the lookups it has visited are not too late. -/
def LookupPhase (m : Machine B) (now : Instant) (s : Machine B) (v r : List Lookup) : Prop :=
  m.Underway now s (pendingOf (v ++ r) s.engine.flows) ∧ ∀ l ∈ v, now < l.deadline

/-- The state of the flow loop: neither the lookups nor the flows it has visited are too late. -/
def FlowPhase (m : Machine B) (now : Instant) (s : Machine B) (v r : List (Flow B)) : Prop :=
  m.Underway now s (pendingOf s.engine.lookups (v ++ r)) ∧
    (∀ l ∈ s.engine.lookups, now < l.deadline) ∧ ∀ x ∈ v.flatMap Flow.pending, now < x.2

lemma Serviced.lookupPhase {s : Machine B} (hs : Serviced C m s) :
    m.LookupPhase now ((s.note (.stepAt now)).setLookups []) [] s.engine.lookups := by
  obtain ⟨hpending, es, hlog, hes⟩ := hs.pending
  refine ⟨⟨es ++ [.stepAt now], by simp [note, setLookups, hlog], ?_, ?_, by simp⟩, by simp⟩
  · have hquiet : ∀ e ∈ es ++ [.stepAt now], e.Quiet := by
      intro e he
      rcases List.mem_append.mp he with he | he
      · exact (hes e he).1
      · rw [List.mem_singleton.mp he]
        exact ⟨rfl, rfl, fun _ => trivial⟩
    exact (Handled.idle _ hquiet).perm (.refl _) (.of_eq hpending.symm)
  · rw [List.flatMap_append, List.flatMap_eq_nil_iff.mpr fun e he => (hes e he).2]
    rfl

lemma LookupVisit.phase {s s' : Machine B} {v r : List Lookup} {lookup : Lookup}
    {w : Verdict Lookup} (hv : LookupVisit C now s lookup s' w)
    (h : m.LookupPhase now s v (lookup :: r)) : w.After (m.LookupPhase now s') v r := by
  apply (hv.underway h.1).and
  cases w with
  | keep kept =>
    intro l hl
    rcases List.mem_append.mp hl with hl | hl
    · exact h.2 l hl
    · rw [List.mem_singleton.mp hl]
      exact hv.timely
  | remove | requeue => exact fun _ _ => h.2

lemma LookupPhase.flowPhase {s : Machine B} {l : List Lookup} (h : m.LookupPhase now s l []) :
    m.FlowPhase now ((s.setLookups l).setFlows []) [] s.engine.flows := by
  obtain ⟨hunderway, hl⟩ := h
  rw [List.append_nil] at hunderway
  exact ⟨hunderway, hl, by simp⟩

lemma FlowVisit.phase {s s' : Machine B} {v r : List (Flow B)} {flow : Flow B}
    {w : Verdict (Flow B)} (hv : FlowVisit C now s flow s' w)
    (h : m.FlowPhase now s v (flow :: r)) : w.After (m.FlowPhase now s') v r := by
  obtain ⟨-, -, -, -, htimely⟩ := hv.handled
  apply (hv.underway h.1).and
  rw [hv.lookups]
  cases w with
  | keep kept =>
    refine ⟨h.2.1, fun x hx => ?_⟩
    rw [List.flatMap_append, List.mem_append] at hx
    exact hx.elim (h.2.2 x) (htimely x)
  | remove | requeue => exact fun _ _ => h.2

/-- **A step hands every reply over**, and the requests it leaves open are not too late. -/
theorem step_handled (h : m.engine.Valid C) :
    ∃ m' es now, m.step = .ok m' ∧ m'.engine.Valid C ∧ m'.log = m.log ++ es ∧
      Handled m.engine.pending es m'.engine.pending ∧ es.flatMap Event.accepts = [] ∧
      .stepAt now ∈ es ∧ ∀ x ∈ m'.engine.pending, now < x.2 := by
  obtain ⟨m', now, s, flows, hok, hvalid, ⟨hunderway, hlookups, hflows⟩, hserviced⟩ :=
    @step_rule B C m m.LookupPhase m.FlowPhase h (fun _ _ hs => hs.lookupPhase)
      (fun _ _ _ _ _ _ _ _ hphase hv => hv.phase hphase) (fun _ _ _ _ hphase => hphase.flowPhase)
      (fun _ _ _ _ _ _ _ _ hphase hv => hv.phase hphase)
  obtain ⟨hpending, es', hlog', hes'⟩ := hserviced.pending
  obtain ⟨es, hlog, hhandled, haccepts, hstep⟩ := hunderway
  rw [List.append_nil] at hhandled
  refine ⟨m', es ++ es', now, hok, hvalid, ?_, ?_, ?_, List.mem_append_left _ hstep, ?_⟩
  · rw [hlog', ← List.append_assoc, ← hlog]
    rfl
  · exact (hhandled.trans (.idle _ fun e he => (hes' e he).1)).perm .rfl (.of_eq hpending.symm)
  · rw [List.flatMap_append, haccepts, List.flatMap_eq_nil_iff.mpr fun e he => (hes' e he).2]
    rfl
  · rw [hpending]
    intro x hx
    rcases List.mem_append.mp hx with hx | hx
    · obtain ⟨l, hl, rfl⟩ := List.mem_map.mp hx
      exact hlookups l hl
    · exact hflows x hx

/-- **A request is handed over** with the deadline it is accepted with, if it is. -/
theorem connect_handled (h : m.engine.Valid C) (target : Target) (port : ℕ) (reply : Reply) :
    ∃ m' es deadline new, m.connect target port reply = .ok m' ∧ m'.engine.Valid C ∧
      m'.log = m.log ++ es ∧ m'.engine.pending.Perm (new ++ m.engine.pending) ∧
      Handled [(reply, deadline)] es new ∧
      (es.flatMap Event.accepts = [(reply, deadline)] ∨
        es.flatMap Event.accepts = [] ∧ new = []) := by
  obtain ⟨m', hok, hrequested, hvalid⟩ := connect_rule h target port reply
  have hwatch : ∀ deadline, ∀ a ∈ [Event.observed (B := B) reply false,
      .accepted reply deadline], a.Watches reply := by
    intro deadline
    simp [Event.Watches, Event.resolves, Event.closedFor, Event.Justified]
  have hquiet : ∀ deadline, ∀ a ∈ [Event.observed (B := B) reply false,
      .accepted reply deadline], a.Quiet := by
    intro deadline
    simp [Event.Quiet, Event.resolves, Event.closedFor, Event.Justified]
  cases hrequested with
  | gone hengine hlog =>
    refine ⟨m', _, 0, [], hok, hvalid, hlog, by simp [hengine], ?_, .inr ⟨rfl, rfl⟩⟩
    exact @Handled.used B [_] reply 0 (.dropped reply .receiverClosed)
      (List.forall_mem_singleton.mpr (watches_observed reply true)) rfl rfl
      ⟨rfl, by simp [Event.closedFor]⟩
  | full delivered _ hengine hlog =>
    refine ⟨m', _, 0, [], hok, hvalid, hlog, by simp [hengine], ?_, .inr ⟨rfl, rfl⟩⟩
    exact @handled_refused B _ _ [_] _ _
      (List.forall_mem_singleton.mpr (watches_observed reply false))
  | dialed m₁ deadline ip _ _ hengine hlog hdial =>
    obtain ⟨es, new, hlog', hflows, hlookups, hhandled, haccepts⟩ := hdial.handled
    refine ⟨m', _, deadline, new.flatMap Flow.pending, hok, hvalid,
      by rw [hlog', hlog, List.append_assoc], ?_, (Handled.idle _ (hquiet deadline)).trans hhandled,
      .inl (by simp [haccepts, Event.accepts])⟩
    rw [Engine.pending, hlookups, hflows, hengine]
    apply (List.Perm.append_left _ (List.perm_append_comm.flatMap_right _)).trans
    exact pendingOf_append m.engine.lookups new m.engine.flows
  | refused net deadline events error delivered _ _ hengine hevents hlog =>
    rw [List.append_assoc, List.append_assoc, ← List.append_assoc _ events] at hlog
    refine ⟨m', _, deadline, [], hok, hvalid, hlog, by simp [hengine, Engine.pending],
      handled_refused fun a ha => ?_, .inl ?_⟩
    · rcases List.mem_append.mp ha with ha | ha
      · exact hwatch deadline a ha
      · rcases hevents with rfl | ⟨name, kind, text, rfl⟩
        · simp at ha
        · rw [List.mem_singleton.mp ha]
          exact (quiet_query ..).watches _
    · rcases hevents with rfl | ⟨name, kind, text, rfl⟩ <;> rfl
  | lookedUp net lookup kind _ _ _ hreply hengine hlog =>
    refine ⟨m', _, lookup.deadline, [lookup.pending], hok, hvalid, hlog, ?_, ?_, .inl rfl⟩
    · rw [Engine.pending, hengine]
      exact ((List.perm_append_singleton _ _).map Lookup.pending).append_right _
    · rw [Lookup.pending, hreply]
      refine .idle _ ?_
      simp [Event.Quiet, Event.resolves, Event.closedFor, Event.Justified]

end Machine

end Ovpnlane
