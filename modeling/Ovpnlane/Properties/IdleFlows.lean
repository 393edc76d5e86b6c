import Ovpnlane.Framework.History
import Ovpnlane.Properties.Resets
import Ovpnlane.Properties.SocksLimit

/-!
# Idle connections

The idle timeout of a flow is counted from its last byte, in either direction, or from the moment
its client was given the stream.  `LastMoved` reads that moment off the log, and `Marked` says that
the field `activity` of every answered flow is this moment.  So no timeout comes too early: a poll
that starts with an abort is one of a flow that was idle for that long.  And none is skipped: after
a step no answered flow is left that has been.
-/

namespace Ovpnlane

variable {B : Backend}

/-! ## What counts as activity -/

/-- Bytes have moved, or the client has its stream. -/
def FlowCall.moved : FlowCall B → Bool
  | .sendReply _ _ (.ok _) delivered => delivered
  | .recv _ _ _ count | .send _ _ _ count => count != 0
  | _ => false

/-- The flow of a request was active. -/
def Event.moves (r : Reply) : Event B → Bool
  | .flow request call => request == r && call.moved
  | _ => false

def Event.stepTime : Event B → Option Instant
  | .stepAt now => some now
  | _ => none

/-- The time of the last step that was begun. -/
def lastStep (log : List (Event B)) : Option Instant := (log.filterMap Event.stepTime).getLast?

/-- The flow of a request was last active in the step of this time. -/
def LastMoved (log : List (Event B)) (r : Reply) (t : Instant) : Prop :=
  ∃ pre e, LastOf (Event.moves r) log pre e ∧ lastStep pre = some t

section Logs

variable {log more : List (Event B)} {r : Reply} {t now : Instant}

lemma LastMoved.append (h : LastMoved log r t) (hmore : ∀ e ∈ more, e.moves r = false) :
    LastMoved (log ++ more) r t := by
  obtain ⟨pre, e, hlast, hstep⟩ := h
  exact ⟨pre, e, hlast.append hmore, hstep⟩

lemma lastStep_append (hmore : ∀ e ∈ more, e.stepTime = none) :
    lastStep (log ++ more) = lastStep log := by
  rw [lastStep, List.filterMap_append, List.filterMap_eq_nil_iff.mpr hmore,
    List.append_nil, lastStep]

lemma lastStep_stepAt (log : List (Event B)) : lastStep (log ++ [.stepAt now]) = some now := by
  simp [lastStep, Event.stepTime]

/-- The calls of a poll in a step. -/
lemma LastMoved.of_calls {calls : List (FlowCall B)} (hstep : lastStep log = some now)
    (hmoved : calls.any FlowCall.moved = true) :
    LastMoved (log ++ calls.map (.flow r)) r now := by
  obtain ⟨call, hcall, hmoves⟩ := List.any_eq_true.mp hmoved
  have hexists : ∃ e ∈ calls.map (Event.flow r), e.moves r = true :=
    ⟨_, List.mem_map_of_mem hcall, by simp [Event.moves, hmoves]⟩
  obtain ⟨pre, e, post, hsplit, he, hpost⟩ := exists_lastOf hexists
  refine ⟨log ++ pre, e, ⟨post, by rw [hsplit, List.append_assoc], he, hpost⟩, ?_⟩
  refine (lastStep_append fun e' he' => ?_).trans hstep
  have hmem : e' ∈ calls.map (Event.flow r) := by
    rw [hsplit]
    exact List.mem_append_left _ he'
  obtain ⟨_, -, rfl⟩ := List.mem_map.mp hmem
  rfl

end Logs

/-! ## A poll -/

namespace Polling

variable {p p' q : Polling B} {now idleTimeout : Instant}

/-- From one place in a poll to a later one: the flow is active now if bytes have moved, and the
first call is no abort. -/
structure Aged (now : Instant) (p q : Polling B) (made : List (FlowCall B)) : Prop where
  calls : q.calls = p.calls ++ made
  activity : q.flow.activity = if made.any FlowCall.moved then now else p.flow.activity
  reply : q.flow.reply = p.flow.reply
  first : ∀ s rest, made ≠ .abort s :: rest

lemma Aged.refl (now : Instant) (p : Polling B) : Aged now p p [] :=
  ⟨(List.append_nil _).symm, rfl, rfl, by simp⟩

lemma Aged.trans {made made' : List (FlowCall B)} (h : Aged now p q made)
    (h' : Aged now q p' made') : Aged now p p' (made ++ made') where
  calls := by rw [h'.calls, h.calls, List.append_assoc]
  activity := by
    rw [h'.activity, h.activity, List.any_append]
    cases made.any FlowCall.moved <;> cases made'.any FlowCall.moved <;> rfl
  reply := h'.reply.trans h.reply
  first s rest := by
    cases made with
    | nil => exact h'.first s rest
    | cons call made =>
      intro heq
      exact h.first s made (by rw [(List.cons.inj heq).1])

/-- An abort that is not the first call. -/
lemma Aged.abort {made : List (FlowCall B)} (h : Aged now p q made) (hne : made ≠ []) :
    Aged now p q.abort (made ++ [.abort q.socket]) where
  calls := by rw [Polling.abort, note, h.calls, List.append_assoc]
  activity := by
    have hactivity : q.abort.flow.activity = q.flow.activity := rfl
    rw [hactivity, h.activity, List.any_append]
    simp [FlowCall.moved]
  reply := h.reply
  first s rest := by
    cases made with
    | nil => exact absurd rfl hne
    | cons call made =>
      intro heq
      exact h.first s made (by rw [(List.cons.inj heq).1])

/-- A part of a poll that goes on, or has made a call and is ended by an abort. -/
def Ages (now : Instant) (p : Polling B) (out : Polling B × Bool) : Prop :=
  ∃ made, Aged now p out.1 made ∧ (out.2 = false → made ≠ [])

lemma ages_through {made : List (FlowCall B)} (h : Aged now p q made) : Ages now p (q, true) :=
  ⟨made, h, by simp⟩

lemma ages_aborted {made : List (FlowCall B)} (h : Aged now p q made) (hne : made ≠ []) :
    Ages now p (q.abort, false) :=
  ⟨_, h.abort hne, by simp⟩

lemma Aged.ages {made : List (FlowCall B)} {out : Polling B × Bool} (h : Aged now p q made)
    (hout : Ages now q out) : Ages now p out := by
  obtain ⟨made', hmade', hne⟩ := hout
  refine ⟨made ++ made', h.trans hmade', fun hfalse hnil => hne hfalse ?_⟩
  exact (List.append_eq_nil_iff.mp hnil).2

/-- The write of a slice moves bytes, and the activity is noted, or it does not. -/
lemma aged_recv (now : Instant) (p : Polling B) (data : List UInt8) :
    match p.recv data with
    | (.ok (_ + 1), q) => ∃ call, Aged now p (q.touch now) [call]
    | (.ok 0, q) | (.error _, q) => ∃ call, Aged now p q [call] := by
  unfold recv
  rcases B.pollWrite p.flow.bridge data with ⟨(_ | _ | count) | _, bridge⟩ <;>
    exact ⟨_, rfl, by simp [FlowCall.moved, touch, note], rfl, by simp⟩

lemma ages_socketToBridge (now : Instant) (rounds : ℕ) (p : Polling B) :
    Ages now p (p.socketToBridge now rounds) := by
  induction rounds generalizing p with
  | zero => exact ages_through (.refl now p)
  | succ rounds ih =>
    unfold socketToBridge
    split_ifs with hguard
    · exact ages_through (.refl now p)
    split
    · have hnoted : Aged now p (p.note (.recvError p.socket)) [.recvError p.socket] :=
        ⟨rfl, rfl, rfl, by simp⟩
      exact ages_aborted hnoted (by simp)
    · next data hslice =>
      have hrecv := aged_recv now p data
      generalize p.recv data = out at hrecv
      match out with
      | (.ok (_ + 1), q) =>
        obtain ⟨call, hcall⟩ := hrecv
        exact hcall.ages (ih _)
      | (.ok 0, q) =>
        obtain ⟨call, hcall⟩ := hrecv
        exact ages_through hcall
      | (.error _, q) =>
        obtain ⟨call, hcall⟩ := hrecv
        exact ages_aborted hcall (by simp)

lemma ages_shutdownBridge (now : Instant) (p : Polling B) : Ages now p p.shutdownBridge := by
  unfold shutdownBridge
  split_ifs
  · have hcall : Aged now p p.shutdown [.shutdown p.socket (B.pollShutdown p.flow.bridge).1] :=
      ⟨rfl, rfl, rfl, by simp⟩
    split
    · exact ages_through ⟨hcall.calls, hcall.activity, hcall.reply, hcall.first⟩
    · exact ages_aborted hcall (by simp)
    · exact ages_through hcall
  · exact ages_through (.refl now p)

/-- The read into a slice. -/
lemma aged_send (now : Instant) (p : Polling B) (room : ℕ) :
    match p.send room with
    | (.ok (some (_ + 1)), q) => ∃ call, Aged now p (q.touch now) [call]
    | (.ok (some 0), q) | (.ok none, q) | (.error _, q) => ∃ call, Aged now p q [call] := by
  unfold send
  rcases B.pollRead p.flow.bridge room with ⟨(_ | _ | _) | _, bridge⟩ <;>
    exact ⟨_, rfl, by simp [FlowCall.moved, touch, note], rfl, by simp⟩

lemma ages_bridgeToSocket (now : Instant) (rounds : ℕ) (p : Polling B) :
    Ages now p (p.bridgeToSocket now rounds) := by
  induction rounds generalizing p with
  | zero => exact ages_through (.refl now p)
  | succ rounds ih =>
    unfold bridgeToSocket
    split_ifs with hguard
    · exact ages_through (.refl now p)
    split
    · have hnoted : Aged now p (p.note (.sendError p.socket)) [.sendError p.socket] :=
        ⟨rfl, rfl, rfl, by simp⟩
      exact ages_aborted hnoted (by simp)
    · next room hslice =>
      have hsend := aged_send now p room
      generalize p.send room = out at hsend
      match out with
      | (.ok (some (_ + 1)), q) =>
        obtain ⟨call, hcall⟩ := hsend
        exact hcall.ages (ih _)
      | (.ok (some 0), q) =>
        obtain ⟨call, hcall⟩ := hsend
        have hclose : Aged now q q.closeSocket [.close q.socket] := ⟨rfl, rfl, rfl, by simp⟩
        exact ages_through (hcall.trans hclose)
      | (.ok none, q) =>
        obtain ⟨call, hcall⟩ := hsend
        exact ages_through hcall
      | (.error _, q) =>
        obtain ⟨call, hcall⟩ := hsend
        exact ages_aborted hcall (by simp)

/-- What a poll says of the idle timeout: an answered flow that stays is not idle, its activity is
noted, and a poll that begins with an abort is one of an idle flow. -/
structure Watched (now idleTimeout : Instant) (p p' : Polling B) (keep : Bool)
    (made : List (FlowCall B)) : Prop where
  calls : p'.calls = p.calls ++ made
  activity : keep = true → p'.flow.reply = none → made.any FlowCall.moved = true ∧
      p'.flow.activity = now ∨ made.any FlowCall.moved = false ∧ p.flow.reply = none ∧
        p'.flow.activity = p.flow.activity
  lively : keep = true → p'.flow.reply = none → idleTimeout ≠ 0 →
    now - p'.flow.activity < idleTimeout
  first : ∀ s rest, made = .abort s :: rest →
    p.flow.reply = none ∧ p.idleExpired now idleTimeout = true

/-- The part about the request: it was answered before, it is answered with the stream, or the poll
ends here. -/
inductive Answer (now : Instant) (p q : Polling B) (result : Option Bool) : Prop
  | before (hreply : p.flow.reply = none) (hresult : result = none) (hq : q = p)
  | connected (made : List (FlowCall B)) (hresult : result = none)
      (hcalls : q.calls = p.calls ++ made)
      (hmoved : made.any FlowCall.moved = true) (hactivity : q.flow.activity = now)
      (hfirst : ∀ s rest, made ≠ .abort s :: rest)
  | ended (keep : Bool) (made : List (FlowCall B)) (hresult : result = some keep)
      (hcalls : q.calls = p.calls ++ made) (hkeep : keep = true → q.flow.reply ≠ none)
      (hfirst : ∀ s rest, made ≠ .abort s :: rest)

lemma ReplyStep.answer {result : Option Bool} (h : ReplyStep p now q result) :
    Answer now p q result := by
  cases h with
  | idle hreply => exact .before hreply rfl rfl
  | gone reply hreply hclosed =>
    exact .ended false [.isClosed reply (p.isClosed reply).1, .abort p.socket] rfl
      (List.append_assoc ..) (by simp) (by simp)
  | failed reply kind delivered q hreply hclosed hsend =>
    obtain ⟨reply', hreply', hdelivered, rfl⟩ := sendReply_eq_ok hsend
    refine .ended false [.isClosed reply (p.isClosed reply).1,
      .sendReply p.socket reply' (.error ⟨kind, "VPN TCP connection failed"⟩) delivered,
      .abort p.socket] rfl ?_ (by simp) (by simp)
    simp [Polling.abort, note, isClosed]
  | answered reply client q hreply hclosed hestablished hclient hsend =>
    obtain ⟨reply', hreply', hdelivered, rfl⟩ := sendReply_eq_ok hsend
    refine .connected [.isClosed reply (p.isClosed reply).1,
      .sendReply p.socket reply' (.ok ⟨client, p.flow.localAddr⟩) true] rfl ?_
      (by simp [FlowCall.moved]) rfl (by simp)
    simp [note, isClosed, takeClient, touch]
  | refused reply client q hreply hclosed hestablished hclient hsend =>
    obtain ⟨reply', hreply', hdelivered, rfl⟩ := sendReply_eq_ok hsend
    refine .ended false [.isClosed reply (p.isClosed reply).1,
      .sendReply p.socket reply' (.ok ⟨client, p.flow.localAddr⟩) false, .abort p.socket] rfl ?_
      (by simp) (by simp)
    simp [Polling.abort, note, isClosed, takeClient]
  | waits reply hreply hclosed hnow =>
    refine .ended true [.isClosed reply (p.isClosed reply).1] rfl rfl (fun _ hnone => ?_) (by simp)
    exact absurd (hreply.symm.trans hnone) (by simp)

/-- The rest of a poll that does not time out. -/
lemma aged_rest {keep : Bool}
    (h : (match q.socketToBridge now 64 with
      | (p, false) => .ok (p, false)
      | (p, true) =>
        match p.shutdownBridge with
        | (p, false) => .ok (p, false)
        | (p, true) =>
          match p.bridgeToSocket now 64 with
          | (p, false) => .ok (p, false)
          | (p, true) => .ok (p, B.state p.socket != .closed) : Except Fault (Polling B × Bool)) =
      .ok (p', keep)) : ∃ made, Aged now q p' made := by
  obtain ⟨made₁, hmade₁, -⟩ := ages_socketToBridge now 64 q
  generalize q.socketToBridge now 64 = out at h hmade₁
  obtain ⟨q₁, _ | _⟩ := out
  · obtain ⟨rfl, -⟩ := Prod.mk.inj (Except.ok.inj h)
    exact ⟨made₁, hmade₁⟩
  obtain ⟨made₂, hmade₂, -⟩ := ages_shutdownBridge now q₁
  dsimp only at h hmade₁
  generalize q₁.shutdownBridge = out at h hmade₂
  obtain ⟨q₂, _ | _⟩ := out
  · obtain ⟨rfl, -⟩ := Prod.mk.inj (Except.ok.inj h)
    exact ⟨_, hmade₁.trans hmade₂⟩
  obtain ⟨made₃, hmade₃, -⟩ := ages_bridgeToSocket now 64 q₂
  dsimp only at h hmade₂
  generalize q₂.bridgeToSocket now 64 = out at h hmade₃
  obtain ⟨q₃, _ | _⟩ := out <;> obtain ⟨rfl, -⟩ := Prod.mk.inj (Except.ok.inj h) <;>
    exact ⟨_, (hmade₁.trans hmade₂).trans hmade₃⟩

lemma lively_of_not_expired (h : ¬ p.idleExpired now idleTimeout = true) (hne : idleTimeout ≠ 0) :
    now - p.flow.activity < idleTimeout := by
  by_contra hle
  exact h (by simp [idleExpired, hne, Nat.le_of_not_lt hle])

lemma poll_watched {keep : Bool} (h : p.poll now idleTimeout = .ok (p', keep)) :
    ∃ made, Watched now idleTimeout p p' keep made := by
  obtain ⟨⟨q, result⟩, hreply, hrest⟩ := bind_eq_ok.mp h
  have hanswer := (pollReply_step hreply).answer
  cases hanswer with
  | ended k made hresult hcalls hkeep hfirst =>
    subst hresult
    obtain ⟨rfl, rfl⟩ := Prod.mk.inj (Except.ok.inj hrest)
    exact ⟨made, hcalls, fun hk hnone => absurd hnone (hkeep hk),
      fun hk hnone => absurd hnone (hkeep hk), fun s rest heq => absurd heq (hfirst s rest)⟩
  | before hnone hresult hq =>
    subst hresult hq
    dsimp only at hrest
    split_ifs at hrest with hidle
    · obtain ⟨rfl, rfl⟩ := Prod.mk.inj (Except.ok.inj hrest)
      exact ⟨[.abort q.socket], rfl, by simp, by simp, fun _ _ _ => ⟨hnone, hidle⟩⟩
    obtain ⟨made, hcalls, hactivity, -, hfirst⟩ := aged_rest hrest
    have hlively := lively_of_not_expired hidle
    refine ⟨made, hcalls, fun _ _ => ?_, fun _ _ hne => ?_,
      fun s rest heq => absurd heq (hfirst s rest)⟩
    · cases hmoved : made.any FlowCall.moved with
      | true => exact .inl ⟨rfl, by rw [hactivity, hmoved]; rfl⟩
      | false => exact .inr ⟨rfl, hnone, by rw [hactivity, hmoved]; rfl⟩
    · rw [hactivity]
      split_ifs
      · rw [Nat.sub_self]
        exact Nat.pos_of_ne_zero hne
      · exact hlively hne
  | connected made hresult hcalls hmoved hnow hfirst =>
    subst hresult
    have hne : ∀ more s rest, made ++ more ≠ .abort s :: rest := by
      intro more s rest
      cases made with
      | nil => simp at hmoved
      | cons call made =>
        intro heq
        exact hfirst s made (by rw [(List.cons.inj heq).1])
    dsimp only at hrest
    split_ifs at hrest with hidle
    · obtain ⟨rfl, rfl⟩ := Prod.mk.inj (Except.ok.inj hrest)
      exact ⟨made ++ [.abort q.socket], by rw [abort, note, hcalls, List.append_assoc], by simp,
        by simp, fun s rest heq => absurd heq (hne _ s rest)⟩
    obtain ⟨more, hmore, hactivity, -, -⟩ := aged_rest hrest
    rw [hnow, ite_self] at hactivity
    refine ⟨made ++ more, by rw [hmore, hcalls, List.append_assoc], fun _ _ => .inl ⟨?_, hactivity⟩,
      fun _ _ hidle => ?_, fun s rest heq => absurd heq (hne _ s rest)⟩
    · rw [List.any_append, hmoved, Bool.true_or]
    · rw [hactivity, Nat.sub_self]
      exact Nat.pos_of_ne_zero hidle

end Polling

/-! ## The log of an engine -/

/-- The activity of a flow with an answered request is its last movement. -/
def Flow.Marked (log : List (Event B)) (f : Flow B) : Prop :=
  f.reply = none → LastMoved log f.request f.activity

/-- The flow is no reason to time out. -/
def Flow.Lively (now idleTimeout : Instant) (f : Flow B) : Prop :=
  f.reply = none → idleTimeout ≠ 0 → now - f.activity < idleTimeout

/-- The flow of a request was last active that long before the last step. -/
def IdleFor (idleTimeout : Instant) (log : List (Event B)) (r : Reply) : Prop :=
  idleTimeout ≠ 0 ∧ ∃ last now, LastMoved log r last ∧ lastStep log = some now ∧
    idleTimeout ≤ now - last

namespace Event

/-- A poll that begins with an abort is one of an idle flow.  Every other abort follows the call
that is its reason. -/
def Idle (idleTimeout : Instant) (pre : List (Event B)) : Event B → Prop
  | .flow r (.abort _) => (∀ call, pre.getLast? ≠ some (.flow r call)) → IdleFor idleTimeout pre r
  | _ => True

/-- The entry is about no flow, and no step begins with it. -/
def isPassive : Event B → Bool
  | .flow .. | .stepAt _ => false
  | _ => true

variable {e : Event B} {idleTimeout : Instant}

lemma moves_of_isPassive (h : e.isPassive = true) (r : Reply) : e.moves r = false := by
  cases e with
  | flow => simp [isPassive] at h
  | _ => rfl

lemma stepTime_of_isPassive (h : e.isPassive = true) : e.stepTime = none := by
  cases e with
  | stepAt => simp [isPassive] at h
  | _ => rfl

lemma idle_of_isPassive (h : e.isPassive = true) (pre : List (Event B)) :
    Idle idleTimeout pre e := by
  cases e with
  | flow => simp [isPassive] at h
  | _ => trivial

lemma isPassive_of_isTransmitted (h : e.isTransmitted = true) : e.isPassive = true := by
  cases e with
  | transmitted => rfl
  | _ => simp [isTransmitted] at h

end Event

/-- The calls of a poll, whose first is an abort only if the flow is idle. -/
lemma Each.idle_calls {log : List (Event B)} {idleTimeout : Instant} {r : Reply}
    {calls : List (FlowCall B)} (h : Each (Event.Idle idleTimeout) log)
    (hfirst : ∀ s rest, calls = .abort s :: rest → IdleFor idleTimeout log r) :
    Each (Event.Idle idleTimeout) (log ++ calls.map (.flow r)) := by
  refine each_append.mpr ⟨h, each_map.mpr fun pre call post hsplit => ?_⟩
  cases call with
  | abort s =>
    intro hlast
    rcases pre.eq_nil_or_concat with rfl | ⟨pre, call, rfl⟩
    · rw [List.map_nil, List.append_nil]
      exact hfirst s post hsplit
    · refine absurd ?_ (hlast call)
      rw [List.concat_eq_append, List.map_append, ← List.append_assoc]
      exact List.getLast?_concat
  | _ => trivial

namespace Polling

variable {p p' : Polling B} {now idleTimeout : Instant} {log : List (Event B)}
  {made : List (FlowCall B)}

lemma Watched.idleFor {keep : Bool} (h : Watched now idleTimeout p p' keep made)
    (hmarked : p.flow.Marked log) (hstep : lastStep log = some now) {s : B.Socket}
    {rest : List (FlowCall B)} (hfirst : made = .abort s :: rest) :
    IdleFor idleTimeout log p.flow.request := by
  obtain ⟨hnone, hexpired⟩ := h.first s rest hfirst
  obtain ⟨hne, hle⟩ : idleTimeout ≠ 0 ∧ idleTimeout ≤ now - p.flow.activity := by
    simpa [idleExpired] using hexpired
  exact ⟨hne, p.flow.activity, now, hmarked hnone, hstep, hle⟩

lemma Watched.marked (h : Watched now idleTimeout p p' true made)
    (hrequest : p'.flow.request = p.flow.request) (hmarked : p.flow.Marked log)
    (hstep : lastStep log = some now) :
    p'.flow.Marked (log ++ made.map (.flow p.flow.request)) := by
  intro hnone
  rw [hrequest]
  rcases h.activity rfl hnone with ⟨hmoved, hactivity⟩ | ⟨hmoved, hbefore, hactivity⟩ <;>
    rw [hactivity]
  · exact .of_calls hstep hmoved
  · refine (hmarked hbefore).append fun e he => ?_
    obtain ⟨call, hcall, rfl⟩ := List.mem_map.mp he
    simp [Event.moves, List.any_eq_false.mp hmoved call hcall]

end Polling

namespace Machine

variable {C : NetContract B} {m m' m₁ : Machine B} {now idleTimeout : Instant} {port : ℕ}
  {reply : Reply}

/-- No flow is polled from `m` to `m'`; one that is new is not answered. -/
structure Passive (m m' : Machine B) : Prop where
  timeout : m'.engine.idleTimeout = m.engine.idleTimeout
  flows : ∀ f ∈ m'.engine.flows, f ∈ m.engine.flows ∨ f.reply ≠ none
  log : ∃ es, m'.log = m.log ++ es ∧ ∀ e ∈ es, e.isPassive = true

lemma Passive.trans (h : Passive m m₁) (h' : Passive m₁ m') : Passive m m' where
  timeout := h'.timeout.trans h.timeout
  flows := by
    intro f hf
    rcases h'.flows f hf with hf | hreply
    · exact h.flows f hf
    · exact .inr hreply
  log := by
    obtain ⟨es, hes, hpassive⟩ := h.log
    obtain ⟨es', hes', hpassive'⟩ := h'.log
    refine ⟨es ++ es', by rw [hes', hes, List.append_assoc], fun e he => ?_⟩
    rcases List.mem_append.mp he with he | he
    · exact hpassive e he
    · exact hpassive' e he

/-- Where the flows are as they were. -/
lemma Passive.of_flows {es : List (Event B)} (hflows : m'.engine.flows = m.engine.flows)
    (htimeout : m'.engine.idleTimeout = m.engine.idleTimeout) (hlog : m'.log = m.log ++ es)
    (hes : ∀ e ∈ es, e.isPassive = true) : Passive m m' :=
  ⟨htimeout, fun _ hf => .inl (hflows ▸ hf), es, hlog, hes⟩

lemma Dialed.passive {ip : IpAddr} {deadline : Instant}
    (hd : Dialed C m ip port reply deadline m') : Passive m m' := by
  cases hd with
  | refused net nextPort error delivered _ _ hengine hlog =>
    exact .of_flows (by rw [hengine]) (by rw [hengine]) hlog (by simp [Event.isPassive])
  | opened net nextPort flow _ _ _ _ _ _ hreply _ _ _ hengine hlog =>
    refine ⟨by rw [hengine], fun f hf => ?_, _, hlog, by simp [Event.isPassive]⟩
    rw [hengine] at hf
    refine (List.mem_append.mp hf).imp_right fun hf => ?_
    rw [List.mem_singleton.mp hf, hreply]
    exact Option.some_ne_none reply

lemma LookupVisit.passive {lookup : Lookup} {w : Verdict Lookup}
    (hv : LookupVisit C now m lookup m' w) : Passive m m' := by
  cases hv with
  | expired _ _ _ _ _ hengine hlog | pending _ _ _ hengine hlog
  | again _ _ _ _ _ _ _ _ _ _ hengine hlog =>
    exact .of_flows (by rw [hengine]) (by rw [hengine]) hlog (by simp [Event.isPassive])
  | resolved m₁ net result ip _ _ hengine hlog hdial =>
    refine Passive.trans (.of_flows ?_ ?_ hlog (by simp [Event.isPassive])) hdial.passive <;>
      rw [hengine]
  | failed net result events error delivered _ _ hengine hevents hlog =>
    rw [List.append_assoc, List.append_assoc] at hlog
    refine .of_flows (by rw [hengine]) (by rw [hengine]) hlog ?_
    rcases hevents with rfl | ⟨kind, text, rfl⟩ <;> simp [Event.isPassive]

lemma Requested.passive {target : Target} (hr : Requested C m target port reply m') :
    Passive m m' := by
  cases hr with
  | gone hengine hlog | full _ _ hengine hlog | lookedUp _ _ _ _ _ _ _ hengine hlog =>
    exact .of_flows (by rw [hengine]) (by rw [hengine]) hlog (by simp [Event.isPassive])
  | dialed m₁ deadline ip _ _ hengine hlog hdial =>
    refine Passive.trans (.of_flows ?_ ?_ hlog (by simp [Event.isPassive])) hdial.passive <;>
      rw [hengine]
  | refused net deadline events error delivered _ _ hengine hevents hlog =>
    rw [List.append_assoc, List.append_assoc] at hlog
    refine .of_flows (by rw [hengine]) (by rw [hengine]) hlog ?_
    rcases hevents with rfl | ⟨name, kind, text, rfl⟩ <;> simp [Event.isPassive]

lemma Serviced.passive (hs : Serviced C m m') : Passive m m' := by
  obtain ⟨net, device, events, hengine, -, hlog, hevents, -⟩ := hs
  exact .of_flows (by rw [hengine]) (by rw [hengine]) hlog
    fun e he => Event.isPassive_of_isTransmitted (hevents e he)

/-! ## The invariant -/

/-- Aborts of idle flows were in time, and the flows' activity is what the log says. -/
structure Timed (idleTimeout : Instant) (m : Machine B) (flows : List (Flow B)) : Prop where
  timeout : m.engine.idleTimeout = idleTimeout
  idle : Each (Event.Idle idleTimeout) m.log
  marked : ∀ f ∈ flows, f.Marked m.log

lemma Timed.mono {flows flows' : List (Flow B)} (h : m.Timed idleTimeout flows)
    (hsub : flows' ⊆ flows) : m.Timed idleTimeout flows' :=
  ⟨h.timeout, h.idle, fun f hf => h.marked f (hsub hf)⟩

lemma Passive.lastStep (h : Passive m m') : lastStep m'.log = lastStep m.log := by
  obtain ⟨es, hes, hpassive⟩ := h.log
  rw [hes]
  exact lastStep_append fun e he => Event.stepTime_of_isPassive (hpassive e he)

lemma Passive.timed (h : Passive m m') (ht : m.Timed idleTimeout m.engine.flows) :
    m'.Timed idleTimeout m'.engine.flows := by
  obtain ⟨es, hes, hpassive⟩ := h.log
  refine ⟨h.timeout.trans ht.timeout, ?_, fun f hf hnone => ?_⟩
  · rw [hes]
    refine each_append.mpr ⟨ht.idle, fun pre e post hsplit => ?_⟩
    exact Event.idle_of_isPassive (hpassive e (by simp [hsplit])) _
  · rw [hes]
    rcases h.flows f hf with hf | hreply
    · exact (ht.marked f hf hnone).append
        fun e he => Event.moves_of_isPassive (hpassive e he) f.request
    · exact absurd hnone hreply

/-- A step begins. -/
lemma Timed.stepAt (h : m.Timed idleTimeout m.engine.flows) :
    ((m.note (.stepAt now)).setLookups []).Timed idleTimeout m.engine.flows where
  timeout := h.timeout
  idle := each_concat.mpr ⟨h.idle, trivial⟩
  marked f hf hnone := (h.marked f hf hnone).append (by simp [Event.moves])

/-- The visit of a flow, among flows of other requests. -/
lemma FlowVisit.timed {flow : Flow B} {w : Verdict (Flow B)} {v r : List (Flow B)}
    (hv : FlowVisit C now m flow m' w) (ht : m.Timed idleTimeout (v ++ flow :: r))
    (hstep : Ovpnlane.lastStep m.log = some now)
    (hdistinct : ((v ++ flow :: r).map Flow.request).Nodup) :
    w.After (fun v r => m'.Timed idleTimeout (v ++ r)) v r := by
  have hothers : ∀ calls : List (FlowCall B), ∀ f ∈ v ++ r,
      f.Marked (m.log ++ calls.map (.flow flow.request)) := by
    intro calls f hf hnone
    have hne : f.request ≠ flow.request := key_ne_of_nodup hdistinct f hf
    apply (ht.marked f (List.perm_middle.mem_iff.mpr (List.mem_cons_of_mem _ hf)) hnone).append
    intro e he
    obtain ⟨call, -, rfl⟩ := List.mem_map.mp he
    simp [Event.moves, hne.symm]
  have hflow : flow.Marked m.log := ht.marked flow (by simp)
  refine Verdict.after_of_rest (J := fun l => m'.Timed idleTimeout l)
    (fun _ _ hl h => h.mono hl.symm.subset) ?_
  cases hv with
  | kept socket p net hpoll _ hengine hlog =>
    obtain ⟨made, hw⟩ := Polling.poll_watched hpoll
    obtain rfl : p.calls = made := hw.calls
    refine ⟨by rw [hengine]; exact ht.timeout, ?_, ?_⟩
    · rw [hlog]
      exact ht.idle.idle_calls fun s rest heq => by
        rw [← ht.timeout]
        exact hw.idleFor hflow hstep heq
    · rw [hlog]
      intro f hf
      rcases List.mem_cons.mp hf with rfl | hf
      · exact hw.marked (Polling.poll_step hpoll).frame.2.2.2 hflow hstep
      · exact hothers p.calls f hf
  | dropped socket p net hpoll _ hengine hlog =>
    obtain ⟨made, hw⟩ := Polling.poll_watched hpoll
    obtain rfl : p.calls = made := hw.calls
    have hdrop : ∀ e ∈ p.flow.reply.toList.map (Event.dropped (B := B) · .receiverClosed),
        e.isPassive = true := by
      intro e he
      obtain ⟨_, -, rfl⟩ := List.mem_map.mp he
      rfl
    refine ⟨by rw [hengine]; exact ht.timeout, ?_, fun f hf hnone => ?_⟩
    · rw [hlog]
      refine each_append.mpr ⟨ht.idle.idle_calls fun s rest heq => ?_, fun pre e post hsplit => ?_⟩
      · rw [← ht.timeout]
        exact hw.idleFor hflow hstep heq
      · exact Event.idle_of_isPassive (hdrop e (by simp [hsplit])) _
    · rw [hlog]
      exact (hothers p.calls f hf hnone).append
        fun e he => Event.moves_of_isPassive (hdrop e he) f.request

lemma FlowVisit.lastStep {flow : Flow B} {w : Verdict (Flow B)} (hv : FlowVisit C now m flow m' w) :
    Ovpnlane.lastStep m'.log = Ovpnlane.lastStep m.log := by
  have hcalls : ∀ calls : List (FlowCall B),
      ∀ e ∈ calls.map (Event.flow flow.request), e.stepTime = none := by
    intro calls e he
    obtain ⟨_, -, rfl⟩ := List.mem_map.mp he
    rfl
  cases hv with
  | kept _ p _ _ _ _ hlog =>
    rw [hlog]
    exact lastStep_append (hcalls p.calls)
  | dropped _ p _ _ _ _ hlog =>
    rw [hlog]
    refine (lastStep_append fun e he => ?_).trans (lastStep_append (hcalls p.calls))
    obtain ⟨_, -, rfl⟩ := List.mem_map.mp he
    rfl

/-- A flow that stays is lively. -/
lemma FlowVisit.lively {flow : Flow B} {w : Verdict (Flow B)} {v r : List (Flow B)}
    (hv : FlowVisit C now m flow m' w) (hvisited : ∀ f ∈ v, f.Lively now m.engine.idleTimeout) :
    w.After (fun v _ => ∀ f ∈ v, f.Lively now m.engine.idleTimeout) v r := by
  cases hv with
  | kept socket p net hpoll =>
    obtain ⟨made, hw⟩ := Polling.poll_watched hpoll
    intro f hf
    rcases List.mem_append.mp hf with hf | hf
    · exact hvisited f hf
    · rw [List.mem_singleton.mp hf]
      exact hw.lively rfl
  | dropped => exact fun _ _ => hvisited

/-! ## A step -/

/-- Fewer requests are distinct as well. -/
lemma nodup_of_subperm {l l' : List Reply} (h : l.Subperm l') (hdistinct : l'.Nodup) : l.Nodup := by
  obtain ⟨kept, hperm, hsub⟩ := h
  exact hperm.nodup_iff.mp (hsub.nodup hdistinct)

/-- **A step** aborts the idle flows and leaves none of them. -/
lemma step_timed (h : m.engine.Valid C) (ht : m.Timed idleTimeout m.engine.flows)
    (hdistinct : m.engine.owners.Nodup) :
    ∃ m' now, m.step = .ok m' ∧ m'.engine.Valid C ∧ m'.Timed idleTimeout m'.engine.flows ∧
      Ovpnlane.lastStep m'.log = some now ∧ ∀ f ∈ m'.engine.flows, f.Lively now idleTimeout := by
  obtain ⟨m', now, s, l, hok, hvalid, ⟨htimed, hstep, -, hlively⟩, hserviced⟩ := @step_rule B C m
    (fun now s v r => s.Timed idleTimeout s.engine.flows ∧ Ovpnlane.lastStep s.log = some now ∧
      ((v ++ r).map Lookup.reply ++ s.engine.flows.map Flow.request).Subperm m.engine.owners)
    (fun now s v r => s.Timed idleTimeout (v ++ r) ∧ Ovpnlane.lastStep s.log = some now ∧
      (s.engine.lookups.map Lookup.reply ++ (v ++ r).map Flow.request).Subperm m.engine.owners ∧
      ∀ f ∈ v, f.Lively now idleTimeout) h
    (fun now s hs => ⟨(hs.passive.timed ht).stepAt, lastStep_stepAt _,
      List.Perm.subperm (.of_eq hs.owners.1)⟩)
    (fun now s v a r s' w _ hL hv => by
      obtain ⟨htimed, hstep, howners⟩ := hL
      have hkept : w.After (fun _ _ => s'.Timed idleTimeout s'.engine.flows) v r :=
        w.after_of_forall fun _ _ => hv.passive.timed htimed
      have hlast : w.After (fun _ _ => Ovpnlane.lastStep s'.log = some now) v r :=
        w.after_of_forall fun _ _ => hv.passive.lastStep.trans hstep
      exact hkept.and (hlast.and (hv.owners_after howners)))
    (fun now s l _ hL => by
      obtain ⟨htimed, hstep, howners⟩ := hL
      rw [List.append_nil] at howners
      exact ⟨⟨htimed.timeout, htimed.idle, htimed.marked⟩, hstep, howners, by simp⟩)
    (fun now s v a r s' w _ hF hv => by
      obtain ⟨htimed, hstep, howners, hlively⟩ := hF
      have hnodup : ((v ++ a :: r).map Flow.request).Nodup :=
        (List.nodup_append.mp (nodup_of_subperm howners hdistinct)).2.1
      have hlast : w.After (fun _ _ => Ovpnlane.lastStep s'.log = some now) v r :=
        w.after_of_forall fun _ _ => hv.lastStep.trans hstep
      refine (hv.timed htimed hstep hnodup).and (hlast.and ((hv.owners_after howners).and ?_))
      rw [← htimed.timeout] at hlively ⊢
      exact hv.lively hlively)
  rw [List.append_nil] at htimed
  have hpassive := hserviced.passive
  refine ⟨m', now, hok, hvalid, hpassive.timed ?_, hpassive.lastStep.trans hstep, fun f hf => ?_⟩
  · exact ⟨htimed.timeout, htimed.idle, htimed.marked⟩
  · obtain ⟨net, device, -, hengine, -⟩ := id hserviced
    rw [hengine] at hf
    exact hlively f hf

/-! ## A run -/

/-- The outside world moves no flow. -/
lemma Timed.setBridges (h : m.Timed idleTimeout m.engine.flows) (world : B.World)
    (bridge : Flow B → B.Stream) :
    Timed idleTimeout { m with engine := m.engine.setBridges bridge, world := world }
      (m.engine.setBridges bridge).flows where
  timeout := h.timeout
  idle := h.idle
  marked := by
    intro f hf
    obtain ⟨f, hmem, rfl⟩ := List.mem_map.mp hf
    exact h.marked f hmem

/-- What happens to an engine keeps the times right, and makes an entry for no other request than
its own. -/
lemma perform_timed (h : m.engine.Valid C) (ht : m.Timed idleTimeout m.engine.flows)
    (hdistinct : m.engine.owners.Nodup) (a : EngineAct B) :
    ∃ m', m.perform a = .ok m' ∧ m'.engine.Valid C ∧ m'.Timed idleTimeout m'.engine.flows ∧
      m'.engine.owners.Subperm (a.replies ++ m.engine.owners) := by
  cases a with
  | connect target port reply =>
    obtain ⟨m', hok, hrequested, hvalid⟩ := connect_rule h target port reply
    exact ⟨m', hok, hvalid, hrequested.passive.timed ht, hrequested.owners.1⟩
  | step =>
    obtain ⟨m', now, hok, hvalid, htimed, -⟩ := step_timed h ht hdistinct
    exact ⟨m', hok, hvalid, htimed, (step_owners h hok).1⟩
  | incoming packet =>
    exact ⟨_, rfl, h.service (m.engine.pushIncoming packet).device rfl,
      ⟨ht.timeout, ht.idle, ht.marked⟩, .refl _⟩
  | outside world bridge =>
    refine ⟨_, rfl, { h.bridges bridge with }, ht.setBridges world bridge, ?_⟩
    rw [Engine.owners_setBridges]
    exact .refl _

/-- The run lemma: the replies to come are none of those the engine has. -/
lemma run_timed {acts : List (EngineAct B)} {s : Except Fault (Machine B)}
    (hrun : (engineSystem B).Run (.ok m) acts s) (h : m.engine.Valid C)
    (ht : m.Timed idleTimeout m.engine.flows)
    (hlinear : (m.engine.owners ++ acts.flatMap EngineAct.replies).Nodup) :
    ∃ m', s = .ok m' ∧ m'.engine.Valid C ∧ m'.Timed idleTimeout m'.engine.flows ∧
      m'.engine.owners.Nodup := by
  induction acts generalizing m with
  | nil =>
    obtain rfl := hrun.eq_of_nil
    exact ⟨m, rfl, h, ht, (List.nodup_append.mp hlinear).1⟩
  | cons a acts ih =>
    obtain ⟨s₁, ⟨_, hm, rfl⟩, hrest⟩ := hrun.of_cons
    obtain rfl := Except.ok.inj hm
    obtain ⟨m', hok, hvalid, htimed, howners⟩ :=
      perform_timed h ht (List.nodup_append.mp hlinear).1 a
    rw [hok] at hrest
    apply ih hrest hvalid htimed
    rw [List.flatMap_cons, ← List.append_assoc] at hlinear
    refine nodup_of_subperm ((List.subperm_append_right _).mpr ?_) hlinear
    exact howners.trans List.perm_append_comm.subperm

end Machine

/-- The time of a step is the last one in the log after it. -/
lemma Machine.StepsAt.lastStep {m m' : Machine B} {now : Instant} {es : List (Event B)}
    (h : m.StepsAt now es m') : Ovpnlane.lastStep m'.log = some now := by
  obtain ⟨before, after, _, _, rfl, hlog, -, -, -, -, hafter⟩ := h
  rw [hlog, List.append_cons, ← List.append_assoc, lastStep_append fun e he => ?_,
    ← List.append_assoc, lastStep_stepAt]
  have hquiet := hafter e he
  cases e <;> simp [Event.isStep, Event.stepTime] at hquiet ⊢

/-! ## The result -/

/-- **The idle timeout.**  In every run of every engine, a poll begins with an abort only if its
flow was last active the timeout before; the activity of every flow with an answered request is its
last movement; and a step leaves no such flow that has been idle for the timeout.  The time of a
step, in the run and after it, is what the clock says in that step.  A reply is used for one
request. -/
theorem idle_timeout (C : NetContract B) {settings : Settings} {sink : SinkId}
    {connectTimeout idleTimeout maxConnections clock nextPort : ℕ} {e : Engine B}
    {world : B.World} {acts : List (EngineAct B)} {m : Machine B}
    (hlimit : maxConnections ≤ 4096) (hport : nextPort ∈ Finset.Ico 49152 65535)
    (hnew : Engine.new B settings sink connectTimeout idleTimeout maxConnections clock nextPort =
      .ok e)
    (hrun : (engineSystem B).Run (.ok ⟨e, world, []⟩) acts (.ok m))
    (hlinear : (acts.flatMap EngineAct.replies).Nodup) :
    Each (Event.Idle idleTimeout) m.log ∧ (∀ f ∈ m.engine.flows, f.Marked m.log) ∧
      (∀ s s' : Machine B, s.step = .ok s' → ∃ now es, s.StepsAt now es s') ∧
      ∃ m' now es, m.step = .ok m' ∧ m.StepsAt now es m' ∧ lastStep m'.log = some now ∧
        ∀ f ∈ m'.engine.flows, f.Marked m'.log ∧ f.Lively now idleTimeout := by
  have hvalid := Engine.new_valid C hlimit hport hnew
  obtain ⟨htimeout, hflows, howners⟩ :
      e.idleTimeout = idleTimeout ∧ e.flows = [] ∧ e.owners = [] := by
    obtain ⟨_, _, _, _, -, -, -, rfl⟩ := Engine.new_eq_ok hnew
    exact ⟨rfl, rfl, rfl⟩
  have htimed : Machine.Timed idleTimeout (⟨e, world, []⟩ : Machine B) e.flows :=
    ⟨htimeout, each_nil, by simp [hflows]⟩
  obtain ⟨m₁, hm₁, hvalid₁, htimed₁, hdistinct⟩ :=
    Machine.run_timed hrun hvalid htimed (by rwa [howners, List.nil_append])
  obtain rfl := Except.ok.inj hm₁
  have hclock : ∀ s s' : Machine B, s.step = .ok s' → ∃ now es, s.StepsAt now es s' := by
    intro s s' hok
    obtain ⟨now, es, hsteps, -⟩ := Machine.step_stepsAt hok
    exact ⟨now, es, hsteps⟩
  refine ⟨htimed₁.idle, htimed₁.marked, hclock, ?_⟩
  obtain ⟨m', now, hok, -, htimed', hstep, hlively⟩ := Machine.step_timed hvalid₁ htimed₁ hdistinct
  obtain ⟨now', es, hsteps⟩ := hclock _ _ hok
  obtain rfl : now' = now := Option.some.inj (hsteps.lastStep.symm.trans hstep)
  exact ⟨m', now', es, hok, hsteps, hstep, fun f hf => ⟨htimed'.marked f hf, hlively f hf⟩⟩

lemma Event.eq_of_aborted {connection : B.Socket → Option Connection} {e : Event B}
    {request : Reply} {c : Connection} (h : e.aborted? connection = some (request, c)) :
    ∃ socket, e = .flow request (.abort socket) := by
  unfold Event.aborted? at h
  split at h
  · next socket =>
    obtain ⟨_, -, heq⟩ := Option.map_eq_some_iff.mp h
    obtain ⟨rfl, -⟩ := Prod.mk.inj heq
    exact ⟨socket, rfl⟩
  · simp at h

/-- The abort of a connection on which nothing happened for ten seconds, with a timeout of five. -/
theorem idle_timeout_aborts :
    ∃ e m pre socket, Engine.new (resetting fun _ _ => .failed)
        ⟨some (.new 10 8 0 2), none, [], 1400⟩ 0 30000000000 5000000000 8 0 49152 = .ok e ∧
      (connectThenIdle ++ [EngineAct.step]).foldlM Machine.perform ⟨e, ⟨0, [], []⟩, []⟩ = .ok m ∧
      m.log = pre ++ [.flow 5 (.abort socket)] ∧ IdleFor 5000000000 pre 5 := by
  have hrun : (Engine.new (resetting fun _ _ => .failed) ⟨some (.new 10 8 0 2), none, [], 1400⟩ 0
      30000000000 5000000000 8 0 49152 >>= fun e =>
        (connectThenIdle ++ [EngineAct.step]).foldlM Machine.perform ⟨e, ⟨0, [], []⟩, []⟩).map
        (fun m => (m.log.getLast?.bind (Event.aborted? Reference.Socket.connection),
          m.log.dropLast.getLast?.map Event.isFlow)) =
      .ok (some (5, ⟨49152, ⟨.v4 (.new 198 51 100 7), 80⟩⟩), some false) := by decide +kernel
  obtain ⟨m, hm, hends⟩ := except_map_eq_ok.mp hrun
  obtain ⟨e, hnew, hm⟩ := bind_eq_ok.mp hm
  obtain ⟨hlast, hbefore⟩ := Prod.mk.inj hends
  obtain ⟨last, hlast, habort⟩ := Option.bind_eq_some_iff.mp hlast
  obtain ⟨before, hbefore, hflow⟩ := Option.map_eq_some_iff.mp hbefore
  obtain ⟨pre, hpre⟩ := List.getLast?_eq_some_iff.mp hlast
  obtain ⟨socket, rfl⟩ := Event.eq_of_aborted habort
  refine ⟨e, m, pre, socket, hnew, hm, hpre, ?_⟩
  obtain ⟨hidle, -⟩ := idle_timeout (Reference.resettingNetContract fun _ _ => .failed)
    (by decide) (by decide) hnew (Machine.run_of_foldlM hm) (by decide)
  refine hidle pre _ [] hpre fun call hcall => ?_
  rw [hpre, List.dropLast_concat, hcall] at hbefore
  rw [← Option.some.inj hbefore] at hflow
  simp [Event.isFlow] at hflow

end Ovpnlane
