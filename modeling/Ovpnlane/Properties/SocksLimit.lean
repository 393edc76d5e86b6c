import Ovpnlane.Construction.Netstack.Reference
import Ovpnlane.Construction.Socks
import Ovpnlane.Properties.Turns
import Mathlib.Data.List.Perm.Subperm

/-!
# Two limits of one size

`serve` admits at most `limit` clients, the engine at most `maxConnections` flows and lookups, and
`main` gives both the same number.  A permit goes back when its handler ends; a flow stays until
its socket is closed, which may be much later.

Every entry of the engine belongs to one request (`Engine.owners`), and a call of the engine never
makes an entry for any other request than the one it is given (`Requested.owners`,
`step_owners`).  So the entries that belong to live handlers, with the request under way, are at
most as many as the handlers, and a request is refused for want of room only while the engine holds
an entry of a handler that has finished (`limit_counts_finished`).  That this does happen shows
`limit_refuses_client`.
-/

namespace Ovpnlane

variable {B : Backend} {C : NetContract B}

/-! ## What an entry belongs to -/

/-- The requests the entries of an engine belong to, answered or not. -/
def Engine.owners (e : Engine B) : List Reply :=
  e.lookups.map Lookup.reply ++ e.flows.map Flow.request

lemma Engine.length_owners (e : Engine B) :
    e.owners.length = e.flows.length + e.lookups.length := by
  simp [owners, Nat.add_comm]

@[simp] lemma Engine.owners_setBridges (e : Engine B) (bridge : Flow B → B.Stream) :
    (e.setBridges bridge).owners = e.owners := by
  simp [owners, setBridges, Function.comp_def]

namespace Machine

variable {m m' : Machine B} {now : Instant}

lemma Dialed.owners {ip : IpAddr} {port : ℕ} {reply : Reply} {deadline : Instant}
    (hd : Dialed C m ip port reply deadline m') :
    (m'.engine.flows.map Flow.request).Subperm (reply :: m.engine.flows.map Flow.request) ∧
      m'.engine.lookups = m.engine.lookups ∧
      m'.engine.maxConnections = m.engine.maxConnections := by
  cases hd with
  | refused _ _ _ _ _ _ hengine =>
    rw [hengine]
    exact ⟨.cons_self, rfl, rfl⟩
  | opened _ _ flow _ _ _ _ _ _ _ hrequest _ _ hengine =>
    rw [hengine]
    refine ⟨?_, rfl, rfl⟩
    rw [List.map_append, List.map_singleton, hrequest]
    exact (List.perm_append_singleton _ _).subperm

lemma LookupVisit.owners {lookup : Lookup} {w : Verdict Lookup}
    (hv : LookupVisit C now m lookup m' w) :
    (w.rest.map Lookup.reply ++ m'.engine.flows.map Flow.request).Subperm
        (lookup.reply :: m.engine.flows.map Flow.request) ∧
      m'.engine.maxConnections = m.engine.maxConnections := by
  cases hv with
  | expired _ _ _ _ _ hengine | failed _ _ _ _ _ _ _ hengine =>
    rw [hengine]
    exact ⟨.cons_self, rfl⟩
  | pending _ _ _ hengine | again _ _ _ _ _ _ _ _ _ _ hengine =>
    rw [hengine]
    exact ⟨.refl _, rfl⟩
  | resolved m₁ _ _ _ _ _ hengine _ hdial =>
    obtain ⟨howners, -, hlimit⟩ := hdial.owners
    rw [hengine] at howners hlimit
    exact ⟨howners, hlimit⟩

lemma FlowVisit.owners {flow : Flow B} {w : Verdict (Flow B)}
    (hv : FlowVisit C now m flow m' w) :
    (w.rest.map Flow.request).Subperm [flow.request] ∧ m'.engine.lookups = m.engine.lookups ∧
      m'.engine.maxConnections = m.engine.maxConnections := by
  cases hv with
  | kept _ p _ hpoll _ hengine =>
    rw [hengine, Verdict.rest, List.map_singleton, (Polling.poll_step hpoll).frame.2.2.2]
    exact ⟨.refl _, rfl, rfl⟩
  | dropped _ _ _ _ _ hengine =>
    rw [hengine]
    exact ⟨List.nil_subperm, rfl, rfl⟩

/-- Among the other lookups. -/
lemma LookupVisit.owners_after {lookup : Lookup} {w : Verdict Lookup} {v r : List Lookup}
    {owners : List Reply} (hv : LookupVisit C now m lookup m' w)
    (h : ((v ++ lookup :: r).map Lookup.reply ++ m.engine.flows.map Flow.request).Subperm owners) :
    w.After (fun v r => ((v ++ r).map Lookup.reply ++
      m'.engine.flows.map Flow.request).Subperm owners) v r := by
  refine @Verdict.after_of_rest _ (fun l => (l.map Lookup.reply ++
    m'.engine.flows.map Flow.request).Subperm owners) ?_ v r w ?_
  · exact fun l l' hl h => (((hl.map _).symm.append_right _).subperm).trans h
  · refine List.Subperm.trans ?_ h
    have hrest := (List.subperm_append_left ((v ++ r).map Lookup.reply)).mpr hv.owners.1
    rw [List.map_append, List.append_assoc]
    refine (List.perm_append_comm_assoc ..).subperm.trans (hrest.trans ?_)
    refine List.perm_middle.subperm.trans (List.Perm.subperm ?_)
    exact (List.perm_middle.map Lookup.reply).symm.append_right _

/-- Among the other flows. -/
lemma FlowVisit.owners_after {flow : Flow B} {w : Verdict (Flow B)} {v r : List (Flow B)}
    {owners : List Reply} (hv : FlowVisit C now m flow m' w)
    (h : (m.engine.lookups.map Lookup.reply ++
      (v ++ flow :: r).map Flow.request).Subperm owners) :
    w.After (fun v r => (m'.engine.lookups.map Lookup.reply ++
      (v ++ r).map Flow.request).Subperm owners) v r := by
  obtain ⟨howners, hlookups, -⟩ := hv.owners
  rw [hlookups]
  refine @Verdict.after_of_rest _ (fun l => (m.engine.lookups.map Lookup.reply ++
    l.map Flow.request).Subperm owners) ?_ v r w ?_
  · exact fun l l' hl h => (((hl.map _).symm.append_left _).subperm).trans h
  · refine List.Subperm.trans ((List.subperm_append_left _).mpr ?_) h
    rw [List.map_append]
    refine ((List.subperm_append_right _).mpr howners).trans (List.Perm.subperm ?_)
    exact (List.perm_middle.map Flow.request).symm

/-- A request makes at most one entry, for itself. -/
lemma Requested.owners {target : Target} {port : ℕ} {reply : Reply}
    (hr : Requested C m target port reply m') :
    m'.engine.owners.Subperm (reply :: m.engine.owners) ∧
      m'.engine.maxConnections = m.engine.maxConnections := by
  cases hr with
  | gone hengine | full _ _ hengine | refused _ _ _ _ _ _ _ hengine =>
    rw [hengine]
    exact ⟨.cons_self, rfl⟩
  | dialed m₁ _ _ _ _ hengine _ hdial =>
    obtain ⟨howners, hlookups, hlimit⟩ := hdial.owners
    rw [hengine] at howners hlookups hlimit
    refine ⟨?_, hlimit⟩
    rw [Engine.owners, hlookups]
    exact ((List.subperm_append_left _).mpr howners).trans List.perm_middle.subperm
  | lookedUp _ lookup _ _ _ _ hreply hengine =>
    rw [hengine, Engine.owners, List.map_append, List.map_singleton, hreply, List.append_assoc]
    exact ⟨List.perm_middle.subperm, rfl⟩

lemma Serviced.owners (hs : Serviced C m m') : m'.engine.owners = m.engine.owners ∧
    m'.engine.maxConnections = m.engine.maxConnections := by
  obtain ⟨_, _, _, hengine, -⟩ := hs
  rw [hengine]
  exact ⟨rfl, rfl⟩

/-- A step makes no entry for a request that has none. -/
lemma step_owners (h : m.engine.Valid C) (hok : m.step = .ok m') :
    m'.engine.owners.Subperm m.engine.owners ∧
      m'.engine.maxConnections = m.engine.maxConnections := by
  obtain ⟨m'', _, s, l, hok', -, ⟨hs, hlimit⟩, hend⟩ :=
    @step_rule B C m
      (fun _ s v r => ((v ++ r).map Lookup.reply ++ s.engine.flows.map Flow.request).Subperm
        m.engine.owners ∧ s.engine.maxConnections = m.engine.maxConnections)
      (fun _ s v r => (s.engine.lookups.map Lookup.reply ++ (v ++ r).map Flow.request).Subperm
        m.engine.owners ∧ s.engine.maxConnections = m.engine.maxConnections) h
      (fun _ _ hs => ⟨List.Perm.subperm (.of_eq hs.owners.1), hs.owners.2⟩)
      (fun _ _ _ _ _ _ w _ hL hv =>
        (hv.owners_after hL.1).and (w.after_of_forall fun _ _ => hv.owners.2.trans hL.2))
      (fun _ _ l _ hL => by rwa [List.append_nil] at hL)
      (fun _ _ _ _ _ _ w _ hF hv =>
        (hv.owners_after hF.1).and (w.after_of_forall fun _ _ => hv.owners.2.2.trans hF.2))
  obtain rfl := Except.ok.inj (hok.symm.trans hok')
  rw [List.append_nil] at hs
  rw [hend.owners.1, hend.owners.2]
  exact ⟨hs, hlimit⟩

end Machine

/-! ## The worker -/

namespace Worker

variable {w w' : Worker B}

/-- The requests the entries of the worker's engine belong to. -/
def owners (w : Worker B) : List Reply := w.engine.elim [] fun (_, e) => e.owners

/-- The requests in the queue and in the engine. -/
def tracked (w : Worker B) : List Reply := w.owners ++ w.queued

/-- An engine has the worker's limit. -/
def Limited (w : Worker B) : Prop :=
  ∀ g e, w.engine = some (g, e) → e.maxConnections = w.config.maxConnections

lemma owners_none (h : w.engine = none) : w.owners = [] := by
  simp [owners, h]

lemma owners_some {g : ℕ} {e : Engine B} (h : w.engine = some (g, e)) : w.owners = e.owners := by
  simp [owners, h]

/-- No action of the thread makes an entry for a request it was not given. -/
lemma Turn.tracked (h : w.Turn w') (hs : w.Sound C) (hs' : w'.Sound C) :
    w'.tracked.Subperm w.tracked := by
  have hsame : ∀ {u : Worker B}, u.engine = w.engine → u.commands = w.commands →
      u.tracked.Subperm w.tracked := by
    intro u hengine hcommands
    rw [Worker.tracked, Worker.tracked, owners, owners, queued, queued, hengine, hcommands]
  cases h with
  | idle hcommands _ hengine | discarded _ _ hcommands _ _ hengine =>
    exact hsame hengine hcommands
  | delivered tag packet e hcommands _ hengine hengine' =>
    rw [Worker.tracked, Worker.tracked, owners_some hengine, owners_some hengine', queued, queued,
      hcommands]
    exact .refl _
  | processed command es hcommands _ hprocessed =>
    have hqueued : w'.queued.Subperm w.queued := by
      rw [queued, queued, hcommands]
      exact ((List.sublist_cons_self _ _).filterMap _).subperm
    have hgone : w'.engine = none → w'.tracked.Subperm w.tracked := by
      intro hnone
      rw [Worker.tracked, Worker.tracked, owners_none hnone]
      exact hqueued.trans (List.sublist_append_right _ _).subperm
    generalize hengine' : w'.engine = engine' at hprocessed hgone
    cases hprocessed with
    | online g settings sink e es _ _ hempty =>
      rw [Worker.tracked, Worker.tracked, owners_some hengine', Engine.owners, hempty.1, hempty.2]
      exact hqueued.trans (List.sublist_append_right _ _).subperm
    | removed | refused => exact hgone rfl
    | late =>
      rw [Worker.tracked, Worker.tracked, owners, owners, hengine']
      exact (List.subperm_append_left _).mpr hqueued
    | connect target port reply g e e' es _ hengine _ hcall =>
      obtain ⟨world, m', hok, rfl⟩ := hcall
      obtain ⟨m'', hok', hrequested, -⟩ :=
        @Machine.connect_rule B C ⟨e, world, []⟩ (hs.valid g e hengine) target port reply
      obtain rfl := Except.ok.inj (hok.symm.trans hok')
      rw [Worker.tracked, Worker.tracked, owners_some hengine, owners_some hengine', queued, queued,
        hcommands]
      exact ((List.subperm_append_right _).mpr hrequested.owners.1).trans
        List.perm_middle.symm.subperm
  | stepped g e e' es hcommands _ hengine hengine' _ _ _ _ hcall =>
    obtain ⟨world, m', hok, rfl⟩ := hcall
    have howners := Machine.step_owners (m := ⟨e, world, []⟩) (hs.valid g e hengine) hok
    rw [Worker.tracked, Worker.tracked, owners_some hengine, owners_some hengine', queued, queued,
      hcommands]
    exact (List.subperm_append_right _).mpr howners.1
  | failed es hcommands _ hengine =>
    rw [Worker.tracked, Worker.tracked, owners_none hengine, queued, queued, hcommands]
    exact (List.sublist_append_right _ _).subperm
  | ended es _ hengine _ _ hdead =>
    rw [Worker.tracked, owners_none hengine, queued, (hs'.ended hdead).1]
    exact List.nil_subperm

/-- The limit of an engine is the worker's from its creation on. -/
lemma Turn.limited (h : w.Turn w') (hs : w.Sound C) (hconfig : w'.config = w.config)
    (hl : w.Limited) : w'.Limited := by
  intro g e' he'
  rw [hconfig]
  cases h with
  | idle _ _ hengine | discarded _ _ _ _ _ hengine => exact hl g e' (hengine ▸ he')
  | delivered tag packet e _ _ hengine hengine' =>
    obtain ⟨rfl, rfl⟩ := Prod.mk.inj (Option.some.inj (hengine'.symm.trans he'))
    exact hl tag e hengine
  | processed command es _ _ hprocessed =>
    generalize hw' : w'.engine = engine' at hprocessed he'
    cases hprocessed with
    | online _ _ _ e es _ _ _ hlimit =>
      obtain ⟨-, rfl⟩ := Prod.mk.inj (Option.some.inj he')
      exact hlimit
    | removed | refused => simp at he'
    | late => exact hl g e' he'
    | connect target port reply g₀ e e'' es _ hengine _ hcall =>
      obtain ⟨-, rfl⟩ := Prod.mk.inj (Option.some.inj he')
      obtain ⟨world, m', hok, rfl⟩ := hcall
      obtain ⟨m'', hok', hrequested, -⟩ :=
        @Machine.connect_rule B C ⟨e, world, []⟩ (hs.valid g₀ e hengine) target port reply
      obtain rfl := Except.ok.inj (hok.symm.trans hok')
      exact hrequested.owners.2.trans (hl g₀ e hengine)
  | stepped g₀ e e'' es _ _ hengine hengine' _ _ _ _ hcall =>
    obtain ⟨-, rfl⟩ := Prod.mk.inj (Option.some.inj (hengine'.symm.trans he'))
    obtain ⟨world, m', hok, rfl⟩ := hcall
    have howners := Machine.step_owners (m := ⟨e, world, []⟩) (hs.valid g₀ e hengine) hok
    exact howners.2.trans (hl g₀ e hengine)
  | failed _ _ _ hengine | ended _ _ hengine =>
    rw [hengine] at he'
    simp at he'

end Worker

/-! ## The worker among the other threads -/

namespace Stack

variable {s s' : Stack B}

/-- What an action changes of the requests that are tracked: it may add the one it issues. -/
lemma act_tracked {a : StackAct B} (hk : s.Kept C) (hact : s.act a = some s') :
    ∃ new, s'.issued = s.issued ++ new ∧ (∀ r ∈ new, r ∉ s.issued) ∧ new.length ≤ 1 ∧
      (s'.worker.tracked).Subperm (s.worker.tracked ++ new) ∧
      s'.worker.config = s.worker.config ∧ (s.worker.Limited → s'.worker.Limited) := by
  have hk' := hk.act hact
  have hquiet : ∀ {w : Worker B}, w.tracked = s.worker.tracked → w.config = s.worker.config →
      (s.worker.Limited → w.Limited) → ∃ new, s.issued = s.issued ++ new ∧
        (∀ r ∈ new, r ∉ s.issued) ∧ new.length ≤ 1 ∧
        w.tracked.Subperm (s.worker.tracked ++ new) ∧ w.config = s.worker.config ∧
        (s.worker.Limited → w.Limited) := by
    intro w htracked hconfig hlimited
    exact ⟨[], by simp, by simp, by simp, by simp [htracked, List.Subperm.refl], hconfig, hlimited⟩
  cases a with
  | thread action =>
    simp only [act] at hact
    split_ifs at hact
    obtain ⟨w, hw, rfl⟩ := Option.map_eq_some_iff.mp hact
    have hturn := Worker.act_turn hk.sound hw
    have hconfig := Worker.act_config hw
    exact ⟨[], by simp, by simp, by simp,
      by simpa using hturn.tracked hk.sound hk'.sound, hconfig, hturn.limited hk.sound hconfig⟩
  | send command =>
    simp only [act] at hact
    split_ifs at hact with hissued
    obtain rfl := Option.some.inj hact
    refine ⟨command.reply.toList, rfl, ?_, ?_, ?_, ?_, ?_⟩
    · intro r hr hmem
      simp [Option.mem_toList.mp hr, hmem] at hissued
    · cases command.reply <;> simp
    · unfold Tunnel.send
      split_ifs
      · rw [Worker.tracked, Worker.tracked, List.append_assoc]
        refine List.Perm.subperm (List.Perm.append_left _ (.of_eq ?_))
        cases hreply : command.reply <;> simp [Worker.queued, hreply]
      · exact (List.sublist_append_left _ _).subperm
    · unfold Tunnel.send
      split_ifs <;> rfl
    · unfold Tunnel.send
      split_ifs <;> exact id
  | receive generation packet =>
    obtain rfl := Option.some.inj hact
    unfold Tunnel.receive
    split_ifs <;> exact hquiet rfl rfl id
  | wake =>
    obtain rfl := Option.some.inj hact
    unfold Tunnel.wake
    split_ifs <;> exact hquiet rfl rfl id
  | outside world bridge =>
    obtain rfl := Option.some.inj hact
    refine hquiet ?_ rfl fun hl g e' he' => ?_
    · rcases hengine : s.worker.engine with _ | ⟨g, e⟩ <;>
        simp [Worker.tracked, Worker.owners, Worker.queued, hengine]
    · obtain ⟨⟨g, e⟩, he, heq⟩ := Option.map_eq_some_iff.mp he'
      obtain ⟨rfl, rfl⟩ : g = _ ∧ e.setBridges bridge = e' := by simpa using heq
      exact hl g e he

/-- A request is issued once. -/
lemma act_connect {target : Target} {port : ℕ} {reply : Reply}
    (hact : s.act (.send (.connect target port reply)) = some s') :
    reply ∉ s.issued ∧ s'.issued = s.issued ++ [reply] := by
  simp only [act] at hact
  split_ifs at hact with hissued
  obtain rfl := Option.some.inj hact
  exact ⟨by simpa [Command.reply] using hissued, rfl⟩

end Stack

/-! ## The proxy -/

namespace Socks

/-- The requests of the live handlers. -/
def Proxy.live (p : Proxy B) : List Reply := p.handlers.filterMap id

/-- The books of the proxy. -/
structure Proxy.Counted (C : NetContract B) (p : Proxy B) : Prop where
  kept : p.stack.Kept C
  limited : p.stack.worker.Limited
  /-- Every live handler has a permit. -/
  permits : p.permits + p.handlers.length = p.stack.worker.config.maxConnections
  /-- Live handlers have requests of their own, which have been issued. -/
  requests : p.live.Nodup
  issued : p.live ⊆ p.stack.issued
  /-- A request is queued or has one entry. -/
  distinct : p.stack.worker.tracked.Nodup
  known : p.stack.worker.tracked ⊆ p.stack.issued

lemma live_set {handlers : List (Option Reply)} {i : ℕ} (h : handlers[i]? = some none)
    (r : Reply) : ((handlers.set i (some r)).filterMap id).Perm (r :: handlers.filterMap id) := by
  induction handlers generalizing i with
  | nil => simp at h
  | cons handler handlers ih =>
    cases i with
    | zero =>
      obtain rfl : handler = none := by simpa using h
      exact .refl _
    | succ i =>
      have hrest := ih (i := i) (by simpa using h)
      cases handler with
      | none => exact hrest
      | some r' => exact (hrest.cons r').trans (.swap r r' _)

/-- What the stack does, under the handlers. -/
lemma Proxy.Counted.stack {p : Proxy B} {a : StackAct B} {stack : Stack B} (h : p.Counted C)
    (hact : p.stack.act a = some stack) :
    ({ p with stack := stack } : Proxy B).Counted C := by
  obtain ⟨new, hissued, hfresh, hlength, htracked, hconfig, hlimited⟩ :=
    Stack.act_tracked h.kept hact
  have hnew : new.Nodup := by
    match new, hlength with
    | [], _ => exact List.nodup_nil
    | [r], _ => exact List.nodup_singleton r
  have hdistinct : (p.stack.worker.tracked ++ new).Nodup :=
    List.nodup_append.mpr ⟨h.distinct, hnew, fun r hr r' hr' heq =>
      hfresh r' hr' (heq ▸ h.known hr)⟩
  exact
    { kept := h.kept.act hact
      limited := hlimited h.limited
      permits := by
        show p.permits + p.handlers.length = stack.worker.config.maxConnections
        rw [hconfig]
        exact h.permits
      requests := h.requests
      issued := by
        show p.live ⊆ stack.issued
        rw [hissued]
        exact List.subset_append_of_subset_left _ h.issued
      distinct := by
        obtain ⟨l, hperm, hsub⟩ := htracked
        exact hperm.nodup_iff.mp (hsub.nodup hdistinct)
      known := by
        show stack.worker.tracked ⊆ stack.issued
        rw [hissued]
        intro r hr
        exact (List.mem_append.mp (htracked.subset hr)).elim
          (fun hold => List.mem_append_left _ (h.known hold)) (List.mem_append_right _) }

lemma Proxy.Counted.act {p p' : Proxy B} {a : ProxyAct B} (h : p.Counted C)
    (hact : p.act a = some p') : p'.Counted C := by
  cases a with
  | accept =>
    simp only [Proxy.act] at hact
    split_ifs at hact with hfree <;> obtain rfl := Option.some.inj hact
    · have hpermits := h.permits
      have hlive : ({ p with permits := p.permits - 1, handlers := p.handlers ++ [none] } :
          Proxy B).live = p.live := by simp [Proxy.live]
      exact { h with
        permits := by
          show p.permits - 1 + (p.handlers ++ [none]).length = p.stack.worker.config.maxConnections
          rw [List.length_append, List.length_singleton]
          omega
        requests := hlive ▸ h.requests
        issued := hlive ▸ h.issued }
    · exact h
  | request handler target port reply =>
    simp only [Proxy.act] at hact
    split_ifs at hact with hhandler
    obtain ⟨stack, hstack, rfl⟩ := Option.map_eq_some_iff.mp hact
    have hcounted := h.stack hstack
    obtain ⟨hfresh, hissued⟩ := Stack.act_connect hstack
    have hlive : ((p.handlers.set handler (some reply)).filterMap id).Perm (reply :: p.live) :=
      live_set hhandler reply
    exact { hcounted with
      permits := by
        show p.permits + (p.handlers.set handler (some reply)).length =
          stack.worker.config.maxConnections
        rw [List.length_set]
        exact hcounted.permits
      requests := hlive.nodup_iff.mpr (List.nodup_cons.mpr
        ⟨fun hmem => hfresh (h.issued hmem), h.requests⟩)
      issued := by
        intro r hr
        show r ∈ stack.issued
        rw [hissued]
        rcases List.mem_cons.mp (hlive.mem_iff.mp hr) with rfl | hold
        · exact List.mem_append_right _ (List.mem_singleton_self _)
        · exact List.mem_append_left _ (h.issued hold) }
  | finish handler =>
    simp only [Proxy.act] at hact
    split_ifs at hact with hhandler
    obtain rfl := Option.some.inj hact
    have hlive : ((p.handlers.eraseIdx handler).filterMap id).Sublist p.live :=
      (List.eraseIdx_sublist _ _).filterMap _
    have hpermits := h.permits
    exact { h with
      permits := by
        show p.permits + 1 + (p.handlers.eraseIdx handler).length =
          p.stack.worker.config.maxConnections
        rw [List.length_eraseIdx_of_lt hhandler]
        omega
      requests := hlive.nodup h.requests
      issued := fun r hr => h.issued (hlive.subset hr) }
  | stack action =>
    simp only [Proxy.act] at hact
    split_ifs at hact with hrequest
    obtain ⟨stack, hstack, rfl⟩ := Option.map_eq_some_iff.mp hact
    exact h.stack hstack

lemma Proxy.counted_of_reachable (C : NetContract B) {p : Proxy B}
    (h : (proxySystem B).Reachable p) : p.Counted C := by
  refine h.invariant (I := Proxy.Counted C) ?_ fun p a q hp hact => hp.act hact
  rintro p ⟨config, world, hlimit, rfl⟩
  exact
    { kept := Stack.kept_of_reachable C (.of_init ⟨config, world, hlimit, rfl⟩)
      limited := by simp [Worker.Limited, Worker.spawn]
      permits := rfl
      requests := List.nodup_nil
      issued := List.nil_subset _
      distinct := List.nodup_nil
      known := List.nil_subset _ }

/-- **The engine's limit counts finished handlers.**  Before the request of a live handler, the
entries of live handlers are fewer than the limit; so the limit is only ever reached with an entry
of a handler that has finished. -/
theorem limit_counts_finished (C : NetContract B) {p : Proxy B} (h : (proxySystem B).Reachable p)
    {target : Target} {port : ℕ} {reply : Reply} {rest : List Command} {g : ℕ} {e : Engine B}
    (hcommands : p.stack.worker.commands = .connect target port reply :: rest)
    (hengine : p.stack.worker.engine = some (g, e)) (hlive : reply ∈ p.live) :
    (e.owners.filter (· ∈ p.live)).length < e.maxConnections ∧
      (e.maxConnections ≤ e.flows.length + e.lookups.length → ∃ r ∈ e.owners, r ∉ p.live) := by
  have hcounted := Proxy.counted_of_reachable C h
  obtain ⟨hdistinct, -, hdisjoint⟩ := List.nodup_append.mp hcounted.distinct
  rw [Worker.owners_some hengine] at hdistinct hdisjoint
  have hqueued : reply ∈ p.stack.worker.queued := by
    rw [Worker.queued, hcommands]
    exact List.mem_cons_self
  have hfew : (e.owners.filter (· ∈ p.live)).length < e.maxConnections := by
    have hnodup : (reply :: e.owners.filter (· ∈ p.live)).Nodup :=
      List.nodup_cons.mpr ⟨fun hmem =>
        hdisjoint reply (List.mem_of_mem_filter hmem) reply hqueued rfl, hdistinct.filter _⟩
    have hsubset : reply :: e.owners.filter (· ∈ p.live) ⊆ p.live :=
      List.cons_subset.mpr ⟨hlive, fun r hr => by simpa using (List.mem_filter.mp hr).2⟩
    have hlength := (List.subperm_of_subset hnodup hsubset).length_le
    have hhandlers : p.live.length ≤ p.handlers.length := List.length_filterMap_le _ _
    have hpermits := hcounted.permits
    rw [hcounted.limited g e hengine]
    rw [List.length_cons] at hlength
    omega
  refine ⟨hfew, fun hfull => ?_⟩
  by_contra hall
  have hfilter : e.owners.filter (· ∈ p.live) = e.owners := by
    refine List.filter_eq_self.mpr fun r hr => ?_
    by_contra hr'
    exact hall ⟨r, hr, by simpa using hr'⟩
  rw [hfilter, e.length_owners] at hfew
  omega

/-! ## A client that is refused -/

namespace OneClient

/-- A proxy for one client at a time. -/
def start : Proxy (reference fun _ _ => .failed) :=
  ⟨⟨Worker.spawn ⟨30, 0, 1, 0⟩ ⟨0, [], []⟩, []⟩, 1, []⟩

def remote : Target := .ip (.v4 (.new 198 51 100 7))

/-- The rest of an iteration of the worker. -/
def iteration : List (ProxyAct (reference fun _ _ => .failed)) :=
  Sample.iteration.map .stack

/-- A session comes up and a client is connected; the client leaves, and its handler ends, so the
flow begins to close; and the next client asks for a connection. -/
def run : List (ProxyAct (reference fun _ _ => .failed)) :=
  [.stack (.send (.online 1 ⟨some (.new 10 8 0 2), none, [], 1400⟩ 0)),
    .stack (.thread (.select (.command 49152)))] ++ iteration ++
  [.accept, .request 0 remote 80 5, .stack (.thread (.select (.command 49152)))] ++ iteration ++
  [.stack (.receive 1 Sample.synAck), .stack (.thread (.select .packet))] ++ iteration ++
  [.finish 0, .stack (.outside ⟨0, [], []⟩ fun f => { f.bridge with gone := true }),
    .stack (.thread (.select .timeout))] ++ iteration ++
  [.accept, .request 0 remote 80 6]

end OneClient

open OneClient in
/-- The request of a client that holds the only permit, before the entry of a client that has
left. -/
theorem limit_counts_finished_left : ∃ p e, System.replay Proxy.act start run = some p ∧
    p.stack.worker.engine = some (1, e) ∧ p.live = [6] ∧ e.owners = [5] ∧
    (e.owners.filter (· ∈ p.live)).length < e.maxConnections ∧ ∃ r ∈ e.owners, r ∉ p.live := by
  have hreachable : ∀ {p}, System.replay Proxy.act start run = some p →
      (proxySystem (reference fun _ _ => .failed)).Reachable p := fun h =>
    ⟨start, run, ⟨⟨30, 0, 1, 0⟩, ⟨0, [], []⟩, by decide, rfl⟩, System.Run.of_replay h⟩
  refine ⟨_, _, rfl, rfl, rfl, rfl, ?_⟩
  have hboth := limit_counts_finished (Reference.netContract _) (hreachable rfl) rfl rfl
    (List.mem_singleton_self 6)
  exact ⟨hboth.1, hboth.2 le_rfl⟩

open OneClient in
/-- A client with a permit is refused by the engine's limit, which a closing flow uses up. -/
theorem limit_refuses_client : ∃ p p' e, System.replay Proxy.act start run = some p ∧
    p.stack.worker.engine = some (1, e) ∧ p.permits = 0 ∧ p.handlers = [some 6] ∧
    e.maxConnections ≤ e.flows.length + e.lookups.length ∧
    p.act (.stack (.thread (.select (.command 49152)))) = some p' ∧
    p'.stack.worker.log.getLast? =
      some (.engine 1 (.sent 6 (.error ⟨.other, "connection limit reached"⟩) true)) :=
  ⟨_, _, _, rfl, rfl, rfl, rfl, le_rfl, rfl, rfl⟩

end Socks

end Ovpnlane
