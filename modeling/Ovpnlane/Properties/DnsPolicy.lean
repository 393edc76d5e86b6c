import Ovpnlane.Properties.Resolution
import Ovpnlane.Properties.Handover

/-!
# The DNS policy of an engine

Two invariants of an engine's runs.  `Machine.Tracks` follows one request: before it is made nothing
is said about it, and from then on its entries are a dialogue of `Resolution`, whose open query is
the one of the request's lookup.  `Machine.Attributed` follows the query handles: a handle is handed
out afresh, so a result fetched with it ends the query that was last started with it, and that query
is of the same request.

`dns_policy` is what they say together about every run of every engine, with `DnsPolicy` as the
reading of one request's dialogue; `step_consults` adds that a step leaves no lookup out.
-/

namespace Ovpnlane

variable {B : Backend}

/-- The requests an action makes. -/
def EngineAct.replies : EngineAct B → List Reply
  | .connect _ _ reply => [reply]
  | _ => []

namespace Machine

variable {C : NetContract B} {m m' : Machine B} {now : Instant} {name : String} {port : ℕ}
  {reply : Reply} {settings : Settings}
  {P : List DnsEntry → Option (QueryHandle × List DnsQueryType) → Prop}

/-! ## One request -/

/-- The entries about `reply` and the query that is open for it meet `P`. -/
def Tracks (P : List DnsEntry → Option (QueryHandle × List DnsQueryType) → Prop)
    (settings : Settings) (name : String) (port : ℕ) (reply : Reply) (m : Machine B)
    (lookups : List Lookup) : Prop :=
  m.engine.settings = settings ∧ ∃ opened, P (dnsTrace reply m.log) opened ∧
    Awaits name port reply opened lookups

/-- The visits of the request's lookup keep `P`. -/
def Continues (B : Backend) (P : List DnsEntry → Option (QueryHandle × List DnsQueryType) → Prop)
    (name : String) (port : ℕ) (reply : Reply) : Prop :=
  ∀ (now : Instant) (m m' : Machine B) (lookup : Lookup) (w : Verdict Lookup),
    visitLookup now m lookup = .ok (m', w) → lookup.reply = reply → lookup.name = name →
      lookup.port = port → P (dnsTrace reply m.log) (some (lookup.query, lookup.fallback.toList)) →
      ∃ opened, P (dnsTrace reply m'.log) opened ∧ Awaits name port reply opened w.rest

lemma Tracks.perm {lookups lookups' : List Lookup}
    (h : m.Tracks P settings name port reply lookups) (hl : lookups.Perm lookups') :
    m.Tracks P settings name port reply lookups' := by
  obtain ⟨hsettings, opened, hP, hopened⟩ := h
  exact ⟨hsettings, opened, hP, hopened.congr fun l _ => hl.mem_iff.symm⟩

/-- What does not concern the request. -/
lemma Tracks.same {lookups lookups' : List Lookup} (h : m.Tracks P settings name port reply lookups)
    (htrace : dnsTrace reply m'.log = dnsTrace reply m.log)
    (hsettings : m'.engine.settings = m.engine.settings)
    (hsame : ∀ l, l.reply = reply → (l ∈ lookups' ↔ l ∈ lookups)) :
    m'.Tracks P settings name port reply lookups' := by
  obtain ⟨hs, opened, hP, hopened⟩ := h
  exact ⟨hsettings.trans hs, opened, htrace ▸ hP, hopened.congr hsame⟩

/-- The visit of a lookup: its own dialogue goes on, and no other lookup has its query. -/
lemma LookupVisit.tracks {lookup : Lookup} {w : Verdict Lookup} {v r : List Lookup}
    (hP : Continues B P name port reply) (h : visitLookup now m lookup = .ok (m', w))
    (hv : LookupVisit C now m lookup m' w)
    (hholds : m.engine.Holds C m.engine.flows (v ++ lookup :: r))
    (ht : m.Tracks P settings name port reply (v ++ lookup :: r)) :
    w.After (fun v r => m'.Tracks P settings name port reply (v ++ r)) v r := by
  obtain ⟨hother, hrest, hsettings⟩ := hv.other
  refine Verdict.after_of_rest (J := fun l => m'.Tracks P settings name port reply l)
    (fun _ _ hl h => h.perm hl) ?_
  replace ht := ht.perm List.perm_middle
  by_cases hreply : lookup.reply = reply
  · obtain ⟨hs, opened, hopen, hopened⟩ := ht
    obtain ⟨hname, hport, rfl⟩ := hopened.belongs lookup (by simp) hreply
    obtain ⟨opened', hopen', hopened'⟩ := hP now m m' lookup w h hreply hname hport hopen
    refine ⟨hsettings.trans hs, opened', hopen', hopened'.append fun l hl hl' => ?_⟩
    obtain ⟨-, -, hquery⟩ := hopened.belongs l (List.mem_cons_of_mem _ hl) hl'
    have hsame : l.query = lookup.query := (Prod.mk.inj (Option.some.inj hquery)).1.symm
    exact key_ne_of_nodup hholds.slots l hl hsame
  · refine ht.same (hother reply hreply) hsettings fun l hl => ?_
    have hnot : l ∉ w.rest := fun hmem => hreply ((hrest l hmem).symm.trans hl)
    have hne : l ≠ lookup := by
      rintro rfl
      exact hreply hl
    rw [List.mem_append, or_iff_right hnot, List.mem_cons, or_iff_right hne]

/-- A step. -/
lemma step_tracks (hP : Continues B P name port reply) (h : m.engine.Valid C)
    (ht : m.Tracks P settings name port reply m.engine.lookups) :
    ∃ m', m.step = .ok m' ∧ m'.engine.Valid C ∧
      m'.Tracks P settings name port reply m'.engine.lookups := by
  have hserved : ∀ {s s' : Machine B}, Serviced C s s' →
      s.Tracks P settings name port reply s.engine.lookups →
      s'.Tracks P settings name port reply s'.engine.lookups := by
    intro s s' hs htracks
    obtain ⟨net, device, -, hengine, -⟩ := id hs
    exact htracks.same (hs.other.1 reply) hs.other.2 (by simp [hengine])
  obtain ⟨t, now, s, l, hok, hvalid, hF⟩ := @step_visits B C m
    (fun _ s v r => s.Tracks P settings name port reply (v ++ r))
    (fun _ s _ _ => s.Tracks P settings name port reply s.engine.lookups) h
    (fun t now s hpolled => by
      refine (hserved (hpolled.serviced (C := C)) ht).same ?_ rfl (by simp)
      show dnsTrace reply (s.log ++ [.stepAt now]) = _
      rw [dnsTrace_append]
      exact List.append_nil _)
    (fun now s v a r s' w hholds htracks hok hv => hv.tracks hP hok hholds htracks)
    (fun now s l _ htracks => by rwa [List.append_nil] at htracks)
    (fun now s v a r s' w _ htracks _ hv => w.after_of_forall fun _ _ =>
      htracks.same (hv.other.1 reply) hv.other.2 (by simp [hv.lookups]))
  exact ⟨_, hok, hvalid, hserved (pollIface_spec C (s.setFlows l) t) hF⟩

/-- What happens to an engine, but for the request itself being made. -/
lemma perform_tracks (hP : Continues B P name port reply) (h : m.engine.Valid C)
    (ht : m.Tracks P settings name port reply m.engine.lookups) {a : EngineAct B}
    (ha : reply ∉ a.replies) :
    ∃ m', m.perform a = .ok m' ∧ m'.engine.Valid C ∧
      m'.Tracks P settings name port reply m'.engine.lookups := by
  cases a with
  | connect target port' reply' =>
    obtain ⟨m', hok, hrequested, hvalid⟩ := connect_rule h target port' reply'
    have hne : reply' ≠ reply := by simpa [EngineAct.replies, eq_comm] using ha
    obtain ⟨htrace, hlookups, hsettings⟩ := hrequested.other
    refine ⟨m', hok, hvalid, ht.same (htrace reply hne) hsettings fun l hl => ?_⟩
    exact hlookups l fun h => hne (h.symm.trans hl)
  | step => exact step_tracks hP h ht
  | incoming packet =>
    exact ⟨_, rfl, h.service (m.engine.pushIncoming packet).device rfl,
      ht.same rfl rfl fun _ _ => .rfl⟩
  | outside world bridge =>
    exact ⟨_, rfl, { h.bridges bridge with }, ht.same rfl rfl fun _ _ => .rfl⟩

/-- The run lemma. -/
lemma run_tracks (hP : Continues B P name port reply) {acts : List (EngineAct B)}
    {s : Except Fault (Machine B)} (hrun : (engineSystem B).Run (.ok m) acts s)
    (hacts : reply ∉ acts.flatMap EngineAct.replies) (h : m.engine.Valid C)
    (ht : m.Tracks P settings name port reply m.engine.lookups) :
    ∃ m', s = .ok m' ∧ m'.engine.Valid C ∧
      m'.Tracks P settings name port reply m'.engine.lookups :=
  run_rule (I := fun m => m.Tracks P settings name port reply m.engine.lookups)
    (fun _ a ha hvalid htracks => perform_tracks hP hvalid htracks
      fun hmem => hacts (List.mem_flatMap.mpr ⟨a, ha, hmem⟩))
    hrun h ht

/-- Before a request is made, nothing is said about it. -/
def Unmade (trace : List DnsEntry) (opened : Option (QueryHandle × List DnsQueryType)) : Prop :=
  trace = [] ∧ opened = none

lemma continues_unmade : Continues B Unmade name port reply := by
  intro now m m' lookup w _ _ _ _ hopen
  exact absurd hopen.2 (by simp)

lemma continues_resolution {kinds : List DnsQueryType} :
    Continues B (Resolution name port kinds) name port reply := by
  rintro now m m' lookup w h rfl rfl rfl hopen
  exact visitLookup_resolution h hopen

/-- **The lookup of a request follows the grammar**, whatever happens to the engine. -/
lemma run_resolution {acts : List (EngineAct B)} {m₀ : Machine B} {s : Except Fault (Machine B)}
    (hrun : (engineSystem B).Run (.ok m₀) acts s) (h : m₀.engine.Valid C) (hlog : m₀.log = [])
    (hlookups : m₀.engine.lookups = []) (hlinear : (acts.flatMap EngineAct.replies).Nodup)
    (hreq : .connect (.domain name) port reply ∈ acts) :
    ∃ m, s = .ok m ∧ m.engine.Valid C ∧
      m.Tracks (Resolution name port m₀.engine.settings.lookupTypes) m₀.engine.settings name port
        reply m.engine.lookups := by
  obtain ⟨before, after, rfl⟩ := List.append_of_mem hreq
  obtain ⟨hbefore, hafter⟩ : reply ∉ before.flatMap EngineAct.replies ∧
      reply ∉ after.flatMap EngineAct.replies := by
    rw [List.flatMap_append, List.flatMap_cons, List.nodup_append] at hlinear
    obtain ⟨-, hlast, hapart⟩ := hlinear
    refine ⟨fun hmem => hapart reply hmem reply (by simp [EngineAct.replies]) rfl, ?_⟩
    exact (List.nodup_cons.mp hlast).1
  obtain ⟨s₁, hrun₁, hrun₂⟩ := hrun.of_append
  have htracks : m₀.Tracks Unmade m₀.engine.settings name port reply m₀.engine.lookups :=
    ⟨rfl, none, ⟨by rw [hlog]; rfl, rfl⟩, by rw [hlookups]; exact .nil⟩
  obtain ⟨m₁, rfl, hvalid₁, hsettings, opened, ⟨hnone, rfl⟩, hopened⟩ :=
    run_tracks (continues_unmade (B := B)) hrun₁ hbefore h htracks
  obtain ⟨s₂, ⟨_, hm₁, rfl⟩, hrun₃⟩ := hrun₂.of_cons
  obtain rfl := Except.ok.inj hm₁
  obtain ⟨m₂, hok, hrequested, hvalid₂⟩ := connect_rule hvalid₁ (.domain name) port reply
  obtain ⟨opened', hbegun, hopened'⟩ := connect_resolution hok hnone
    fun l hl hreply => by simpa using (hopened.belongs l hl hreply).2.2
  rw [perform, hok] at hrun₃
  rw [hsettings] at hbegun
  exact run_tracks continues_resolution hrun₃ hafter hvalid₂
    ⟨hrequested.other.2.2.trans hsettings, opened', hbegun, hopened'⟩

end Machine

/-! ## Whose results they are -/

namespace Event

/-- A query is started with this handle. -/
def starts (q : QueryHandle) : Event B → Bool
  | .query _ _ _ (.ok handle) => handle == q
  | _ => false

/-- An entry about a query handle. -/
def usesHandle : Event B → Bool
  | .query _ _ _ (.ok _) | .queryResult .. => true
  | _ => false

/-- A result is fetched for the request whose query was last started with the handle. -/
def Attributed (pre : List (Event B)) : Event B → Prop
  | .queryResult r q _ =>
    ∃ pre' name kind, LastOf (starts q) pre pre' (.query r name kind (.ok q))
  | _ => True

lemma starts_of_usesHandle {e : Event B} (h : e.usesHandle = false) (q : QueryHandle) :
    e.starts q = false := by
  cases e with
  | query reply name kind handle => cases handle <;> simp_all [usesHandle, starts]
  | _ => rfl

lemma attributed_of_usesHandle {e : Event B} (h : e.usesHandle = false) (pre : List (Event B)) :
    Attributed pre e := by
  cases e with
  | queryResult => simp [usesHandle] at h
  | _ => trivial

end Event

/-- Every result was attributed to its request, and so will be those of the open lookups. -/
structure Attributed (log : List (Event B)) (lookups : List Lookup) : Prop where
  results : Each Event.Attributed log
  owned : ∀ l ∈ lookups, ∃ pre kind,
    LastOf (Event.starts l.query) log pre (.query l.reply l.name kind (.ok l.query))

namespace Attributed

variable {log : List (Event B)} {lookups : List Lookup}

lemma mono {lookups' : List Lookup} (h : Attributed log lookups) (hsub : lookups' ⊆ lookups) :
    Attributed log lookups' :=
  ⟨h.results, fun l hl => h.owned l (hsub hl)⟩

lemma quiet (h : Attributed log lookups) {es : List (Event B)}
    (hes : ∀ e ∈ es, e.usesHandle = false) : Attributed (log ++ es) lookups where
  results := each_append.mpr ⟨h.results, fun pre e post hsplit =>
    Event.attributed_of_usesHandle (hes e (by simp [hsplit])) _⟩
  owned := by
    intro l hl
    obtain ⟨pre, kind, hlast⟩ := h.owned l hl
    exact ⟨pre, kind, hlast.append fun e he => Event.starts_of_usesHandle (hes e he) l.query⟩

/-- The result of an open lookup. -/
lemma result (h : Attributed log lookups) {l : Lookup} (hl : l ∈ lookups) (result : QueryResult) :
    Attributed (log ++ [.queryResult l.reply l.query result]) lookups where
  results := by
    obtain ⟨pre, kind, hlast⟩ := h.owned l hl
    exact each_concat.mpr ⟨h.results, pre, l.name, kind, hlast⟩
  owned := by
    intro l' hl'
    obtain ⟨pre, kind, hlast⟩ := h.owned l' hl'
    exact ⟨pre, kind, hlast.append (by simp [Event.starts])⟩

/-- A new lookup, with a handle nobody has. -/
lemma start (h : Attributed log lookups) {lookup : Lookup}
    (hfresh : ∀ l ∈ lookups, l.query ≠ lookup.query) (kind : DnsQueryType) :
    Attributed (log ++ [.query lookup.reply lookup.name kind (.ok lookup.query)])
      (lookup :: lookups) where
  results := each_concat.mpr ⟨h.results, trivial⟩
  owned := by
    intro l hl
    rcases List.mem_cons.mp hl with rfl | hl
    · exact ⟨log, kind, lastOf_concat.mpr (.inl ⟨by simp [Event.starts], rfl, rfl⟩)⟩
    · obtain ⟨pre, kind', hlast⟩ := h.owned l hl
      have hne := Ne.symm (hfresh l hl)
      exact ⟨pre, kind', hlast.append (by simp [Event.starts, hne])⟩

end Attributed

namespace Machine

variable {C : NetContract B} {m m' : Machine B} {now : Instant} {port : ℕ} {reply : Reply}

lemma Dialed.attributed {ip : IpAddr} {deadline : Instant} {lookups : List Lookup}
    (hd : Dialed C m ip port reply deadline m') (h : Attributed m.log lookups) :
    Attributed m'.log lookups := by
  cases hd with
  | refused _ _ _ _ _ _ _ hlog | opened _ _ _ _ _ _ _ _ _ _ _ _ _ _ hlog =>
    rw [hlog]
    exact h.quiet (by simp [Event.usesHandle])

/-- What the entries of a visit say is attributed to its lookup. -/
lemma LookupVisit.attributed {lookup : Lookup} {w : Verdict Lookup} {v r : List Lookup}
    (hv : LookupVisit C now m lookup m' w)
    (hholds : m.engine.Holds C m.engine.flows (v ++ lookup :: r))
    (h : Attributed m.log (v ++ lookup :: r)) :
    w.After (fun v r => Attributed m'.log (v ++ r)) v r := by
  refine Verdict.after_of_rest (J := fun l => Attributed m'.log l)
    (fun _ _ hl h => h.mono fun l hmem => hl.mem_iff.mpr hmem) ?_
  have hfirst : Attributed m.log (lookup :: (v ++ r)) :=
    h.mono fun l hl => List.perm_middle.mem_iff.mpr hl
  have hrest : v ++ r ⊆ lookup :: (v ++ r) := List.subset_cons_self _ _
  have hended : ∀ result, Attributed (m.log ++ [.observed lookup.reply false,
      .queryResult lookup.reply lookup.query result]) (lookup :: (v ++ r)) := by
    intro result
    have hobserved : Attributed (m.log ++ [.observed lookup.reply false]) (lookup :: (v ++ r)) :=
      hfirst.quiet (by simp [Event.usesHandle])
    simpa using hobserved.result (List.mem_cons_self ..) result
  cases hv with
  | expired net closed error delivered _ _ hlog =>
    rw [hlog]
    exact (hfirst.mono hrest).quiet (by simp [Event.usesHandle])
  | pending net _ _ _ hlog =>
    rw [hlog]
    exact hended .pending
  | resolved m₁ net result ip _ _ _ hlog hdial =>
    exact hdial.attributed (hlog ▸ (hended result).mono hrest)
  | failed net result events error delivered _ _ _ hevents hlog =>
    rw [hlog]
    refine Attributed.quiet (Attributed.quiet ((hended result).mono hrest) ?_)
      (by simp [Event.usesHandle])
    rcases hevents with rfl | ⟨kind, text, rfl⟩ <;> simp [Event.usesHandle]
  | again freed net result kind query _ _ hfreed hfresh _ _ hlog =>
    rw [hfreed] at hfresh
    have hfree : ∀ l ∈ v ++ r, l.query ≠ query := hholds.query_ne hfresh
    have hstarted := @Attributed.start B _ _ ((hended result).mono hrest)
      { lookup with query := query, fallback := none } hfree kind
    rw [hlog]
    simpa [Verdict.rest] using hstarted

lemma FlowVisit.attributed {flow : Flow B} {w : Verdict (Flow B)} {lookups : List Lookup}
    (hv : FlowVisit C now m flow m' w) (h : Attributed m.log lookups) :
    Attributed m'.log lookups := by
  have hcalls : ∀ calls : List (FlowCall B),
      ∀ e ∈ calls.map (Event.flow flow.request), e.usesHandle = false := by
    intro calls e he
    obtain ⟨_, -, rfl⟩ := List.mem_map.mp he
    rfl
  cases hv with
  | kept _ p _ _ _ _ hlog =>
    rw [hlog]
    exact h.quiet (hcalls p.calls)
  | dropped _ p _ _ _ _ hlog =>
    rw [hlog]
    refine (h.quiet (hcalls p.calls)).quiet fun e he => ?_
    obtain ⟨_, -, rfl⟩ := List.mem_map.mp he
    rfl

lemma Serviced.attributed {lookups : List Lookup} (hs : Serviced C m m')
    (h : Attributed m.log lookups) : Attributed m'.log lookups := by
  obtain ⟨net, device, events, -, -, hlog, hevents, -⟩ := hs
  rw [hlog]
  refine h.quiet fun e he => ?_
  have he' := hevents e he
  cases e with
  | transmitted packet taken => rfl
  | _ => simp [Event.isTransmitted] at he'

lemma Requested.attributed {target : Target} (hr : Requested C m target port reply m')
    (hvalid : m.engine.Valid C) (h : Attributed m.log m.engine.lookups) :
    Attributed m'.log m'.engine.lookups := by
  cases hr with
  | gone hengine hlog | full _ _ hengine hlog =>
    rw [hengine, hlog]
    exact h.quiet (by simp [Event.usesHandle])
  | dialed m₁ deadline ip _ _ hengine hlog hdial =>
    rw [hdial.other.2.1, hengine]
    apply hdial.attributed
    rw [hlog]
    exact h.quiet (by simp [Event.usesHandle])
  | refused net deadline events error delivered _ _ hengine hevents hlog =>
    rw [hengine, hlog]
    refine Attributed.quiet (Attributed.quiet (h.quiet (by simp [Event.usesHandle])) ?_)
      (by simp [Event.usesHandle])
    rcases hevents with rfl | ⟨name, kind, text, rfl⟩ <;> simp [Event.usesHandle]
  | lookedUp net lookup kind _ hfresh _ hreply hengine hlog =>
    have haccepted : Attributed (m.log ++ [.observed reply false, .accepted reply lookup.deadline])
        m.engine.lookups := h.quiet (by simp [Event.usesHandle])
    have hfree : ∀ l ∈ m.engine.lookups, l.query ≠ lookup.query := by
      intro l hl hquery
      rw [hvalid.queries, List.mem_toFinset] at hfresh
      exact hfresh (List.mem_map.mpr ⟨l, hl, hquery⟩)
    have hstarted := (haccepted.start hfree kind).mono
      fun l hl => (List.perm_append_singleton lookup m.engine.lookups).mem_iff.mp hl
    rw [hengine, hlog]
    simpa [hreply] using hstarted

/-- What happens to an engine keeps the attribution. -/
lemma perform_attributed (h : m.engine.Valid C) (hm : Attributed m.log m.engine.lookups)
    (a : EngineAct B) :
    ∃ m', m.perform a = .ok m' ∧ m'.engine.Valid C ∧ Attributed m'.log m'.engine.lookups := by
  cases a with
  | connect target port reply =>
    obtain ⟨m', hok, hrequested, hvalid⟩ := connect_rule h target port reply
    exact ⟨m', hok, hvalid, hrequested.attributed h hm⟩
  | step =>
    obtain ⟨m', now, s, l, hok, hvalid, hF, hserviced⟩ := @step_rule B C m
      (fun _ s v r => Attributed s.log (v ++ r))
      (fun _ s _ _ => Attributed s.log s.engine.lookups) h
      (fun now s hs => by
        obtain ⟨net, device, -, hengine, -⟩ := id hs
        rw [hengine]
        have hstepAt : ∀ e ∈ [Event.stepAt (B := B) now], e.usesHandle = false := by
          simp [Event.usesHandle]
        exact (hs.attributed hm).quiet hstepAt)
      (fun now s v a r s' w hholds hattributed hv => hv.attributed hholds hattributed)
      (fun now s l _ hattributed => by rwa [List.append_nil] at hattributed)
      (fun now s v a r s' w _ hattributed hv => w.after_of_forall fun _ _ => by
        rw [hv.lookups]
        exact hv.attributed hattributed)
    refine ⟨m', hok, hvalid, ?_⟩
    obtain ⟨net, device, -, hengine, -⟩ := id hserviced
    rw [hengine]
    exact hserviced.attributed hF
  | incoming packet =>
    exact ⟨_, rfl, h.service (m.engine.pushIncoming packet).device rfl, hm⟩
  | outside world bridge => exact ⟨_, rfl, { h.bridges bridge with }, hm⟩

/-- The run lemma. -/
lemma run_attributed {acts : List (EngineAct B)} {s : Except Fault (Machine B)}
    (hrun : (engineSystem B).Run (.ok m) acts s) (h : m.engine.Valid C) (hlog : m.log = [])
    (hlookups : m.engine.lookups = []) :
    ∃ m', s = .ok m' ∧ m'.engine.Valid C ∧ Attributed m'.log m'.engine.lookups := by
  refine run_rule (I := fun m => Attributed m.log m.engine.lookups)
    (fun _ a _ hvalid hm => perform_attributed hvalid hm a) hrun h ?_
  rw [hlog, hlookups]
  exact ⟨each_nil, by simp⟩

/-! ## A step consults every lookup -/

/-- The receiver of a lookup's reply is seen to be gone, the lookup is too late, or its query is
polled. -/
def Consulted (now : Instant) (es : List (Event B)) (lookup : Lookup) : Prop :=
  .observed lookup.reply true ∈ es ∨ lookup.deadline ≤ now ∨
    ∃ result, .queryResult lookup.reply lookup.query result ∈ es

lemma Consulted.append {es : List (Event B)} {lookup : Lookup} (h : Consulted now es lookup)
    (more : List (Event B)) : Consulted now (es ++ more) lookup := by
  rcases h with h | h | ⟨result, h⟩
  · exact .inl (List.mem_append_left _ h)
  · exact .inr (.inl h)
  · exact .inr (.inr ⟨result, List.mem_append_left _ h⟩)

lemma visitLookup_consults {lookup : Lookup} {w : Verdict Lookup}
    (h : visitLookup now m lookup = .ok (m', w)) :
    ∃ es, m'.log = m.log ++ es ∧ Consulted now es lookup := by
  have hpolled : ∀ {s : Machine B} {result : QueryResult} {more : List (Event B)},
      (m.isClosed lookup.reply).2.getQueryResult lookup.reply lookup.query = .ok (result, s) →
      m'.log = s.log ++ more → ∃ es, m'.log = m.log ++ es ∧ Consulted now es lookup := by
    intro s result more hresult hm
    obtain ⟨closed, hs⟩ := getQueryResult_log hresult
    exact ⟨_, hm.trans (by rw [hs, List.append_assoc]), .inr (.inr ⟨result, by simp⟩)⟩
  cases visitLookup_eq_ok h with
  | expired s hlate hcancel =>
    obtain ⟨net, -, rfl⟩ := cancelQuery_eq_ok hcancel
    refine ⟨[.observed lookup.reply (m.isClosed lookup.reply).1, .sent lookup.reply _ _],
      List.append_assoc .., ?_⟩
    rcases hlate with hgone | hlate
    · exact .inl (by simp [hgone])
    · exact .inr (.inl hlate)
  | pending s hresult => exact hpolled hresult (List.append_nil _).symm
  | resolved s _ result ip hresult _ _ hdial =>
    obtain ⟨refusals, -, hlog⟩ := connectIp_log hdial
    exact hpolled hresult hlog
  | exhausted s result hresult => exact hpolled hresult rfl
  | again s _ result kind query hresult _ _ _ hquery =>
    exact hpolled hresult (startQuery_log hquery)
  | unstartable s s' result kind text hresult _ _ _ hquery =>
    obtain ⟨-, rfl⟩ := startQuery_eq_ok hquery
    exact hpolled hresult (List.append_assoc ..)

/-- Of the lookups of `m`, a step has consulted all but those that are left. -/
def Consulting (m : Machine B) (now : Instant) (s : Machine B) (left : List Lookup) : Prop :=
  ∃ es, s.log = m.log ++ es ∧ .stepAt now ∈ es ∧
    ∀ l ∈ m.engine.lookups, l ∈ left ∨ Consulted now es l

lemma Consulting.extend {s s' : Machine B} {left : List Lookup} {more : List (Event B)}
    (h : m.Consulting now s left) (hlog : s'.log = s.log ++ more) : m.Consulting now s' left := by
  obtain ⟨es, hes, hat, hconsulted⟩ := h
  exact ⟨es ++ more, by rw [hlog, hes, List.append_assoc], List.mem_append_left _ hat,
    fun l hl => (hconsulted l hl).imp_right fun h => h.append more⟩

lemma Consulting.mono {s : Machine B} {left left' : List Lookup} (h : m.Consulting now s left)
    (hsub : left ⊆ left') : m.Consulting now s left' := by
  obtain ⟨es, hes, hat, hconsulted⟩ := h
  exact ⟨es, hes, hat, fun l hl => (hconsulted l hl).imp_left fun h => hsub h⟩

/-- A visit consults its lookup. -/
lemma Consulting.visit {s s' : Machine B} {lookup : Lookup} {left : List Lookup}
    {w : Verdict Lookup} (h : m.Consulting now s (lookup :: left))
    (hok : visitLookup now s lookup = .ok (s', w)) : m.Consulting now s' left := by
  obtain ⟨es, hes, hat, hconsulted⟩ := h
  obtain ⟨more, hmore, ha⟩ := visitLookup_consults hok
  refine ⟨es ++ more, by rw [hmore, hes, List.append_assoc], List.mem_append_left _ hat, ?_⟩
  intro l hl
  rcases hconsulted l hl with hl | hl
  · rcases List.mem_cons.mp hl with rfl | hl
    · right
      rcases ha with ha | ha | ⟨result, ha⟩
      · exact .inl (List.mem_append_right _ ha)
      · exact .inr (.inl ha)
      · exact .inr (.inr ⟨result, List.mem_append_right _ ha⟩)
    · exact .inl hl
  · exact .inr (hl.append more)

/-- **A step consults every lookup** it finds. -/
lemma step_consults (h : m.engine.Valid C) :
    ∃ m' now es, m.step = .ok m' ∧ m'.log = m.log ++ es ∧ .stepAt now ∈ es ∧
      ∀ l ∈ m.engine.lookups, Consulted now es l := by
  obtain ⟨t, now, s, l, hok, -, hconsulting⟩ := @step_visits B C m
    (fun now s _ r => m.Consulting now s r) (fun now s _ _ => m.Consulting now s []) h
    (fun t now s hpolled => by
      obtain ⟨net, device, events, hengine, -, hlog, -⟩ := hpolled.serviced (C := C)
      refine ⟨events ++ [.stepAt now], ?_, by simp, by rw [hengine]; exact fun l hl => .inl hl⟩
      rw [setLookups, note, hlog, List.append_assoc])
    (fun now s v a r s' w _ hconsulting hok _ => by
      have hnext := hconsulting.visit hok
      cases w with
      | keep kept => exact hnext
      | remove => exact fun r' hr => hnext.mono fun l hl => hr.mem_iff.mpr hl
      | requeue l =>
        exact fun r' hr => hnext.mono fun l hl => List.mem_append_left _ (hr.mem_iff.mpr hl))
    (fun now s l _ hconsulting => hconsulting)
    (fun now s v a r s' w _ hconsulting _ hv => w.after_of_forall fun _ _ => by
      obtain ⟨more, hmore, -⟩ := hv.handled
      exact hconsulting.extend hmore)
  obtain ⟨net, device, events, -, -, hlog, -⟩ := pollIface_spec C (s.setFlows l) t
  obtain ⟨es, hes, hat, hall⟩ := hconsulting.extend hlog
  exact ⟨_, now, es, hok, hes, hat, fun l hl => (hall l hl).resolve_left List.not_mem_nil⟩

/-- A list of actions that succeed one after the other is a run. -/
lemma run_of_foldlM {acts : List (EngineAct B)} (h : acts.foldlM perform m = .ok m') :
    (engineSystem B).Run (.ok m) acts (.ok m') := by
  induction acts generalizing m with
  | nil =>
    obtain rfl := Except.ok.inj h
    exact .nil
  | cons a acts ih =>
    rw [List.foldlM_cons] at h
    obtain ⟨m₁, hm₁, hrest⟩ := bind_eq_ok.mp h
    exact .cons ⟨m, rfl, hm₁.symm⟩ (ih hrest)

end Machine

/-! ## The policy -/

/-- The policy of one request for `name` and `port`, of which `trace` is all that the log says. -/
structure DnsPolicy (settings : Settings) (name : String) (port : ℕ) (trace : List DnsEntry) :
    Prop where
  /-- Without a server nothing is asked. -/
  serverless : settings.dns = [] → kindsAsked trace = []
  /-- Nothing is asked for a request that is not accepted. -/
  unaccepted : .accepted ∉ trace → kindsAsked trace = []
  /-- The requested name is asked for. -/
  names : ∀ name' kind query, .asked name' kind query ∈ trace → name' = name
  ipv4Only : settings.dns ≠ [] → .accepted ∈ trace → settings.ipv4.isSome = true →
    settings.ipv6 = none → kindsAsked trace = [.a]
  ipv6Only : settings.dns ≠ [] → .accepted ∈ trace → settings.ipv4 = none →
    kindsAsked trace = [.aaaa]
  dualStack : settings.dns ≠ [] → .accepted ∈ trace → settings.ipv4.isSome = true →
    settings.ipv6.isSome = true → kindsAsked trace = [.a] ∨ kindsAsked trace = [.a, .aaaa]
  /-- The second query follows the end of the first without an address. -/
  fallback : settings.ipv4.isSome = true → .aaaa ∈ kindsAsked trace →
    ∃ query result query' post, result.addresses = [] ∧ trace = .accepted ::
      .asked name .a (.ok query) :: .ended query result :: .asked name .aaaa query' :: post
  /-- `connect_ip` is called once with the first of the addresses and with the requested port; it is
  not called when no query had an address. -/
  dialed : dialedIn trace = (addressesIn trace).head?.toList.map (·, port)
  /-- A lookup fails when every query the families allow was fruitless. -/
  failed : .refused queryFailed ∈ trace → ∀ kind ∈ settings.recordTypes, Fruitless name trace kind

/-- **The grammar implies the policy.** -/
lemma Resolution.policy {settings : Settings} {name : String} {port : ℕ} {trace : List DnsEntry}
    {opened : Option (QueryHandle × List DnsQueryType)}
    (h : Resolution name port settings.lookupTypes trace opened) :
    DnsPolicy settings name port trace := by
  obtain ⟨hkinds, hsome⟩ := h.kindsAsked_prefix
  have htypes : settings.dns ≠ [] → settings.lookupTypes = settings.recordTypes :=
    fun hdns => if_neg (by simpa using hdns)
  have hasked : settings.dns ≠ [] → .accepted ∈ trace →
      kindsAsked trace <+: settings.recordTypes ∧ kindsAsked trace ≠ [] := by
    intro hdns haccepted
    rw [htypes hdns] at hkinds hsome
    exact ⟨hkinds, hsome haccepted (by rw [recordTypes_eq]; simp)⟩
  have hone : ∀ {kind : DnsQueryType}, kindsAsked trace <+: [kind] → kindsAsked trace ≠ [] →
      kindsAsked trace = [kind] := by
    intro kind hp hne
    rcases List.prefix_cons_iff.mp hp with hnil | ⟨rest, hrest, hrest'⟩
    · exact absurd hnil hne
    · rw [hrest, List.prefix_nil.mp hrest']
  refine ⟨fun hdns => ?_, fun hnot => ?_, fun _ _ _ => h.name_asked, ?_, ?_, ?_, ?_, h.dialed_eq,
    fun hfailed => ?_⟩
  · rw [Settings.lookupTypes, hdns] at hkinds
    exact List.prefix_nil.mp hkinds
  · rcases h.last_asked with ⟨-, hnone⟩ | ⟨-, hnone⟩ | ⟨tried, kind, query, more, rest, rfl, -⟩
    · exact hnone
    · exact hnone
    · exact absurd (List.mem_cons_self ..) hnot
  · intro hdns haccepted hipv4 hipv6
    obtain ⟨hp, hne⟩ := hasked hdns haccepted
    obtain ⟨ip, hip⟩ := Option.isSome_iff_exists.mp hipv4
    rw [Settings.recordTypes, hip, hipv6] at hp
    exact hone hp hne
  · intro hdns haccepted hipv4
    obtain ⟨hp, hne⟩ := hasked hdns haccepted
    rw [Settings.recordTypes, hipv4] at hp
    exact hone hp hne
  · intro hdns haccepted hipv4 hipv6
    obtain ⟨hp, hne⟩ := hasked hdns haccepted
    obtain ⟨ip, hip⟩ := Option.isSome_iff_exists.mp hipv4
    obtain ⟨ip', hip'⟩ := Option.isSome_iff_exists.mp hipv6
    rw [Settings.recordTypes, hip, hip'] at hp
    rcases List.prefix_cons_iff.mp hp with hnil | ⟨rest, hrest, hrest'⟩
    · exact absurd hnil hne
    · rw [hrest]
      rcases List.prefix_cons_iff.mp hrest' with rfl | ⟨rest', rfl, hrest''⟩
      · exact .inl rfl
      · exact .inr (by rw [List.prefix_nil.mp hrest''])
  · intro hipv4 hmem
    have hdns : settings.dns ≠ [] := by
      intro hdns
      rw [Settings.lookupTypes, hdns] at hkinds
      rw [List.prefix_nil.mp hkinds] at hmem
      simp at hmem
    obtain ⟨ip, hip⟩ := Option.isSome_iff_exists.mp hipv4
    rw [htypes hdns, Settings.recordTypes, hip] at h hkinds
    rcases hipv6 : settings.ipv6 with _ | ip' <;> rw [hipv6] at h hkinds
    · exact absurd (hkinds.subset hmem) (by simp)
    · exact h.second_asked (by decide) hmem
  · obtain ⟨hne, hall⟩ := h.fruitless hfailed
    rw [Settings.lookupTypes] at hne hall
    split_ifs at hne hall
    · simp at hne
    · exact hall

/-- **The DNS policy.**  In every run of every engine, each request for a name is looked up
according to the policy; a query it still awaits is the query of its lookup; a result is fetched for
the request whose query was last started with its handle; and a step polls the query of every lookup
that is neither cancelled nor too late.  A reply is used for one request. -/
theorem dns_policy (C : NetContract B) {settings : Settings} {sink : SinkId}
    {connectTimeout idleTimeout maxConnections clock nextPort : ℕ} {e : Engine B}
    {world : B.World} {acts : List (EngineAct B)} {m : Machine B}
    (hlimit : maxConnections ≤ 4096) (hport : nextPort ∈ Finset.Ico 49152 65535)
    (hnew : Engine.new B settings sink connectTimeout idleTimeout maxConnections clock nextPort =
      .ok e)
    (hrun : (engineSystem B).Run (.ok ⟨e, world, []⟩) acts (.ok m))
    (hlinear : (acts.flatMap EngineAct.replies).Nodup) :
    (∀ name port reply, .connect (.domain name) port reply ∈ acts →
      DnsPolicy settings name port (dnsTrace reply m.log) ∧
        ∀ kind query, (dnsTrace reply m.log).getLast? = some (.asked name kind (.ok query)) →
          ∃ l ∈ m.engine.lookups, l.reply = reply ∧ l.query = query) ∧
    Each Event.Attributed m.log ∧
    ∃ m' now es, m.step = .ok m' ∧ m'.log = m.log ++ es ∧ .stepAt now ∈ es ∧
      ∀ l ∈ m.engine.lookups, Machine.Consulted now es l := by
  have hvalid := Engine.new_valid C hlimit hport hnew
  obtain ⟨hsettings, hlookups⟩ : e.settings = settings ∧ e.lookups = [] := by
    obtain ⟨_, _, _, _, -, -, -, rfl⟩ := Engine.new_eq_ok hnew
    exact ⟨rfl, rfl⟩
  obtain ⟨m₁, hm₁, hvalid₁, hattributed⟩ := Machine.run_attributed hrun hvalid rfl hlookups
  obtain rfl := Except.ok.inj hm₁
  refine ⟨fun name port reply hreq => ?_, hattributed.results, Machine.step_consults hvalid₁⟩
  obtain ⟨m₂, hm₂, -, -, opened, hresolution, hopened⟩ :=
    Machine.run_resolution hrun hvalid rfl hlookups hlinear hreq
  obtain rfl := Except.ok.inj hm₂
  rw [show (⟨e, world, []⟩ : Machine B).engine.settings = settings from hsettings] at hresolution
  refine ⟨hresolution.policy, fun kind query hlast => ?_⟩
  obtain ⟨rest, rfl⟩ := hresolution.open_of_last hlast
  exact hopened.held query rest rfl

/-- Two lookups at once on a dual-stack tunnel; one of the names has no IPv4 address, and each
answer lists two addresses. -/
theorem dns_policy_fallback :
    let host : IpAddr := .v6 (.ofSegments [0xfd00, 0, 0, 0, 0, 0, 0, 9] rfl)
    let other : IpAddr := .v6 (.ofSegments [0xfd00, 0, 0, 0, 0, 0, 0, 10] rfl)
    let resolve := fun name kind =>
      if name = "six.example" ∧ kind = .a then QueryResult.failed
      else .completed (if kind = .a then [.v4 (.new 192 0 2 7), .v4 (.new 192 0 2 8)]
        else [host, other])
    let settings : Settings := ⟨some (.new 10 8 0 2),
      some (.ofSegments [0xfd00, 0, 0, 0, 0, 0, 0, 2] rfl), [.v4 (.new 10 8 0 1)], 1400⟩
    ∃ e m, Engine.new (reference resolve) settings 0 30 0 8 0 49152 = .ok e ∧
      [EngineAct.connect (.domain "six.example") 443 1, .connect (.domain "four.example") 80 2,
        .step].foldlM Machine.perform (⟨e, ⟨0, [], []⟩, []⟩ : Machine (reference resolve)) =
          .ok m ∧
      dialedIn (dnsTrace 1 m.log) = [(host, 443)] ∧
      dialedIn (dnsTrace 2 m.log) = [(.v4 (.new 192 0 2 7), 80)] ∧
      DnsPolicy settings "six.example" 443 (dnsTrace 1 m.log) := by
  intro host other resolve settings
  have hrun : (Engine.new (reference resolve) settings 0 30 0 8 0 49152 >>= fun e =>
      [EngineAct.connect (.domain "six.example") 443 1, .connect (.domain "four.example") 80 2,
        .step].foldlM Machine.perform ⟨e, ⟨0, [], []⟩, []⟩).map
          (fun m => (dialedIn (dnsTrace 1 m.log), dialedIn (dnsTrace 2 m.log))) =
        .ok ([(host, 443)], [(.v4 (.new 192 0 2 7), 80)]) := by decide +kernel
  obtain ⟨m, hm, hdialed⟩ := except_map_eq_ok.mp hrun
  obtain ⟨e, hnew, hm⟩ := bind_eq_ok.mp hm
  refine ⟨e, m, hnew, hm, (Prod.mk.inj hdialed).1, (Prod.mk.inj hdialed).2, ?_⟩
  exact ((dns_policy (Reference.netContract resolve) (by decide) (by decide) hnew
    (Machine.run_of_foldlM hm) (by decide)).1 _ _ _ (List.mem_cons_self ..)).1

end Ovpnlane
