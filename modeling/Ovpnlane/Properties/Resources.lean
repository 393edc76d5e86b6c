import Ovpnlane.Properties.EngineSteps
import Ovpnlane.Construction.Netstack.Reference
import Ovpnlane.Framework.Transition

/-!
# What an engine holds

The bookkeeping of an engine: its sockets are the DNS socket and one socket a flow, its query slots
are those of its lookups, it holds no more flows and lookups than it may, the flows' local ports are
distinct, and a flow has its client exactly as long as it has its reply.  `Engine.Holds` states it
for given lists of flows and lookups, because the loops of a step work on a list they have taken out
of the engine.

Each visit keeps it (`Dialed.holds`, `LookupVisit.holds`, `FlowVisit.holds`), so `step_rule` gives
the rule for a whole step: a step always succeeds, and whatever else the visits preserve holds at
its end.  `Machine.run_rule` is the rule for a whole run.  `engine_never_faults` is the consequence
for every state an engine can reach: no handle or slot is ever missing, no `unwrap` ever fails, and
no loop runs for ever.
-/

namespace Ovpnlane

variable {B : Backend}

/-! ## The invariant -/

/-- The bookkeeping of an engine whose flows and lookups are these. -/
structure Engine.Holds (C : NetContract B) (e : Engine B) (flows : List (Flow B))
    (lookups : List Lookup) : Prop where
  /-- The TCP sockets are the flows', which have one each. -/
  tcp : (C.inventory e.net).tcp = (flows.map Flow.socket).toFinset
  sockets : (flows.map Flow.socket).Nodup
  /-- There is one other socket. -/
  dns : (C.inventory e.net).dns = {e.dns}
  apart : e.dns ∉ flows.map Flow.socket
  /-- The occupied query slots are the lookups', which have one each. -/
  queries : (C.inventory e.net).queries = (lookups.map Lookup.query).toFinset
  slots : (lookups.map Lookup.query).Nodup
  room : flows.length + lookups.length ≤ e.maxConnections
  limit : e.maxConnections ≤ 4096
  ports : (flows.map (·.localAddr.port)).Nodup
  range : ∀ f ∈ flows, f.localAddr.port ∈ Machine.localPorts
  next : e.nextPort ∈ Machine.localPorts
  clients : ∀ f ∈ flows, f.reply.isSome = f.client.isSome
  assigned : ∀ f ∈ flows, f.localAddr.ip ∈ e.settings.assigned

/-- The bookkeeping of an engine. -/
def Engine.Valid (C : NetContract B) (e : Engine B) : Prop := e.Holds C e.flows e.lookups

namespace Engine.Holds

variable {C : NetContract B} {e : Engine B} {flows flows' : List (Flow B)}
  {lookups lookups' : List Lookup}

/-- The order of the lists does not matter. -/
lemma perm (h : e.Holds C flows lookups) (hf : flows'.Perm flows) (hl : lookups'.Perm lookups) :
    e.Holds C flows' lookups' where
  tcp := h.tcp.trans (List.toFinset_eq_of_perm _ _ (hf.map _)).symm
  sockets := (hf.map _).nodup_iff.mpr h.sockets
  dns := h.dns
  apart := fun hmem => h.apart ((hf.map _).mem_iff.mp hmem)
  queries := h.queries.trans (List.toFinset_eq_of_perm _ _ (hl.map _)).symm
  slots := (hl.map _).nodup_iff.mpr h.slots
  room := by rw [hf.length_eq, hl.length_eq]; exact h.room
  limit := h.limit
  ports := (hf.map _).nodup_iff.mpr h.ports
  range := fun f hmem => h.range f (hf.mem_iff.mp hmem)
  next := h.next
  clients := fun f hmem => h.clients f (hf.mem_iff.mp hmem)
  assigned := fun f hmem => h.assigned f (hf.mem_iff.mp hmem)

/-- The sockets behind the handles and the device may change. -/
lemma service {net : B.Net} (device : PacketDevice) (h : e.Holds C flows lookups)
    (hnet : C.inventory net = C.inventory e.net) :
    Engine.Holds C { e with net := net, device := device } flows lookups :=
  ⟨by rw [hnet]; exact h.tcp, h.sockets, by rw [hnet]; exact h.dns, h.apart,
    by rw [hnet]; exact h.queries, h.slots, h.room, h.limit, h.ports, h.range, h.next, h.clients,
    h.assigned⟩

lemma dns_mem (h : e.Holds C flows lookups) : e.dns ∈ (C.inventory e.net).dns := by
  rw [h.dns]
  exact Finset.mem_singleton_self _

lemma flows_lt (h : e.Holds C flows lookups) : flows.length < 16384 := by
  have := h.room
  have := h.limit
  omega

/-- A new flow. -/
lemma addFlow {net : B.Net} {nextPort : ℕ} {flow : Flow B} (h : e.Holds C flows lookups)
    (hroom : flows.length + lookups.length < e.maxConnections)
    (hfresh : flow.socket ∉ (C.inventory e.net).tcp ∪ (C.inventory e.net).dns)
    (hinventory : C.inventory net =
      { C.inventory e.net with tcp := insert flow.socket (C.inventory e.net).tcp })
    (hnext : nextPort ∈ Machine.localPorts) (hport : flow.localAddr.port ∈ Machine.localPorts)
    (hunused : flow.localAddr.port ∉ flows.map (·.localAddr.port))
    (hassigned : flow.localAddr.ip ∈ e.settings.assigned)
    (hclient : flow.reply.isSome = flow.client.isSome) :
    Engine.Holds C { e with net := net, nextPort := nextPort } (flow :: flows) lookups := by
  rw [h.tcp, h.dns, Finset.mem_union, List.mem_toFinset, Finset.mem_singleton, not_or] at hfresh
  have hlength : flows.length + 1 + lookups.length ≤ e.maxConnections := by omega
  exact
    { tcp := by rw [hinventory, h.tcp, List.map_cons, List.toFinset_cons]
      sockets := List.nodup_cons.mpr ⟨hfresh.1, h.sockets⟩
      dns := by rw [hinventory, h.dns]
      apart := by
        rw [List.map_cons, List.mem_cons, not_or]
        exact ⟨Ne.symm hfresh.2, h.apart⟩
      queries := by rw [hinventory, h.queries]
      slots := h.slots
      room := hlength
      limit := h.limit
      ports := List.nodup_cons.mpr ⟨hunused, h.ports⟩
      range := List.forall_mem_cons.mpr ⟨hport, h.range⟩
      next := hnext
      clients := List.forall_mem_cons.mpr ⟨hclient, h.clients⟩
      assigned := List.forall_mem_cons.mpr ⟨hassigned, h.assigned⟩ }

/-- A new lookup. -/
lemma addLookup {net : B.Net} {lookup : Lookup} (h : e.Holds C flows lookups)
    (hroom : flows.length + lookups.length < e.maxConnections)
    (hfresh : lookup.query ∉ (C.inventory e.net).queries)
    (hinventory : C.inventory net =
      { C.inventory e.net with queries := insert lookup.query (C.inventory e.net).queries }) :
    Engine.Holds C { e with net := net } flows (lookup :: lookups) := by
  rw [h.queries, List.mem_toFinset] at hfresh
  exact
    { h with
      tcp := by rw [hinventory, h.tcp]
      dns := by rw [hinventory, h.dns]
      queries := by rw [hinventory, h.queries, List.map_cons, List.toFinset_cons]
      slots := List.nodup_cons.mpr ⟨hfresh, h.slots⟩
      room := Nat.succ_le_of_lt hroom }

/-- A lookup is gone, and its slot is free. -/
lemma dropLookup {net : B.Net} {lookup : Lookup} (h : e.Holds C flows (lookup :: lookups))
    (hinventory : C.inventory net = { C.inventory e.net with
      queries := (C.inventory e.net).queries.erase lookup.query }) :
    Engine.Holds C { e with net := net } flows lookups := by
  have hslots := List.nodup_cons.mp h.slots
  have hroom := h.room
  rw [List.length_cons] at hroom
  exact
    { h with
      tcp := by rw [hinventory, h.tcp]
      dns := by rw [hinventory, h.dns]
      queries := by
        rw [hinventory, h.queries, List.map_cons, List.toFinset_cons]
        exact Finset.erase_insert (by rw [List.mem_toFinset]; exact hslots.1)
      slots := hslots.2
      room := by show flows.length + lookups.length ≤ e.maxConnections; omega }

/-- A query that starts in a slot that is free once the visited lookup's is, is nobody's. -/
lemma query_ne {v r : List Lookup} {lookup : Lookup} {query : QueryHandle}
    (h : e.Holds C flows (v ++ lookup :: r))
    (hfresh : query ∉ (C.inventory e.net).queries.erase lookup.query) :
    ∀ l ∈ v ++ r, l.query ≠ query := by
  rintro l hl rfl
  rw [h.queries, Finset.mem_erase, List.mem_toFinset] at hfresh
  refine hfresh ⟨key_ne_of_nodup h.slots l hl, List.mem_map.mpr ⟨l, ?_, rfl⟩⟩
  exact List.perm_middle.mem_iff.mpr (List.mem_cons_of_mem _ hl)

/-- A flow is gone, and its socket with it. -/
lemma dropFlow {net : B.Net} {flow : Flow B} (h : e.Holds C (flow :: flows) lookups)
    (hinventory : C.inventory net = { C.inventory e.net with
      tcp := (C.inventory e.net).tcp.erase flow.socket
      dns := (C.inventory e.net).dns.erase flow.socket }) :
    Engine.Holds C { e with net := net } flows lookups := by
  have hsockets := List.nodup_cons.mp h.sockets
  have hapart := h.apart
  rw [List.map_cons, List.mem_cons, not_or] at hapart
  have hroom := h.room
  rw [List.length_cons] at hroom
  exact
    { h with
      tcp := by
        rw [hinventory, h.tcp, List.map_cons, List.toFinset_cons]
        exact Finset.erase_insert (by rw [List.mem_toFinset]; exact hsockets.1)
      sockets := hsockets.2
      dns := by
        rw [hinventory, h.dns]
        exact Finset.erase_eq_of_notMem (by simpa using Ne.symm hapart.1)
      apart := hapart.2
      queries := by rw [hinventory, h.queries]
      room := by show flows.length + lookups.length ≤ e.maxConnections; omega
      ports := (List.nodup_cons.mp h.ports).2
      range := (List.forall_mem_cons.mp h.range).2
      clients := (List.forall_mem_cons.mp h.clients).2
      assigned := (List.forall_mem_cons.mp h.assigned).2 }

/-- A flow is updated in place. -/
lemma updateFlow {flow flow' : Flow B} (h : e.Holds C (flow :: flows) lookups)
    (hsocket : flow'.socket = flow.socket) (haddr : flow'.localAddr = flow.localAddr)
    (hclient : flow'.reply.isSome = flow'.client.isSome) :
    e.Holds C (flow' :: flows) lookups :=
  { h with
    tcp := by simpa [hsocket] using h.tcp
    sockets := by simpa [hsocket] using h.sockets
    apart := by simpa [hsocket] using h.apart
    ports := by simpa [haddr] using h.ports
    range := by simpa [haddr] using h.range
    clients := List.forall_mem_cons.mpr ⟨hclient, (List.forall_mem_cons.mp h.clients).2⟩
    assigned := by simpa [haddr] using h.assigned }

end Engine.Holds

/-! ## What each visit keeps -/

namespace Polling

/-- A flow that stays has its client exactly as long as it has its reply. -/
lemma PollStep.clients {p p' : Polling B} {now : Instant} (h : PollStep p now p' true)
    (hclient : p.flow.reply.isSome = p.flow.client.isSome) :
    p'.flow.reply.isSome = p'.flow.client.isSome := by
  rcases h.moves with hq | ⟨q, hq, hmoves⟩
  · cases hq with
    | waits => exact hclient
  · obtain ⟨_, _, _, _, hflow⟩ := Moves.frame hmoves
    rw [hflow]
    cases hq with
    | idle => exact hclient
    | answered _ _ _ _ _ _ _ hsend =>
      obtain ⟨_, _, _, rfl⟩ := sendReply_eq_ok hsend
      rfl

end Polling

namespace Machine

variable {C : NetContract B} {m m' : Machine B} {now : Instant}

lemma Dialed.holds {ip : IpAddr} {port : ℕ} {reply : Reply} {deadline : Instant}
    {lookups : List Lookup} (hd : Dialed C m ip port reply deadline m')
    (h : m.engine.Holds C m.engine.flows lookups)
    (hroom : m.engine.flows.length + lookups.length < m.engine.maxConnections) :
    m'.engine.Holds C m'.engine.flows lookups := by
  cases hd with
  | refused net nextPort error delivered hinventory hnext hengine =>
    rw [hengine]
    exact { h.service m.engine.device hinventory with next := hnext }
  | opened net nextPort flow hfresh hinventory hnext hport hunused hassigned hreply _ hclient _
      hengine =>
    rw [hengine]
    have hadded := h.addFlow hroom hfresh hinventory hnext hport hunused hassigned
      (by rw [hreply, hclient]; rfl)
    exact { hadded.perm (List.perm_append_singleton _ _) .rfl with }

/-- What a visit of a lookup keeps. -/
lemma LookupVisit.holds {lookup : Lookup} {w : Verdict Lookup} {v r : List Lookup}
    (hv : LookupVisit C now m lookup m' w)
    (h : m.engine.Holds C m.engine.flows (v ++ lookup :: r)) :
    w.After (fun v r => m'.engine.Holds C m'.engine.flows (v ++ r)) v r := by
  have hfirst := h.perm .rfl List.perm_middle.symm
  have hroom := hfirst.room
  rw [List.length_cons] at hroom
  cases hv with
  | expired net closed error delivered hinventory hengine =>
    intro r' hr
    rw [hengine]
    exact (hfirst.dropLookup hinventory).perm .rfl (hr.append_left v)
  | pending net hnow hinventory hengine =>
    show m'.engine.Holds C m'.engine.flows (v ++ [lookup] ++ r)
    rw [hengine, List.append_assoc]
    exact h.service m.engine.device hinventory
  | resolved m₁ net result ip hnow hinventory hengine hlog hdial =>
    intro r' hr
    have hdropped := (hfirst.dropLookup hinventory).perm .rfl (hr.append_left v)
    refine hdial.holds ?_ ?_
    · rw [hengine]
      exact hdropped
    · rw [hengine, (hr.append_left v).length_eq]
      exact Nat.lt_of_succ_le (by omega)
  | failed net result events error delivered hnow hinventory hengine =>
    intro r' hr
    rw [hengine]
    exact (hfirst.dropLookup hinventory).perm .rfl (hr.append_left v)
  | again freed net result kind query hnow hfallback hfreed hfresh hinventory hengine =>
    intro r' hr
    rw [hengine]
    have hdropped := hfirst.dropLookup hfreed
    have hadded := @Engine.Holds.addLookup B C _ _ _ net
      { lookup with query := query, fallback := none } hdropped
      (Nat.lt_of_succ_le (by simpa [Nat.add_assoc] using hroom)) hfresh hinventory
    apply hadded.perm .rfl
    rw [← List.append_assoc]
    exact (List.perm_append_singleton _ _).trans ((hr.append_left v).cons _)

/-- What a visit of a flow keeps. -/
lemma FlowVisit.holds {flow : Flow B} {w : Verdict (Flow B)} {v r : List (Flow B)}
    {lookups : List Lookup} (hv : FlowVisit C now m flow m' w)
    (h : m.engine.Holds C (v ++ flow :: r) lookups) :
    w.After (fun v r => m'.engine.Holds C (v ++ r) lookups) v r := by
  have hfirst := h.perm List.perm_middle.symm .rfl
  cases hv with
  | kept socket p net hpoll hinventory hengine =>
    have hstep := Polling.poll_step hpoll
    have hkept := (hfirst.service m.engine.device hinventory).updateFlow hstep.frame.1
      hstep.frame.2.1 (hstep.clients (List.forall_mem_cons.mp hfirst.clients).1)
    show m'.engine.Holds C (v ++ [p.flow] ++ r) lookups
    rw [hengine, List.append_assoc]
    exact hkept.perm List.perm_middle .rfl
  | dropped socket p net hpoll hinventory hengine =>
    intro r' hr
    rw [hengine]
    exact (hfirst.dropFlow hinventory).perm (hr.append_left v) .rfl

/-- The interface keeps the bookkeeping. -/
lemma Serviced.valid (hs : Serviced C m m') (h : m.engine.Valid C) : m'.engine.Valid C := by
  obtain ⟨net, device, _, hengine, hinventory, _⟩ := hs
  rw [hengine]
  exact h.service device hinventory

/-! ## A step -/

lemma LookupVisit.lighter {lookup : Lookup} {w : Verdict Lookup}
    (hv : LookupVisit C now m lookup m' w) : w.Lighter lookupWeight lookup := by
  cases hv with
  | again freed net result kind query hnow hfallback =>
    show lookupWeight _ < lookupWeight _
    simp [lookupWeight, hfallback]
  | _ => trivial

lemma FlowVisit.lookups {flow : Flow B} {w : Verdict (Flow B)}
    (hv : FlowVisit C now m flow m' w) : m'.engine.lookups = m.engine.lookups := by
  cases hv with
  | kept _ _ _ _ _ hengine | dropped _ _ _ _ _ hengine => rw [hengine]

lemma FlowVisit.lighter {flow : Flow B} {w : Verdict (Flow B)}
    (hv : FlowVisit C now m flow m' w) : w.Lighter (fun _ => 0) flow := by
  cases hv <;> trivial

lemma pollLookups_rule {L : Machine B → List Lookup → List Lookup → Prop}
    (h : m.engine.Valid C) (hstart : L (m.setLookups []) [] m.engine.lookups)
    (hvisit : ∀ s v a r s' w, s.engine.Holds C s.engine.flows (v ++ a :: r) → L s v (a :: r) →
      visitLookup now s a = .ok (s', w) → LookupVisit C now s a s' w → w.After (L s') v r) :
    ∃ s l, m.pollLookups now = .ok (s.setLookups l) ∧ s.engine.Holds C s.engine.flows l ∧
      L s l [] := by
  have hbody : ∀ s v a r, (s.engine.Holds C s.engine.flows (v ++ a :: r) ∧ L s v (a :: r)) →
      ∃ s' w, visitLookup now s a = .ok (s', w) ∧
        w.After (fun v r => s'.engine.Holds C s'.engine.flows (v ++ r) ∧ L s' v r) v r ∧
        w.Lighter lookupWeight a := by
    rintro s v a r ⟨hholds, hL⟩
    obtain ⟨s', w, hok, hv⟩ := visitLookup_spec C now s a hholds.dns_mem
      (by rw [hholds.queries]; simp) hholds.next hholds.flows_lt
    exact ⟨s', w, hok, (hv.holds hholds).and (hvisit s v a r s' w hholds hL hok hv), hv.lighter⟩
  obtain ⟨s, l, hsweep, hholds, hend⟩ := @sweep_total _ _ _ (visitLookup now) .lookupLoop
    (fun s v r => s.engine.Holds C s.engine.flows (v ++ r) ∧ L s v r) lookupWeight hbody _
    (m.setLookups []) _ le_rfl ⟨{ h with }, hstart⟩
  rw [List.append_nil] at hholds
  exact ⟨s, l, by rw [pollLookups, hsweep]; rfl, hholds, hend⟩

lemma pollFlows_rule {F : Machine B → List (Flow B) → List (Flow B) → Prop}
    (h : m.engine.Valid C) (hstart : F (m.setFlows []) [] m.engine.flows)
    (hvisit : ∀ s v a r s' w, s.engine.Holds C (v ++ a :: r) s.engine.lookups → F s v (a :: r) →
      visitFlow now s a = .ok (s', w) → FlowVisit C now s a s' w → w.After (F s') v r) :
    ∃ s l, m.pollFlows now = .ok (s.setFlows l) ∧ s.engine.Holds C l s.engine.lookups ∧
      F s l [] := by
  have hbody : ∀ s v a r, (s.engine.Holds C (v ++ a :: r) s.engine.lookups ∧ F s v (a :: r)) →
      ∃ s' w, visitFlow now s a = .ok (s', w) ∧
        w.After (fun v r => s'.engine.Holds C (v ++ r) s'.engine.lookups ∧ F s' v r) v r ∧
        w.Lighter (fun _ => 0) a := by
    rintro s v a r ⟨hholds, hF⟩
    obtain ⟨s', w, hok, hv⟩ := visitFlow_spec C now s a (by rw [hholds.tcp]; simp)
      (fun hreply => by rwa [← hholds.clients a (by simp)])
    have hholds' := hv.holds hholds
    rw [← hv.lookups] at hholds'
    exact ⟨s', w, hok, hholds'.and (hvisit s v a r s' w hholds hF hok hv), hv.lighter⟩
  obtain ⟨s, l, hsweep, hholds, hend⟩ := @sweep_total _ _ _ (visitFlow now) .flowLoop
    (fun s v r => s.engine.Holds C (v ++ r) s.engine.lookups ∧ F s v r) (fun _ => 0) hbody _
    (m.setFlows []) _ le_rfl ⟨{ h with }, hstart⟩
  rw [List.append_nil] at hholds
  exact ⟨s, l, by rw [pollFlows, hsweep]; rfl, hholds, hend⟩

/-- `s` is the machine after the first poll of the interface in a step. -/
def Polled (m : Machine B) (timestamp : ℕ) (s : Machine B) : Prop :=
  ∃ world world', s = { ({ m with world := world } : Machine B).pollIface timestamp with
    world := world' }

lemma Polled.serviced {s : Machine B} {t : ℕ} (h : m.Polled t s) : Serviced C m s := by
  obtain ⟨world, world', rfl⟩ := h
  exact pollIface_spec C { m with world := world } t

/-- **The rule for a step**, as its visits and its two polls of the interface are written.  A step
always succeeds and keeps the bookkeeping; what `L` and `F` say is kept by the visits of its two
loops holds at their ends. -/
theorem step_visits {L : Instant → Machine B → List Lookup → List Lookup → Prop}
    {F : Instant → Machine B → List (Flow B) → List (Flow B) → Prop} (h : m.engine.Valid C)
    (hstart : ∀ t now s, m.Polled t s →
      L now ((s.note (.stepAt now)).setLookups []) [] s.engine.lookups)
    (hlookup : ∀ now s v a r s' w, s.engine.Holds C s.engine.flows (v ++ a :: r) →
      L now s v (a :: r) → visitLookup now s a = .ok (s', w) → LookupVisit C now s a s' w →
      w.After (L now s') v r)
    (hswitch : ∀ now s l, s.engine.Holds C s.engine.flows l → L now s l [] →
      F now ((s.setLookups l).setFlows []) [] s.engine.flows)
    (hflow : ∀ now s v a r s' w, s.engine.Holds C (v ++ a :: r) s.engine.lookups →
      F now s v (a :: r) → visitFlow now s a = .ok (s', w) → FlowVisit C now s a s' w →
      w.After (F now s') v r) :
    ∃ t now s l, m.step = .ok ((s.setFlows l).pollIface t) ∧
      ((s.setFlows l).pollIface t).engine.Valid C ∧ F now s l [] := by
  obtain ⟨t, m₁, now, m₂, htimestamp, hnow, hpolled⟩ : ∃ t m₁ now m₂, m.timestamp = (t, m₁) ∧
    (m₁.pollIface t).now = (now, m₂) ∧ m.Polled t m₂ := ⟨_, _, _, _, rfl, rfl, _, _, rfl⟩
  have hvalid : (m₂.note (.stepAt now)).engine.Valid C := hpolled.serviced.valid h
  obtain ⟨s, lookups, hlookups, hholds, hL⟩ := @pollLookups_rule B C _ now (L now) hvalid
    (hstart t now m₂ hpolled) (hlookup now)
  have hvalid' : (s.setLookups lookups).engine.Valid C := { hholds with }
  obtain ⟨s', flows, hflows, hholds', hF⟩ := @pollFlows_rule B C _ now (F now) hvalid'
    (hswitch now s lookups hholds hL) (hflow now)
  refine ⟨t, now, s', flows, ?_,
    (pollIface_spec C (s'.setFlows flows) t).valid { hholds' with }, hF⟩
  rw [step, htimestamp]
  simp only [hnow, hlookups, hflows, except_ok_bind]

/-- **The rule for a step.**  A step always succeeds and keeps the bookkeeping; what `L` and `F` say
is kept by the visits of its two loops holds at their ends. -/
theorem step_rule {L : Instant → Machine B → List Lookup → List Lookup → Prop}
    {F : Instant → Machine B → List (Flow B) → List (Flow B) → Prop} (h : m.engine.Valid C)
    (hstart : ∀ now s, Serviced C m s →
      L now ((s.note (.stepAt now)).setLookups []) [] s.engine.lookups)
    (hlookup : ∀ now s v a r s' w, s.engine.Holds C s.engine.flows (v ++ a :: r) →
      L now s v (a :: r) → LookupVisit C now s a s' w → w.After (L now s') v r)
    (hswitch : ∀ now s l, s.engine.Holds C s.engine.flows l → L now s l [] →
      F now ((s.setLookups l).setFlows []) [] s.engine.flows)
    (hflow : ∀ now s v a r s' w, s.engine.Holds C (v ++ a :: r) s.engine.lookups →
      F now s v (a :: r) → FlowVisit C now s a s' w → w.After (F now s') v r) :
    ∃ m' now s l, m.step = .ok m' ∧ m'.engine.Valid C ∧ F now s l [] ∧
      Serviced C (s.setFlows l) m' := by
  obtain ⟨t, now, s, l, hok, hvalid, hF⟩ := step_visits h
    (fun _ now s hs => hstart now s hs.serviced)
    (fun now s v a r s' w hholds hL _ hv => hlookup now s v a r s' w hholds hL hv) hswitch
    (fun now s v a r s' w hholds hF _ hv => hflow now s v a r s' w hholds hF hv)
  exact ⟨_, now, s, l, hok, hvalid, hF, pollIface_spec C (s.setFlows l) t⟩

/-! ## A request -/

/-- **The rule for a request.**  `connect` always succeeds and keeps the bookkeeping. -/
theorem connect_rule (h : m.engine.Valid C) (target : Target) (port : ℕ) (reply : Reply) :
    ∃ m', m.connect target port reply = .ok m' ∧ Requested C m target port reply m' ∧
      m'.engine.Valid C := by
  obtain ⟨m', hok, hreq⟩ := connect_spec C m target port reply h.dns_mem h.next h.flows_lt
  refine ⟨m', hok, hreq, ?_⟩
  cases hreq with
  | gone hengine | full _ _ hengine =>
    rw [hengine]
    exact h
  | dialed m₁ deadline ip hroom _ hengine _ hdial =>
    have hholds : m'.engine.Holds C m'.engine.flows m.engine.lookups := by
      refine hdial.holds ?_ ?_ <;> rw [hengine]
      · exact h
      · exact hroom
    have hlookups : m'.engine.lookups = m.engine.lookups := by
      cases hdial with
      | refused _ _ _ _ _ _ hengine' | opened _ _ _ _ _ _ _ _ _ _ _ _ _ hengine' =>
        rw [hengine', hengine]
    rwa [Engine.Valid, hlookups]
  | refused net deadline events error delivered hroom hinventory hengine =>
    rw [hengine]
    exact h.service m.engine.device hinventory
  | lookedUp net lookup kind hroom hfresh hinventory hreply hengine =>
    rw [hengine]
    have hadded := h.addLookup hroom hfresh hinventory
    exact { hadded.perm .rfl (List.perm_append_singleton _ _) with }

end Machine

/-! ## A new engine -/

lemma Engine.addRoute_inventory (C : NetContract B) {net net' : B.Net} {address : Option IpAddr}
    {text : String} (h : Engine.addRoute net address text = .ok net') :
    C.inventory net' = C.inventory net := by
  cases address with
  | none =>
    obtain rfl : net = net' := by simpa [Engine.addRoute] using h
    rfl
  | some ip =>
    rcases hroute : B.addDefaultRoute net ip with _ | net₁ <;>
      simp only [Engine.addRoute, hroute, Option.elim] at h
    · simp at h
    · obtain rfl : net₁ = net' := by simpa using h
      exact C.addDefaultRoute net ip net₁ hroute

section New

variable {settings : Settings} {sink : SinkId}
  {connectTimeout idleTimeout maxConnections clock nextPort : ℕ}

/-- The inversion of `Engine::new`. -/
lemma Engine.new_eq_ok {e : Engine B}
    (h : Engine.new B settings sink connectTimeout idleTimeout maxConnections clock nextPort =
      .ok e) :
    ∃ addresses net₁ net₂ net₃, B.setIpAddrs (B.interfaceNew settings.mtu) addresses = some net₁ ∧
      Engine.addRoute net₁ (settings.ipv4.map .v4) "IPv4 route slot" = .ok net₂ ∧
      Engine.addRoute net₂ (settings.ipv6.map .v6) "IPv6 route slot" = .ok net₃ ∧
      e = { settings, device := ⟨[], sink, settings.mtu, false, 0⟩, nextPort, connectTimeout,
            idleTimeout, maxConnections, clock, flows := [], lookups := [],
            dns := (B.addDns net₃ settings.dns).1, net := (B.addDns net₃ settings.dns).2 } := by
  unfold Engine.new at h
  obtain ⟨addresses, -, h⟩ := bind_eq_ok.mp h
  obtain ⟨net₁, haddrs, h⟩ := bind_eq_ok.mp h
  obtain ⟨net₂, hroute₄, h⟩ := bind_eq_ok.mp h
  obtain ⟨net₃, hroute₆, h⟩ := bind_eq_ok.mp h
  refine ⟨addresses, net₁, net₂, net₃, ?_, hroute₄, hroute₆, (Except.ok.inj h).symm⟩
  rcases hset : B.setIpAddrs (B.interfaceNew settings.mtu) addresses with _ | net <;>
    rw [hset] at haddrs
  · simp at haddrs
  · simpa using haddrs

lemma Engine.pushAddress_error {addresses : List IpCidr} {cidr : IpCidr} {text : String}
    {fault : Fault} (h : Engine.pushAddress B addresses cidr text = .error fault) :
    fault = .expectFailed text := by
  unfold Engine.pushAddress at h
  split_ifs at h
  exact (Except.error.inj h).symm

lemma Engine.assignAddresses_error {addresses : List IpCidr} {fault : Fault}
    (h : Engine.assignAddresses B settings addresses = .error fault) :
    ∃ text, fault = .expectFailed text := by
  rcases hipv4 : settings.ipv4 with _ | ip <;> rcases hipv6 : settings.ipv6 with _ | ip' <;>
    simp only [Engine.assignAddresses, hipv4, hipv6, except_ok_bind] at h
  · simp at h
  · exact ⟨_, Engine.pushAddress_error h⟩
  · rcases bind_eq_error.mp h with h | ⟨_, -, h⟩
    · exact ⟨_, Engine.pushAddress_error h⟩
    · simp at h
  · rcases bind_eq_error.mp h with h | ⟨_, -, h⟩ <;> exact ⟨_, Engine.pushAddress_error h⟩

lemma Engine.addRoute_error {net : B.Net} {address : Option IpAddr} {text : String}
    {fault : Fault} (h : Engine.addRoute net address text = .error fault) :
    fault = .expectFailed text := by
  cases address with
  | none => simp [Engine.addRoute] at h
  | some ip =>
    rcases hroute : B.addDefaultRoute net ip with _ | net' <;>
      simp only [Engine.addRoute, hroute, Option.elim] at h
    · exact (Except.error.inj h).symm
    · simp at h

/-- The ways `Engine::new` can panic. -/
lemma Engine.new_eq_error {fault : Fault}
    (h : Engine.new B settings sink connectTimeout idleTimeout maxConnections clock nextPort =
      .error fault) : fault = .notUnicast ∨ ∃ text, fault = .expectFailed text := by
  unfold Engine.new at h
  rcases bind_eq_error.mp h with h | ⟨addresses, -, h⟩
  · exact .inr (Engine.assignAddresses_error h)
  rcases bind_eq_error.mp h with h | ⟨net₁, -, h⟩
  · left
    rcases hset : B.setIpAddrs (B.interfaceNew settings.mtu) addresses with _ | net <;>
      rw [hset] at h
    · exact (Except.error.inj h).symm
    · simp at h
  rcases bind_eq_error.mp h with h | ⟨net₂, -, h⟩
  · exact .inr ⟨_, Engine.addRoute_error h⟩
  rcases bind_eq_error.mp h with h | ⟨net₃, -, h⟩
  · exact .inr ⟨_, Engine.addRoute_error h⟩
  · simp at h

/-- A new engine's books are empty. -/
theorem Engine.new_valid (C : NetContract B) {e : Engine B} (hlimit : maxConnections ≤ 4096)
    (hport : nextPort ∈ Finset.Ico 49152 65535)
    (h : Engine.new B settings sink connectTimeout idleTimeout maxConnections clock nextPort =
      .ok e) : e.Valid C := by
  obtain ⟨addresses, net₁, net₂, net₃, haddrs, hroute₄, hroute₆, rfl⟩ := Engine.new_eq_ok h
  have hempty : C.inventory net₃ = ⟨∅, ∅, ∅⟩ := by
    rw [addRoute_inventory C hroute₆, addRoute_inventory C hroute₄, C.setIpAddrs _ _ _ haddrs,
      C.new]
  have hdns := C.addDns net₃ settings.dns
  rw [hempty] at hdns
  have hnext : nextPort ∈ Machine.localPorts := by
    rw [Finset.mem_Ico] at hport
    exact Finset.mem_Icc.mpr (by omega)
  exact
    { tcp := by rw [hdns]; rfl
      sockets := List.nodup_nil
      dns := by rw [hdns]; rfl
      apart := List.not_mem_nil
      queries := by rw [hdns]; rfl
      slots := List.nodup_nil
      room := Nat.zero_le _
      limit := hlimit
      ports := List.nodup_nil
      range := by simp
      next := hnext
      clients := by simp
      assigned := by simp }

end New

/-! ## Every engine -/

/-- What happens to an engine: the worker's calls, and what the others do between them. -/
inductive EngineAct (B : Backend)
  | connect (target : Target) (port : ℕ) (reply : Reply)
  | step
  | incoming (packet : Packet)
  /-- Time passes, receivers go, and the clients use their ends of the streams. -/
  | outside (world : B.World) (bridge : Flow B → B.Stream)

def Machine.perform (m : Machine B) : EngineAct B → Except Fault (Machine B)
  | .connect target port reply => m.connect target port reply
  | .step => m.step
  | .incoming packet => .ok { m with engine := m.engine.pushIncoming packet }
  | .outside world bridge =>
    .ok { m with engine := m.engine.setBridges bridge, world := world }

/-- An engine from its creation on, until it panics.  The limit is what the command line admits,
the first port what the random generator picks. -/
def engineSystem (B : Backend) : System (Except Fault (Machine B)) (EngineAct B) where
  init s := ∃ settings sink connectTimeout idleTimeout maxConnections clock nextPort e world,
    maxConnections ≤ 4096 ∧ nextPort ∈ Finset.Ico 49152 65535 ∧
      Engine.new B settings sink connectTimeout idleTimeout maxConnections clock nextPort = .ok e ∧
      s = .ok ⟨e, world, []⟩
  step s a t := ∃ m, s = .ok m ∧ t = m.perform a

lemma Engine.Holds.bridges {C : NetContract B} {e : Engine B} {flows : List (Flow B)}
    {lookups : List Lookup} (h : e.Holds C flows lookups) (bridge : Flow B → B.Stream) :
    e.Holds C (flows.map fun f => { f with bridge := bridge f }) lookups where
  tcp := by simpa [Function.comp_def] using h.tcp
  sockets := by simpa [Function.comp_def] using h.sockets
  dns := h.dns
  apart := by simpa using h.apart
  queries := h.queries
  slots := h.slots
  room := by rw [List.length_map]; exact h.room
  limit := h.limit
  ports := by simpa [Function.comp_def] using h.ports
  range := by simpa using h.range
  next := h.next
  clients := by simpa using h.clients
  assigned := by simpa using h.assigned

/-- What happens to an engine with its books in order succeeds and leaves them in order. -/
lemma Machine.perform_valid {C : NetContract B} {m : Machine B} (h : m.engine.Valid C)
    (a : EngineAct B) : ∃ m', m.perform a = .ok m' ∧ m'.engine.Valid C := by
  cases a with
  | connect target port reply =>
    obtain ⟨m', hok, -, hvalid⟩ := connect_rule h target port reply
    exact ⟨m', hok, hvalid⟩
  | step =>
    obtain ⟨m', -, -, -, hok, hvalid, -⟩ := @step_rule B C m (fun _ _ _ _ => True)
      (fun _ _ _ _ => True) h (fun _ _ _ => trivial)
      (fun _ _ _ _ _ _ w _ _ _ => w.after_of_forall fun _ _ => trivial)
      (fun _ _ _ _ _ => trivial)
      (fun _ _ _ _ _ _ w _ _ _ => w.after_of_forall fun _ _ => trivial)
    exact ⟨m', hok, hvalid⟩
  | incoming packet => exact ⟨_, rfl, h.service (m.engine.pushIncoming packet).device rfl⟩
  | outside world bridge => exact ⟨_, rfl, { h.bridges bridge with }⟩

/-- **The run rule.**  What every action preserves, given that the books are in order, holds after a
run that started with them in order. -/
lemma Machine.run_rule {C : NetContract B} {I : Machine B → Prop} {m : Machine B}
    {acts : List (EngineAct B)} {s : Except Fault (Machine B)}
    (hact : ∀ m, ∀ a ∈ acts, m.engine.Valid C → I m →
      ∃ m', m.perform a = .ok m' ∧ m'.engine.Valid C ∧ I m')
    (hrun : (engineSystem B).Run (.ok m) acts s) (h : m.engine.Valid C) (hI : I m) :
    ∃ m', s = .ok m' ∧ m'.engine.Valid C ∧ I m' := by
  have hguarded := hrun.to_guard (P := fun _ a => a ∈ acts) fun _ ha _ => ha
  refine hguarded.invariant (I := fun s => ∃ m', s = .ok m' ∧ m'.engine.Valid C ∧ I m') ?_
    ⟨m, rfl, h, hI⟩
  rintro s a t ⟨m₁, rfl, hvalid, hI₁⟩ ⟨ha, _, heq, rfl⟩
  obtain rfl := Except.ok.inj heq
  exact hact m₁ a ha hvalid hI₁

/-- The run rule for every run of an engine from its creation on. -/
lemma Machine.reachable_rule {C : NetContract B} {I : Machine B → Prop}
    {s : Except Fault (Machine B)} (h : (engineSystem B).Reachable s)
    (hnew : ∀ m, m.engine.flows = [] → m.engine.lookups = [] → m.log = [] → I m)
    (hact : ∀ m a, m.engine.Valid C → I m →
      ∃ m', m.perform a = .ok m' ∧ m'.engine.Valid C ∧ I m') :
    ∃ m, s = .ok m ∧ m.engine.Valid C ∧ I m := by
  obtain ⟨_, acts, ⟨settings, sink, connectTimeout, idleTimeout, maxConnections, clock, nextPort, e,
    world, hlimit, hport, hok, rfl⟩, hrun⟩ := h
  refine run_rule (fun m a _ => hact m a) hrun (Engine.new_valid C hlimit hport hok) ?_
  obtain ⟨_, _, _, net, -, -, -, rfl⟩ := Engine.new_eq_ok hok
  exact hnew _ rfl rfl rfl

/-- **An engine never faults**, and its books are always in order: whatever is requested of it,
whatever arrives, whatever the clients and the resolvers do. -/
theorem engine_never_faults (C : NetContract B) {s : Except Fault (Machine B)}
    (h : (engineSystem B).Reachable s) : ∃ m, s = .ok m ∧ m.engine.Valid C := by
  obtain ⟨m, hm, hvalid, -⟩ := Machine.reachable_rule (C := C) (I := fun _ => True) h
    (fun _ _ _ _ => trivial) fun m a hvalid _ =>
      have ⟨m', hok, hvalid'⟩ := Machine.perform_valid hvalid a
      ⟨m', hok, hvalid', trivial⟩
  exact ⟨m, hm, hvalid⟩

/-- A request for an address that was dialed. -/
theorem engine_never_faults_dialed : ∃ e m,
    Engine.new (reference fun _ _ => .failed) ⟨some (.new 10 8 0 2), none, [], 1400⟩ 0 30 0 2 0
      49152 = .ok e ∧
    (⟨e, ⟨0, [], []⟩, []⟩ : Machine _).perform (.connect (.ip (.v4 (.new 198 51 100 7))) 80 5) =
      .ok m ∧
    m.engine.flows.map Flow.reply = [some 5] ∧ m.engine.Valid (Reference.netContract _) := by
  refine ⟨_, _, rfl, rfl, rfl, ?_⟩
  have hinit : (engineSystem (reference fun _ _ => .failed)).init (.ok ⟨_, ⟨0, [], []⟩, _⟩) :=
    ⟨⟨some (.new 10 8 0 2), none, [], 1400⟩, 0, 30, 0, 2, 0, 49152, _, _, by decide,
      by decide, rfl, rfl⟩
  obtain ⟨m, hm, hvalid⟩ := engine_never_faults (Reference.netContract fun _ _ => .failed)
    ((System.Reachable.of_init hinit).step
      (l := .connect (.ip (.v4 (.new 198 51 100 7))) 80 5) ⟨_, rfl, rfl⟩)
  obtain rfl := Except.ok.inj hm
  exact hvalid

end Ovpnlane
