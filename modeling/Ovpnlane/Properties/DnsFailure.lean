import Ovpnlane.Properties.DnsPolicy
import Ovpnlane.Construction.Netstack.Resolver

/-!
# Which servers were asked before a lookup failed

A request is answered `VPN DNS query failed` when the last query of its lookup ended without an
address.  By then every server that the DNS socket kept was sent a query for every record type the
families allow: `Machine.Thorough` is the invariant, over the entries of the log and the lookups
that are still on their way.  But the socket keeps one server of those the settings name, and its
packets go to no other, so `dns_failure_iff` is all that can be said: every server of the settings
was asked exactly if they are all the same one.

Most calls of the engine do not concern the DNS socket (`Quiet`).  The others start a query
(`Thorough.start`), free a slot (`Thorough.frame`), send queries on (`Thorough.poll`) or fail
(`Thorough.fail`).
-/

namespace Ovpnlane

variable {B : Backend}

/-! ## Queries in the log -/

/-- After the query was started with this handle, a packet with it was handed to the sink. -/
def Asked (D : DnsContract B) (log : List (Event B)) (reply : Reply) (name : String)
    (kind : DnsQueryType) (query : QueryHandle) (server : IpAddr) : Prop :=
  ∃ packet taken,
    [.query reply name kind (.ok query), .transmitted packet taken].Sublist log ∧
      D.Asks packet server name kind

/-- The server was asked for this record type on behalf of a request. -/
def Queried (D : DnsContract B) (log : List (Event B)) (reply : Reply) (kind : DnsQueryType)
    (server : IpAddr) : Prop :=
  ∃ name query, Asked D log reply name kind query server

/-- A request fails for want of an address. -/
def Event.fails : Event B → Bool
  | .sent _ (.error error) _ => error == queryFailed
  | _ => false

/-- The entry neither hands a packet to the sink nor fails a request for want of an address. -/
def Event.quiet (e : Event B) : Bool := !e.isTransmitted && !e.fails

section Log

variable {D : DnsContract B} {log log' : List (Event B)} {reply : Reply} {name : String}
  {kind : DnsQueryType} {query : QueryHandle} {server : IpAddr}

lemma Asked.mono (h : Asked D log reply name kind query server) (hlog : log <+: log') :
    Asked D log' reply name kind query server := by
  obtain ⟨packet, taken, hsub, hasks⟩ := h
  exact ⟨packet, taken, hsub.trans hlog.sublist, hasks⟩

lemma Queried.mono (h : Queried D log reply kind server) (hlog : log <+: log') :
    Queried D log' reply kind server := by
  obtain ⟨name, query, hasked⟩ := h
  exact ⟨name, query, hasked.mono hlog⟩

/-- A packet that leaves after the query was started. -/
lemma Asked.of_transmitted {events : List (Event B)} {packet : Packet} {taken : Bool}
    (hquery : .query reply name kind (.ok query) ∈ log) (hmem : .transmitted packet taken ∈ events)
    (hasks : D.Asks packet server name kind) :
    Asked D (log ++ events) reply name kind query server :=
  ⟨packet, taken, (List.singleton_sublist.mpr hquery).append (List.singleton_sublist.mpr hmem),
    hasks⟩

lemma Queried.transmitted (h : Queried D log reply kind server) :
    ∃ packet taken name, .transmitted packet taken ∈ log ∧ D.Asks packet server name kind := by
  obtain ⟨name, query, packet, taken, hsub, hasks⟩ := h
  exact ⟨packet, taken, name, hsub.subset (by simp), hasks⟩

end Log

/-! ## The invariant -/

namespace Machine

/-- The query of a lookup was started, and the servers its slot names were asked.  The record types
before the one it asks for were asked of every server that was kept. -/
structure Asking (D : DnsContract B) (kinds : List DnsQueryType) (r : Resolver)
    (log : List (Event B)) (lookup : Lookup) : Prop where
  startable : ∀ n h kind, ∃ q, (B.startQuery n h lookup.name kind).1 = .ok q
  position : ∃ asked kind, kinds = asked ++ kind :: lookup.fallback.toList ∧
    (∀ k ∈ asked, ∀ server ∈ r.servers, Queried D log lookup.reply k server) ∧
    .query lookup.reply lookup.name kind (.ok lookup.query) ∈ log ∧
    ∀ slot, r.slots lookup.query = some slot → slot.name = lookup.name ∧ slot.kind = kind ∧
      ∀ server ∈ slot.asked, Asked D log lookup.reply lookup.name kind lookup.query server

/-- Every failure came after all servers that were kept were asked for all record types, the
lookups that are open are on their way there, and no other server was sent a query. -/
structure Thorough (D : DnsContract B) (settings : Settings) (m : Machine B)
    (lookups : List Lookup) : Prop where
  settings_eq : m.engine.settings = settings
  servers_eq : (D.resolver m.engine.net).servers = settings.dns.take dnsMaxServerCount
  asking : ∀ l ∈ lookups, Asking D settings.recordTypes (D.resolver m.engine.net) m.log l
  packets : ∀ packet taken server name kind, .transmitted packet taken ∈ m.log →
    D.Asks packet server name kind → server ∈ settings.dns.take dnsMaxServerCount
  failures : Each (fun pre e => ∀ reply delivered,
    e = .sent reply (.error queryFailed) delivered → ∀ kind ∈ settings.recordTypes,
      ∀ server ∈ settings.dns.take dnsMaxServerCount, Queried D pre reply kind server) m.log

variable {C : NetContract B} {D : DnsContract B} {m m' : Machine B} {settings : Settings}
  {lookups lookups' : List Lookup} {now : Instant} {reply : Reply}

/-- The log goes on, and neither the servers nor the slot of the lookup change. -/
lemma Asking.frame {kinds : List DnsQueryType} {r r' : Resolver} {log log' : List (Event B)}
    {l : Lookup} (h : Asking D kinds r log l) (hservers : r'.servers = r.servers)
    (hslots : r'.slots l.query = r.slots l.query) (hlog : log <+: log') :
    Asking D kinds r' log' l := by
  obtain ⟨asked, kind, hkinds, hasked, hquery, hslot⟩ := h.position
  refine ⟨h.startable, asked, kind, hkinds, ?_, hlog.subset hquery, ?_⟩
  · intro k hk server hserver
    rw [hservers] at hserver
    exact (hasked k hk server hserver).mono hlog
  · intro slot hs
    rw [hslots] at hs
    obtain ⟨hname, hkind, hsent⟩ := hslot slot hs
    exact ⟨hname, hkind, fun server hserver => (hsent server hserver).mono hlog⟩

/-- Once a query ended without an address, its type was asked of every server too. -/
lemma Asking.ended {kinds : List DnsQueryType} {n : B.Net} {log : List (Event B)} {l : Lookup}
    (h : Asking D kinds (D.resolver n) log l) {d : SocketHandle} {result : QueryResult} {n' : B.Net}
    (hresult : B.getQueryResult n d l.query = some (result, n')) (hended : result ≠ .pending)
    (hnone : firstAddress result = none) :
    ∃ asked, kinds = asked ++ l.fallback.toList ∧
      ∀ k ∈ asked, ∀ server ∈ (D.resolver n).servers, Queried D log l.reply k server := by
  obtain ⟨asked, kind, hkinds, hasked, -, hslot⟩ := h.position
  have hempty : ∀ ips, result = .completed ips → ips = [] := by
    rintro ips rfl
    simpa [firstAddress] using hnone
  obtain ⟨slot, hs, hservers⟩ := D.exhausted n d l.query result n' hresult hended hempty
  obtain ⟨-, -, hsent⟩ := hslot slot hs
  refine ⟨asked ++ [kind], by simp [hkinds], fun k hk server hserver => ?_⟩
  rcases List.mem_append.mp hk with hk | hk
  · exact hasked k hk server hserver
  · rw [List.mem_singleton.mp hk]
    exact ⟨l.name, l.query, hsent server (hservers server hserver)⟩

namespace Thorough

lemma mono (h : m.Thorough D settings lookups) (hsub : lookups' ⊆ lookups) :
    m.Thorough D settings lookups' :=
  { h with asking := fun l hl => h.asking l (hsub hl) }

/-- The log goes on quietly, and the slots of the lookups that are left do not change. -/
lemma frame {events : List (Event B)} (h : m.Thorough D settings lookups)
    (hsettings : m'.engine.settings = m.engine.settings)
    (hservers : (D.resolver m'.engine.net).servers = (D.resolver m.engine.net).servers)
    (hslots : ∀ l ∈ lookups, (D.resolver m'.engine.net).slots l.query =
      (D.resolver m.engine.net).slots l.query)
    (hlog : m'.log = m.log ++ events) (hquiet : ∀ e ∈ events, e.quiet = true) :
    m'.Thorough D settings lookups where
  settings_eq := hsettings.trans h.settings_eq
  servers_eq := hservers.trans h.servers_eq
  asking := by
    intro l hl
    exact (h.asking l hl).frame hservers (hslots l hl) (by rw [hlog]; exact List.prefix_append ..)
  packets := by
    intro packet taken server name kind hmem hasks
    rw [hlog] at hmem
    rcases List.mem_append.mp hmem with hmem | hmem
    · exact h.packets packet taken server name kind hmem hasks
    · have hnot := hquiet _ hmem
      simp [Event.quiet, Event.isTransmitted] at hnot
  failures := by
    rw [hlog]
    refine each_append.mpr ⟨h.failures, ?_⟩
    rintro pre e post rfl reply delivered rfl
    have hnot := hquiet (.sent reply (.error queryFailed) delivered) (by simp)
    simp [Event.quiet, Event.fails] at hnot

/-- A failure. -/
lemma fail (h : m.Thorough D settings lookups)
    (hqueried : ∀ kind ∈ settings.recordTypes, ∀ server ∈ (D.resolver m.engine.net).servers,
      Queried D m.log reply kind server) :
    (m.refuse reply .notFound "VPN DNS query failed").Thorough D settings lookups := by
  obtain ⟨delivered, hlog⟩ := refuse_log m reply .notFound "VPN DNS query failed"
  rw [h.servers_eq] at hqueried
  refine ⟨h.settings_eq, h.servers_eq, ?_, ?_, ?_⟩
  · intro l hl
    exact (h.asking l hl).frame rfl rfl (by rw [hlog]; exact List.prefix_append ..)
  · intro packet taken server name kind hmem hasks
    rw [hlog] at hmem
    exact h.packets packet taken server name kind (by simpa using hmem) hasks
  · rw [hlog]
    refine each_concat.mpr ⟨h.failures, fun reply' delivered' heq => ?_⟩
    injection heq with hreply
    rw [← hreply]
    exact hqueried

/-- A poll of the interface sends queries on. -/
lemma poll (h : m.Thorough D settings lookups) (t : ℕ) :
    (m.pollIface t).Thorough D settings lookups := by
  obtain ⟨device, hengine⟩ := pollIface_engine m t
  obtain ⟨events, hlog, hevents, hpackets⟩ := pollIface_log m t
  have hnet : (m.pollIface t).engine.net =
      (B.ifacePoll m.engine.net t m.engine.device.incoming).2 := by rw [hengine]
  have hservers : (D.resolver (m.pollIface t).engine.net).servers =
      (D.resolver m.engine.net).servers := by
    rw [hnet]
    exact D.ifacePoll_servers m.engine.net t m.engine.device.incoming
  have hgrows : m.log <+: (m.pollIface t).log := by
    rw [hlog]
    exact List.prefix_append ..
  refine ⟨?_, hservers.trans h.servers_eq, ?_, ?_, ?_⟩
  · rw [hengine]
    exact h.settings_eq
  · intro l hl
    obtain ⟨asked, kind, hkinds, hasked, hquery, hslot⟩ := (h.asking l hl).position
    refine ⟨(h.asking l hl).startable, asked, kind, hkinds, ?_, hgrows.subset hquery, ?_⟩
    · intro k hk server hserver
      rw [hservers] at hserver
      exact (hasked k hk server hserver).mono hgrows
    · intro slot hs
      rw [hnet] at hs
      obtain ⟨before, hbefore, hname, hkind, hsent⟩ :=
        D.ifacePoll_slots m.engine.net t m.engine.device.incoming l.query slot hs
      obtain ⟨hname', hkind', hsent'⟩ := hslot before hbefore
      refine ⟨hname.trans hname', hkind.trans hkind', fun server hserver => ?_⟩
      rcases hsent server hserver with hold | ⟨packet, hpacket, hasks⟩
      · exact (hsent' server hold).mono hgrows
      · obtain ⟨taken, htaken⟩ := hpackets packet hpacket
        rw [hname, hname', hkind, hkind'] at hasks
        rw [hlog]
        exact Asked.of_transmitted hquery htaken hasks
  · intro packet taken server name kind hmem hasks
    rw [hlog] at hmem
    rcases List.mem_append.mp hmem with hmem | hmem
    · exact h.packets packet taken server name kind hmem hasks
    · obtain ⟨packet', taken', heq, hop⟩ := hevents _ hmem
      injection heq with hpacket
      rw [hpacket] at hasks
      rw [← h.servers_eq]
      exact D.ifacePoll_asks m.engine.net t m.engine.device.incoming packet' server name kind hop
        hasks
  · rw [hlog]
    refine each_append.mpr ⟨h.failures, ?_⟩
    rintro pre e post rfl reply delivered rfl
    obtain ⟨packet, taken, heq, -⟩ :=
      hevents (.sent reply (.error queryFailed) delivered) (by simp)
    simp at heq

/-- A query is started for a lookup. -/
lemma start (h : m.Thorough D settings lookups) {l : Lookup} {kind : DnsQueryType}
    {asked : List DnsQueryType}
    (hstart : m.startQuery l.reply l.name kind = .ok (.ok l.query, m'))
    (hkinds : settings.recordTypes = asked ++ kind :: l.fallback.toList)
    (hasked : ∀ k ∈ asked, ∀ server ∈ (D.resolver m.engine.net).servers,
      Queried D m.log l.reply k server)
    (hfresh : ∀ l' ∈ lookups, l'.query ≠ l.query) :
    m'.Thorough D settings (l :: lookups) := by
  obtain ⟨hhandle, rfl⟩ := startQuery_eq_ok hstart
  have hresolver := D.startQuery m.engine.net m.engine.dns l.name kind
  rw [← hhandle] at hresolver
  have hothers : ((m.setNet (B.startQuery m.engine.net m.engine.dns l.name kind).2).note
      (.query l.reply l.name kind (.ok l.query))).Thorough D settings lookups := by
    refine @frame B D m _ settings lookups [.query l.reply l.name kind (.ok l.query)] h rfl ?_ ?_
      rfl ?_
    · exact (congrArg Resolver.servers hresolver).trans Resolver.start_servers
    · intro l' hl'
      exact (congrArg (Resolver.slots · l'.query) hresolver).trans
        (Resolver.start_slots_of_ne (hfresh l' hl'))
    · simp [Event.quiet, Event.isTransmitted, Event.fails]
  refine { hothers with asking := List.forall_mem_cons.mpr ⟨?_, hothers.asking⟩ }
  refine ⟨fun n d k => D.startQuery_name _ _ n d l.name kind k l.query hhandle.symm, asked, kind,
    hkinds, fun k hk server hserver => ?_, by simp [note], fun slot hslot => ?_⟩
  · change server ∈ (D.resolver (B.startQuery m.engine.net m.engine.dns l.name kind).2).servers
      at hserver
    rw [hresolver, Resolver.start_servers] at hserver
    exact (hasked k hk server hserver).mono (List.prefix_append ..)
  · change (D.resolver (B.startQuery m.engine.net m.engine.dns l.name kind).2).slots _ = _ at hslot
    rw [hresolver, Resolver.start_slots] at hslot
    obtain rfl := Option.some.inj hslot
    exact ⟨rfl, rfl, by simp⟩

end Thorough

/-! ## What does not concern the DNS socket -/

/-- The DNS socket is not touched, and the log says nothing new about it. -/
structure Quiet (D : DnsContract B) (m m' : Machine B) : Prop where
  settings_eq : m'.engine.settings = m.engine.settings
  resolver_eq : D.resolver m'.engine.net = D.resolver m.engine.net
  log_eq : ∃ events, m'.log = m.log ++ events ∧ ∀ e ∈ events, e.quiet = true

namespace Quiet

variable {m₁ m₂ : Machine B}

lemma trans (h : Quiet D m m₁) (h' : Quiet D m₁ m₂) : Quiet D m m₂ := by
  obtain ⟨events, hlog, hquiet⟩ := h.log_eq
  obtain ⟨events', hlog', hquiet'⟩ := h'.log_eq
  refine ⟨h'.settings_eq.trans h.settings_eq, h'.resolver_eq.trans h.resolver_eq,
    events ++ events', by rw [hlog', hlog, List.append_assoc], fun e he => ?_⟩
  rcases List.mem_append.mp he with he | he
  · exact hquiet e he
  · exact hquiet' e he

lemma note {e : Event B} (he : e.quiet = true) : Quiet D m (m.note e) :=
  ⟨rfl, rfl, [e], rfl, by simpa using he⟩

lemma isClosed (reply : Reply) : Quiet D m (m.isClosed reply).2 :=
  ⟨rfl, rfl, [.observed reply (m.isClosed reply).1], rfl, by simp [Event.quiet,
    Event.isTransmitted, Event.fails]⟩

lemma refuse {kind : ErrorKind} {message : String} (h : (⟨kind, message⟩ : IoError) ≠ queryFailed) :
    Quiet D m (m.refuse reply kind message) := by
  obtain ⟨delivered, hlog⟩ := refuse_log m reply kind message
  exact ⟨rfl, rfl, _, hlog, by simp [Event.quiet, Event.isTransmitted, Event.fails, h]⟩

/-- What is known of the servers stays so. -/
lemma thorough (h : Quiet D m m') (ht : m.Thorough D settings lookups) :
    m'.Thorough D settings lookups := by
  obtain ⟨events, hlog, hquiet⟩ := h.log_eq
  exact ht.frame h.settings_eq (by rw [h.resolver_eq]) (fun l _ => by rw [h.resolver_eq]) hlog
    hquiet

lemma dial {ip : IpAddr} {port : ℕ} {deadline : Instant}
    (h : m.dial ip port reply deadline = .ok m') : Quiet D m m' := by
  obtain ⟨localPort, nextPort, -, hcases⟩ := dial_eq_ok h
  have hdialing : Quiet D m (m.dialing ip port localPort nextPort) :=
    ⟨rfl, D.tcpConnect m.engine.net (newSocket B) ip port localPort, [], by simp [dialing, setNet],
      by simp⟩
  rcases hcases with ⟨text, rfl⟩ | ⟨socket, a, -, rfl⟩
  · exact hdialing.trans (refuse (by simp [queryFailed]))
  · exact hdialing.trans ⟨rfl, D.addTcp _ socket, [], (List.append_nil _).symm, by simp⟩

lemma connectIp {ip : IpAddr} {port : ℕ} {deadline : Instant}
    (h : m.connectIp ip port reply deadline = .ok m') : Quiet D m m' := by
  have hnote : Quiet D m (m.note (.connectIp reply ip port)) :=
    note (by simp [Event.quiet, Event.isTransmitted, Event.fails])
  unfold Machine.connectIp at h
  simp only at h
  split_ifs at h
  · exact Except.ok.inj h ▸ hnote.trans (refuse (by decide))
  · exact Except.ok.inj h ▸ hnote.trans (refuse (by decide))
  · exact hnote.trans (dial h)

lemma accepting (reply : Reply) : Quiet D m (m.accepting reply) :=
  (isClosed reply).trans ⟨rfl, rfl, [_], rfl, by simp [Event.quiet, Event.isTransmitted,
    Event.fails]⟩

/-- A visit of a flow. -/
lemma visitFlow {flow : Flow B} {w : Verdict (Flow B)} (C : NetContract B)
    (h : visitFlow now m flow = .ok (m', w)) : Quiet D m m' := by
  obtain ⟨socket, p, keep, hsocket, hpoll, hcases⟩ := visitFlow_eq_ok h
  have hpolled : Quiet D m (m.afterPoll flow p) := by
    refine ⟨rfl, D.setTcp m.engine.net flow.socket p.socket, _, rfl, fun e he => ?_⟩
    obtain ⟨call, -, rfl⟩ := List.mem_map.mp he
    rfl
  rcases hcases with ⟨-, rfl, -⟩ | ⟨net, -, hremove, rfl, -⟩
  · exact hpolled
  have hthere : (B.tcpSocket (m.afterPoll flow p).engine.net p.flow.socket).isSome = true := by
    rw [C.tcpSocket, (Polling.poll_step hpoll).frame.1]
    show _ ∈ (C.inventory (B.setTcp m.engine.net flow.socket p.socket)).tcp
    rw [C.setTcp, ← C.tcpSocket, hsocket]
    rfl
  have hremoved : D.resolver net = D.resolver (m.afterPoll flow p).engine.net :=
    D.removeSocket _ _ _ hthere hremove
  obtain ⟨hengine, hlog⟩ := dropFlow_spec ((m.afterPoll flow p).setNet net) p.flow
  refine hpolled.trans ⟨by rw [hengine]; rfl, by rw [hengine]; exact hremoved, _, hlog, ?_⟩
  intro e he
  obtain ⟨_, -, rfl⟩ := List.mem_map.mp he
  rfl

end Quiet

/-! ## Every step -/

/-- The end of a query frees its slot, and the slots of the other lookups are others. -/
lemma Thorough.freed (events : List (Event B)) {net : B.Net} {query : QueryHandle}
    (h : m.Thorough D settings lookups) (hothers : ∀ l ∈ lookups, l.query ≠ query)
    (hnet : D.resolver net = (D.resolver m.engine.net).free query)
    (hengine : m'.engine = { m.engine with net := net }) (hlog : m'.log = m.log ++ events)
    (hquiet : ∀ e ∈ events, e.quiet = true) : m'.Thorough D settings lookups := by
  refine h.frame (by rw [hengine]) ?_ (fun l hl => ?_) hlog hquiet <;> rw [hengine] <;>
    simp only [hnet]
  · exact Resolver.free_servers
  · exact Resolver.free_slots_of_ne (hothers l hl)

/-- **A visit of a lookup.** -/
lemma visitLookup_thorough {lookup : Lookup} {w : Verdict Lookup} {v r : List Lookup}
    (h : visitLookup now m lookup = .ok (m', w))
    (hholds : m.engine.Holds C m.engine.flows (v ++ lookup :: r))
    (ht : m.Thorough D settings (v ++ lookup :: r)) :
    w.After (fun v r => m'.Thorough D settings (v ++ r)) v r := by
  refine Verdict.after_of_rest (J := fun l => m'.Thorough D settings l)
    (fun _ _ hl h => h.mono fun l hmem => hl.mem_iff.mpr hmem) ?_
  have hfirst : m.Thorough D settings (lookup :: (v ++ r)) :=
    ht.mono fun l hl => List.perm_middle.mem_iff.mpr hl
  have hrest : m.Thorough D settings (v ++ r) := hfirst.mono (List.subset_cons_self _ _)
  have hothers : ∀ l ∈ v ++ r, l.query ≠ lookup.query := key_ne_of_nodup hholds.slots
  have hended : ∀ {s : Machine B} {result : QueryResult},
      (m.isClosed lookup.reply).2.getQueryResult lookup.reply lookup.query = .ok (result, s) →
      result ≠ .pending → s.Thorough D settings (v ++ r) ∧
        C.inventory s.engine.net = { C.inventory m.engine.net with
          queries := (C.inventory m.engine.net).queries.erase lookup.query } ∧
        (firstAddress result = none → ∃ asked,
          settings.recordTypes = asked ++ lookup.fallback.toList ∧ ∀ k ∈ asked,
            ∀ server ∈ (D.resolver s.engine.net).servers,
              Queried D s.log lookup.reply k server) := by
    intro s result hresult hne
    obtain ⟨net, hget, rfl⟩ := getQueryResult_eq_ok hresult
    have hfreed := D.getQueryResult _ _ _ _ _ hget
    have hinventory := C.getQueryResult _ _ _ _ _ hget
    rw [if_neg hne] at hfreed hinventory
    refine ⟨?_, hinventory, fun hnone => ?_⟩
    · refine Thorough.freed [_] ((Quiet.isClosed lookup.reply).thorough hrest) hothers hfreed rfl
        rfl ?_
      simp [Event.quiet, Event.isTransmitted, Event.fails]
    · obtain ⟨asked, hkinds, hasked⟩ :=
        (((Quiet.isClosed lookup.reply).thorough hfirst).asking lookup
          (List.mem_cons_self ..)).ended hget hne hnone
      refine ⟨asked, hkinds, fun k hk server hserver => ?_⟩
      have hkept : server ∈ (D.resolver net).servers := hserver
      rw [hfreed, Resolver.free_servers] at hkept
      exact (hasked k hk server hkept).mono (List.prefix_append ..)
  cases visitLookup_eq_ok h with
  | expired s hlate hcancel =>
    obtain ⟨net, hfree, rfl⟩ := cancelQuery_eq_ok hcancel
    have hcancelled : ((m.isClosed lookup.reply).2.setNet net).Thorough D settings (v ++ r) :=
      Thorough.freed [] ((Quiet.isClosed lookup.reply).thorough hrest) hothers
        (D.cancelQuery _ _ _ _ hfree) rfl (List.append_nil _).symm (by simp)
    exact (Quiet.refuse (by decide)).thorough hcancelled
  | pending s hresult =>
    obtain ⟨net, hget, rfl⟩ := getQueryResult_eq_ok hresult
    have hsame := D.getQueryResult _ _ _ _ _ hget
    rw [if_pos rfl] at hsame
    refine Quiet.thorough (Quiet.trans (Quiet.isClosed lookup.reply) ⟨rfl, hsame, [_], rfl, ?_⟩)
      hfirst
    simp [Event.quiet, Event.isTransmitted, Event.fails]
  | resolved s _ result ip hresult hne _ hdial =>
    exact (Quiet.connectIp hdial).thorough (hended hresult hne).1
  | exhausted s result hresult hne hnone hfallback =>
    obtain ⟨hs, -, hasked⟩ := hended hresult hne
    obtain ⟨asked, hkinds, hqueried⟩ := hasked hnone
    rw [hfallback, Option.toList_none, List.append_nil] at hkinds
    exact hs.fail (by rw [hkinds]; exact hqueried)
  | again s _ result kind query hresult hne hnone hfallback hquery =>
    obtain ⟨hs, hinventory, hasked⟩ := hended hresult hne
    obtain ⟨asked, hkinds, hqueried⟩ := hasked hnone
    rw [hfallback] at hkinds
    have hfresh := C.startQuery_fresh _ _ _ _ query (startQuery_eq_ok hquery).1.symm
    rw [hinventory] at hfresh
    exact hs.start (l := { lookup with query := query, fallback := none }) hquery
      (by simpa using hkinds) hqueried (hholds.query_ne hfresh)
  | unstartable s s' result kind text hresult hne hnone hfallback hquery =>
    obtain ⟨q, hok⟩ := (hfirst.asking lookup (List.mem_cons_self ..)).startable s.engine.net
      s.engine.dns kind
    rw [← (startQuery_eq_ok hquery).1] at hok
    simp at hok

/-- A step. -/
lemma step_thorough (h : m.engine.Valid C) (ht : m.Thorough D settings m.engine.lookups) :
    ∃ m', m.step = .ok m' ∧ m'.engine.Valid C ∧ m'.Thorough D settings m'.engine.lookups := by
  obtain ⟨t, now, s, l, hok, hvalid, hF⟩ := @step_visits B C m
    (fun _ s v r => s.Thorough D settings (v ++ r))
    (fun _ s _ _ => s.Thorough D settings s.engine.lookups) h
    (fun t now s hpolled => by
      obtain ⟨world, world', rfl⟩ := hpolled
      obtain ⟨device, hengine⟩ := pollIface_engine { m with world := world } t
      have hserved := Thorough.poll (m := { m with world := world }) { ht with } t
      have hlookups : (({ m with world := world } : Machine B).pollIface t).engine.lookups =
          m.engine.lookups := by rw [hengine]
      have hnoted := (Quiet.note (e := .stepAt now) rfl).thorough hserved
      exact { hnoted with asking := by rw [List.nil_append, hlookups]; exact hnoted.asking })
    (fun now s v a r s' w hholds hthorough hok _ => visitLookup_thorough hok hholds hthorough)
    (fun now s l _ hthorough => by
      rw [List.append_nil] at hthorough
      exact { hthorough with })
    (fun now s v a r s' w _ hthorough hok hv => w.after_of_forall fun _ _ => by
      rw [hv.lookups]
      exact (Quiet.visitFlow C hok).thorough hthorough)
  have hkept : ((s.setFlows l).pollIface t).engine.lookups = s.engine.lookups := by
    obtain ⟨device, hengine⟩ := pollIface_engine (s.setFlows l) t
    rw [hengine]
    rfl
  refine ⟨_, hok, hvalid, ?_⟩
  rw [hkept]
  exact Thorough.poll (m := s.setFlows l) { hF with } t

/-- A request. -/
lemma connect_thorough {target : Target} {port : ℕ} (h : m.engine.Valid C)
    (ht : m.Thorough D settings m.engine.lookups)
    (hok : m.connect target port reply = .ok m') :
    m'.Thorough D settings m'.engine.lookups := by
  have hsame : ∀ {s : Machine B}, Quiet D m s → s.engine.lookups = m.engine.lookups →
      s.Thorough D settings s.engine.lookups := by
    intro s hquiet hlookups
    rw [hlookups]
    exact hquiet.thorough ht
  rcases connect_eq_ok hok with rfl | rfl | ⟨deadline, ⟨ip, -, hdial⟩ | ⟨name, -, hlook⟩⟩
  · exact hsame ((Quiet.isClosed reply).trans (Quiet.note rfl)) rfl
  · exact hsame ((Quiet.isClosed reply).trans (Quiet.refuse (by decide))) rfl
  · obtain ⟨m'', hok', hdialed⟩ := connectIp_spec C (m.accepting reply) ip port reply deadline
      h.next h.flows_lt
    obtain rfl := Except.ok.inj (hdial.symm.trans hok')
    exact hsame ((Quiet.accepting reply).trans (Quiet.connectIp hdial)) hdialed.other.2.1
  have haccepted : (m.accepting reply).Thorough D settings m.engine.lookups :=
    (Quiet.accepting reply).thorough ht
  rcases lookUp_eq_ok hlook with ⟨-, rfl⟩ | ⟨-, handle, s, hquery, hcases⟩
  · exact (Quiet.refuse (by decide)).thorough haccepted
  have hlookups : s.engine.lookups = m.engine.lookups := by
    rw [startQuery_lookups hquery, accepting_engine]
  have hsettings : (m.accepting reply).engine.settings = settings := haccepted.settings_eq
  rw [hsettings] at hquery hcases
  obtain ⟨hhandle, hs⟩ := startQuery_eq_ok hquery
  rcases hcases with ⟨query, rfl, rfl⟩ | ⟨text, rfl, rfl⟩
  · have hstarted := @Thorough.start B D _ s settings m.engine.lookups haccepted
      ⟨query, name, fallbackType settings, port, reply, deadline⟩ (queryType settings) [] hquery
      (recordTypes_eq settings) (by simp) fun l hl heq => ?_
    · refine { hstarted.mono fun l hl => ?_ with }
      rw [pushLookup, hlookups] at hl
      exact (List.perm_append_singleton _ _).mem_iff.mp hl
    · have hfresh := C.startQuery_fresh _ _ _ _ query hhandle.symm
      have hqueries : (C.inventory (m.accepting reply).engine.net).queries =
          (m.engine.lookups.map Lookup.query).toFinset := h.queries
      rw [hqueries, List.mem_toFinset] at hfresh
      exact hfresh (List.mem_map.mpr ⟨l, hl, heq⟩)
  · have hfailed : Quiet D (m.accepting reply) s := by
      have hresolver := D.startQuery (m.accepting reply).engine.net (m.accepting reply).engine.dns
        name (queryType settings)
      rw [← hhandle] at hresolver
      rw [hs]
      exact ⟨rfl, hresolver, [_], rfl, by simp [Event.quiet, Event.isTransmitted, Event.fails]⟩
    refine hsame (((Quiet.accepting reply).trans hfailed).trans
      (Quiet.refuse (by simp [queryFailed]))) ?_
    rw [refuse_engine, hlookups]

/-- The run lemma. -/
lemma run_thorough {acts : List (EngineAct B)} {s : Except Fault (Machine B)}
    (hrun : (engineSystem B).Run (.ok m) acts s) (h : m.engine.Valid C)
    (ht : m.Thorough D settings m.engine.lookups) :
    ∃ m', s = .ok m' ∧ m'.engine.Valid C ∧ m'.Thorough D settings m'.engine.lookups := by
  refine run_rule (I := fun m => m.Thorough D settings m.engine.lookups) ?_ hrun h ht
  intro m₁ a _ hvalid hthorough
  cases a with
  | connect target port reply =>
    obtain ⟨m', hok, -, hvalid'⟩ := connect_rule hvalid target port reply
    exact ⟨m', hok, hvalid', connect_thorough hvalid hthorough hok⟩
  | step => exact step_thorough hvalid hthorough
  | incoming packet =>
    exact ⟨_, rfl, hvalid.service (m₁.engine.pushIncoming packet).device rfl, { hthorough with }⟩
  | outside world bridge => exact ⟨_, rfl, { hvalid.bridges bridge with }, { hthorough with }⟩

end Machine

/-! ## A silent server -/

/-- The error a request was answered with. -/
def Event.refusal? : Event B → Option (Reply × IoError)
  | .sent reply (.error error) _ => some (reply, error)
  | _ => none

/-- The packet handed to the sink, and whether the sink took it. -/
def Event.handed? : Event B → Option (Packet × Bool)
  | .transmitted packet taken => some (packet, taken)
  | _ => none

/-- The first resolver is silent; any other has an address for every name. -/
def silentFirst (server : IpAddr) (_ : String) (_ : DnsQueryType) : Option (List IpAddr) :=
  if server = .v4 (.new 10 8 0 1) then none else some [.v4 (.new 192 0 2 7)]

/-- A request whose query is given up ten seconds later. -/
def requestThenWait : List (EngineAct (resolving silentFirst)) :=
  [.connect (.domain "host.example") 443 1, .step,
    .outside ⟨10001000000, [], []⟩ fun f => f.bridge, .step]

/-- The entry of a refusal. -/
lemma mem_of_refusal {log : List (Event B)} {reply : Reply} {error : IoError}
    (h : log.filterMap Event.refusal? = [(reply, error)]) :
    ∃ delivered, .sent reply (.error error) delivered ∈ log := by
  have hmem : (reply, error) ∈ log.filterMap Event.refusal? := by rw [h]; simp
  obtain ⟨e, he, hrefusal⟩ := List.mem_filterMap.mp hmem
  cases e with
  | sent reply' answer delivered =>
    cases answer with
    | error error' =>
      obtain ⟨rfl, rfl⟩ : reply' = reply ∧ error' = error := by
        simpa [Event.refusal?] using hrefusal
      exact ⟨delivered, he⟩
    | ok connected => simp [Event.refusal?] at hrefusal
  | _ => simp [Event.refusal?] at hrefusal

/-! ## The result -/

/-- **Which servers were asked when a lookup failed.**  In every run of every engine, whenever a
request was answered `VPN DNS query failed`, every server of the settings had been asked for every
record type the families allow exactly if all of them are the first. -/
theorem dns_failure_iff (C : NetContract B) (D : DnsContract B) {settings : Settings}
    {sink : SinkId} {connectTimeout idleTimeout maxConnections clock nextPort : ℕ} {e : Engine B}
    {world : B.World} {acts : List (EngineAct B)} {m : Machine B} {reply : Reply}
    {delivered : Bool} {pre post : List (Event B)}
    (hlimit : maxConnections ≤ 4096) (hport : nextPort ∈ Finset.Ico 49152 65535)
    (hnew : Engine.new B settings sink connectTimeout idleTimeout maxConnections clock nextPort =
      .ok e)
    (hrun : (engineSystem B).Run (.ok ⟨e, world, []⟩) acts (.ok m))
    (hfailed : m.log = pre ++ .sent reply (.error queryFailed) delivered :: post) :
    (∀ server ∈ settings.dns, ∀ kind ∈ settings.recordTypes, Queried D pre reply kind server) ↔
      ∀ server ∈ settings.dns, settings.dns.head? = some server := by
  have hvalid := Engine.new_valid C hlimit hport hnew
  have hthorough : (⟨e, world, []⟩ : Machine B).Thorough D settings e.lookups := by
    obtain ⟨_, _, _, net, -, -, -, rfl⟩ := Engine.new_eq_ok hnew
    exact ⟨rfl, D.addDns net settings.dns, by simp, by simp, each_nil⟩
  obtain ⟨m', hm, -, hend⟩ := Machine.run_thorough hrun hvalid hthorough
  obtain rfl := Except.ok.inj hm
  have hkept : ∀ server, server ∈ settings.dns.take dnsMaxServerCount ↔
      settings.dns.head? = some server := by
    intro server
    cases settings.dns with
    | nil => simp
    | cons first rest => simp [dnsMaxServerCount, eq_comm]
  constructor
  · intro hall server hserver
    obtain ⟨packet, taken, name, hmem, hasks⟩ := (hall server hserver
      (Machine.queryType settings) (by rw [recordTypes_eq]; simp)).transmitted
    refine (hkept server).mp (hend.packets packet taken server name _ ?_ hasks)
    rw [hfailed]
    exact List.mem_append_left _ hmem
  · intro hone server hserver kind hkind
    exact hend.failures _ _ _ hfailed reply delivered rfl kind hkind server
      ((hkept server).mpr (hone server hserver))

/-- With one server that does not answer, that server was asked. -/
theorem dns_failure_iff_single :
    let settings : Settings := ⟨some (.new 10 8 0 9), none, [.v4 (.new 10 8 0 1)], 1400⟩
    ∃ e m delivered pre post,
      Engine.new (resolving silentFirst) settings 0 30000000000 0 8 0 49152 = .ok e ∧
      requestThenWait.foldlM Machine.perform ⟨e, ⟨0, [], []⟩, []⟩ = .ok m ∧
      m.log = pre ++ .sent 1 (.error queryFailed) delivered :: post ∧
      Queried (Reference.dnsContract silentFirst) pre 1 .a (.v4 (.new 10 8 0 1)) := by
  intro settings
  have hrun : (Engine.new (resolving silentFirst) settings 0 30000000000 0 8 0 49152 >>= fun e =>
      requestThenWait.foldlM Machine.perform ⟨e, ⟨0, [], []⟩, []⟩).map
        (fun m => m.log.filterMap Event.refusal?) = .ok [(1, queryFailed)] := by decide +kernel
  obtain ⟨m, hm, hrefusals⟩ := except_map_eq_ok.mp hrun
  obtain ⟨e, hnew, hm⟩ := bind_eq_ok.mp hm
  obtain ⟨delivered, hmem⟩ := mem_of_refusal hrefusals
  obtain ⟨pre, post, hsplit⟩ := List.append_of_mem hmem
  refine ⟨e, m, delivered, pre, post, hnew, hm, hsplit, ?_⟩
  exact (dns_failure_iff (Reference.resolvingContract silentFirst)
    (Reference.dnsContract silentFirst) (by decide) (by decide) hnew (Machine.run_of_foldlM hm)
    hsplit).mpr (by simp [settings]) _ (by simp [settings]) _ (by decide)

/-- With a silent server and a responsive one, the responsive one is not asked: the request fails
after ten of the thirty seconds it was given, although that server has its address. -/
theorem dns_failure_second_server :
    let settings : Settings :=
      ⟨some (.new 10 8 0 9), none, [.v4 (.new 10 8 0 1), .v4 (.new 10 8 0 2)], 1400⟩
    ∃ e m delivered pre post,
      Engine.new (resolving silentFirst) settings 0 30000000000 0 8 0 49152 = .ok e ∧
      requestThenWait.foldlM Machine.perform ⟨e, ⟨0, [], []⟩, []⟩ = .ok m ∧
      m.log = pre ++ .sent 1 (.error queryFailed) delivered :: post ∧
      silentFirst (.v4 (.new 10 8 0 2)) "host.example" .a = some [.v4 (.new 192 0 2 7)] ∧
      ¬ Queried (Reference.dnsContract silentFirst) pre 1 .a (.v4 (.new 10 8 0 2)) := by
  intro settings
  have hrun : (Engine.new (resolving silentFirst) settings 0 30000000000 0 8 0 49152 >>= fun e =>
      requestThenWait.foldlM Machine.perform ⟨e, ⟨0, [], []⟩, []⟩).map
        (fun m => (m.log.filterMap Event.refusal?, m.log.filterMap Event.handed?)) =
      .ok ([(1, queryFailed)], [(Reference.queryPacket (.new 10 8 0 9) (.v4 (.new 10 8 0 1))
        "host.example" .a, true)]) := by decide +kernel
  obtain ⟨m, hm, hobserved⟩ := except_map_eq_ok.mp hrun
  obtain ⟨e, hnew, hm⟩ := bind_eq_ok.mp hm
  obtain ⟨hrefusals, hpackets⟩ := Prod.mk.inj hobserved
  obtain ⟨delivered, hmem⟩ := mem_of_refusal hrefusals
  obtain ⟨pre, post, hsplit⟩ := List.append_of_mem hmem
  refine ⟨e, m, delivered, pre, post, hnew, hm, hsplit, by decide, fun hqueried => ?_⟩
  obtain ⟨packet, taken, name, hsent, source, rfl⟩ := hqueried.transmitted
  have honly : (Reference.queryPacket source (.v4 (.new 10 8 0 2)) name .a, taken) ∈
      m.log.filterMap Event.handed? :=
    List.mem_filterMap.mpr ⟨_, by rw [hsplit]; exact List.mem_append_left _ hsent, rfl⟩
  rw [hpackets, List.mem_singleton] at honly
  exact absurd (Reference.queryPacket_server (Prod.mk.inj honly).1) (by decide)

end Ovpnlane
