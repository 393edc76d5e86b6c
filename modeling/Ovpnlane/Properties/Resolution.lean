import Ovpnlane.Properties.Resources
import Ovpnlane.Framework.History

/-!
# The lookup of one request

The lookup of a request is a small dialogue with the resolver: a query of one record type, its end,
perhaps a query of the other type, and then the dialling of an address or an error.  In the log of
an engine the dialogues of all open requests are interleaved; `dnsTrace r log` is the one of the
request `r`.

`Resolution` is the grammar of these dialogues.  It is the abstract resolver of one request: the
record types are asked in order, each only after the one before it ended without an address, the
first address that turns up is dialled, and the request fails when the types are used up.  It also
says which query is open, so that a dialogue can be told apart from its continuation.

The engine refines it.  Each operation takes the dialogue of the request it is about from one word
of the grammar to another (`connect_resolution`, `visitLookup_resolution`) and leaves the others
alone (`LookupVisit.other`, `Requested.other`).  A lookup is tied to its dialogue by its query
handle, which no other lookup has, so recycled handles do not mix dialogues up; `perform_tracks` is
the step lemma of the engine, `run_tracks` the run lemma.
-/

namespace Ovpnlane

variable {B : Backend}

/-! ## Dialogues -/

/-- What the log says about the lookup of one request. -/
inductive DnsEntry
  /-- The request was accepted. -/
  | accepted
  /-- `start_query` was called, with its result. -/
  | asked (name : String) (kind : DnsQueryType) (query : Except String QueryHandle)
  /-- `get_query_result` returned something else than `Pending`. -/
  | ended (query : QueryHandle) (result : QueryResult)
  /-- `connect_ip` was called. -/
  | dialed (ip : IpAddr) (port : ℕ)
  /-- The request was answered with an error. -/
  | refused (error : IoError)

namespace DnsEntry

/-- The record type asked for. -/
def kind? : DnsEntry → Option DnsQueryType
  | .asked _ kind _ => some kind
  | _ => none

def result? : DnsEntry → Option QueryResult
  | .ended _ result => some result
  | _ => none

def destination? : DnsEntry → Option (IpAddr × ℕ)
  | .dialed ip port => some (ip, port)
  | _ => none

end DnsEntry

/-- What an entry of the log says about the lookup of `r`. -/
def Event.dnsEntry (r : Reply) : Event B → Option DnsEntry
  | .accepted reply _ => if reply = r then some .accepted else none
  | .query reply name kind handle => if reply = r then some (.asked name kind handle) else none
  | .queryResult reply handle result =>
    if reply = r ∧ result ≠ .pending then some (.ended handle result) else none
  | .connectIp reply ip port => if reply = r then some (.dialed ip port) else none
  | .sent reply (.error error) _ => if reply = r then some (.refused error) else none
  | _ => none

/-- The lookup of `r`, as the log has it. -/
def dnsTrace (r : Reply) (log : List (Event B)) : List DnsEntry := log.filterMap (Event.dnsEntry r)

/-- The record types asked for, in order. -/
def kindsAsked (trace : List DnsEntry) : List DnsQueryType := trace.filterMap DnsEntry.kind?

/-- How the queries ended, in order. -/
def resultsOf (trace : List DnsEntry) : List QueryResult := trace.filterMap DnsEntry.result?

/-- The addresses and ports that were dialled, in order. -/
def dialedIn (trace : List DnsEntry) : List (IpAddr × ℕ) := trace.filterMap DnsEntry.destination?

/-- What a request is answered with when no query had an address. -/
def queryFailed : IoError := ⟨.notFound, "VPN DNS query failed"⟩

/-! ## Answers -/

/-- The addresses of an answer. -/
def QueryResult.addresses : QueryResult → List IpAddr
  | .completed ips => ips
  | _ => []

lemma firstAddress_eq (result : QueryResult) :
    Machine.firstAddress result = result.addresses.head? := by
  cases result <;> rfl

lemma firstAddress_eq_none {result : QueryResult} :
    Machine.firstAddress result = none ↔ result.addresses = [] := by
  rw [firstAddress_eq, List.head?_eq_none_iff]

/-- The addresses of a request's answers, in the order in which they came. -/
def addressesIn (trace : List DnsEntry) : List IpAddr :=
  (resultsOf trace).flatMap QueryResult.addresses

/-! ## The grammar -/

/-- A query that ended without an address. -/
structure Barren where
  kind : DnsQueryType
  query : QueryHandle
  result : QueryResult
  barren : result.addresses = []

/-- The entries of queries that ended without an address. -/
def barrenEntries (name : String) (tried : List Barren) : List DnsEntry :=
  tried.flatMap fun b => [.asked name b.kind (.ok b.query), .ended b.query b.result]

/-- The dialogue of a request for `name` and `port` that may ask for `kinds`.  The second index is
the open query, with the record types that are left after it. -/
inductive Resolution (name : String) (port : ℕ) (kinds : List DnsQueryType) :
    List DnsEntry → Option (QueryHandle × List DnsQueryType) → Prop
  /-- Nothing was done for it. -/
  | unseen : Resolution name port kinds [] none
  /-- It was refused before it was accepted. -/
  | turnedAway (error : IoError) (herror : error ≠ queryFailed) :
      Resolution name port kinds [.refused error] none
  /-- There is nothing to ask for. -/
  | unresolvable (error : IoError) (herror : error ≠ queryFailed) (hkinds : kinds = []) :
      Resolution name port kinds [.accepted, .refused error] none
  /-- A query is open. -/
  | waiting (tried : List Barren) (kind : DnsQueryType) (query : QueryHandle)
      (rest : List DnsQueryType) (hkinds : kinds = tried.map Barren.kind ++ kind :: rest) :
      Resolution name port kinds
        (.accepted :: (barrenEntries name tried ++ [.asked name kind (.ok query)]))
        (some (query, rest))
  /-- The last query was not awaited, or the first could not be started. -/
  | givenUp (tried : List Barren) (kind : DnsQueryType) (query : Except String QueryHandle)
      (rest : List DnsQueryType) (error : IoError)
      (hkinds : kinds = tried.map Barren.kind ++ kind :: rest) (herror : error ≠ queryFailed) :
      Resolution name port kinds
        (.accepted :: (barrenEntries name tried ++ [.asked name kind query, .refused error])) none
  /-- Every query ended without an address. -/
  | exhausted (tried : List Barren) (hkinds : kinds = tried.map Barren.kind)
      (hkinds' : kinds ≠ []) :
      Resolution name port kinds
        (.accepted :: (barrenEntries name tried ++ [.refused queryFailed])) none
  /-- The last query could not be started. -/
  | unstartable (tried : List Barren) (kind : DnsQueryType) (text : String)
      (hkinds : kinds = tried.map Barren.kind ++ [kind]) :
      Resolution name port kinds (.accepted :: (barrenEntries name tried ++
        [.asked name kind (.error text), .refused queryFailed])) none
  /-- A query had an address. -/
  | resolved (tried : List Barren) (kind : DnsQueryType) (query : QueryHandle)
      (result : QueryResult) (rest : List DnsQueryType) (ip : IpAddr) (refusals : List IoError)
      (hkinds : kinds = tried.map Barren.kind ++ kind :: rest)
      (haddress : result.addresses.head? = some ip) (hrefusals : ∀ e ∈ refusals, e ≠ queryFailed) :
      Resolution name port kinds (.accepted :: (barrenEntries name tried ++
        [.asked name kind (.ok query), .ended query result, .dialed ip port] ++
        refusals.map .refused)) none

section Grammar

variable {name : String} {port : ℕ} {kinds : List DnsQueryType} {trace : List DnsEntry}
  {opened : Option (QueryHandle × List DnsQueryType)}

@[simp] lemma kindsAsked_barren (name : String) (tried : List Barren) :
    (barrenEntries name tried).filterMap DnsEntry.kind? = tried.map Barren.kind := by
  induction tried with
  | nil => rfl
  | cons b tried ih =>
    rw [List.map_cons, ← ih]
    rfl

@[simp] lemma resultsOf_barren (name : String) (tried : List Barren) :
    (barrenEntries name tried).filterMap DnsEntry.result? = tried.map Barren.result := by
  induction tried with
  | nil => rfl
  | cons b tried ih =>
    rw [List.map_cons, ← ih]
    rfl

@[simp] lemma dialedIn_barren (name : String) (tried : List Barren) :
    (barrenEntries name tried).filterMap DnsEntry.destination? = [] := by
  induction tried with
  | nil => rfl
  | cons b tried ih => exact ih

@[simp] lemma addresses_barren (tried : List Barren) :
    (tried.map Barren.result).flatMap QueryResult.addresses = [] := by
  simp only [List.flatMap_eq_nil_iff, List.forall_mem_map]
  exact fun b _ => b.barren

lemma mem_barrenEntries {tried : List Barren} {entry : DnsEntry} :
    entry ∈ barrenEntries name tried ↔ ∃ b ∈ tried,
      entry = .asked name b.kind (.ok b.query) ∨ entry = .ended b.query b.result := by
  simp [barrenEntries]

lemma barrenEntries_append (tried more : List Barren) :
    barrenEntries name (tried ++ more) = barrenEntries name tried ++ barrenEntries name more :=
  List.flatMap_append

/-! ### How a dialogue goes on -/

section Open

variable {query : QueryHandle} {rest : List DnsQueryType} {result : QueryResult}

/-- The dialogue of an open query. -/
lemma Resolution.of_open (h : Resolution name port kinds trace (some (query, rest))) :
    ∃ tried kind, kinds = tried.map Barren.kind ++ kind :: rest ∧
      trace = .accepted :: (barrenEntries name tried ++ [.asked name kind (.ok query)]) := by
  cases h with
  | waiting tried kind _ _ hkinds => exact ⟨tried, kind, hkinds, rfl⟩

lemma Resolution.giveUp (h : Resolution name port kinds trace (some (query, rest)))
    {error : IoError} (herror : error ≠ queryFailed) :
    Resolution name port kinds (trace ++ [.refused error]) none := by
  obtain ⟨tried, kind, hkinds, rfl⟩ := h.of_open
  simpa using Resolution.givenUp tried kind (.ok query) rest error hkinds herror

lemma Resolution.resolve (h : Resolution name port kinds trace (some (query, rest)))
    {ip : IpAddr} (haddress : result.addresses.head? = some ip) (refusals : List IoError)
    (hrefusals : ∀ e ∈ refusals, e ≠ queryFailed) :
    Resolution name port kinds
      (trace ++ .ended query result :: .dialed ip port :: refusals.map .refused) none := by
  obtain ⟨tried, kind, hkinds, rfl⟩ := h.of_open
  simpa using Resolution.resolved tried kind query result rest ip refusals hkinds haddress hrefusals

/-- The end of an open query without an address. -/
lemma Resolution.end_open (h : Resolution name port kinds trace (some (query, rest)))
    (hnone : result.addresses = []) :
    ∃ tried : List Barren, kinds = tried.map Barren.kind ++ rest ∧ tried ≠ [] ∧
      trace ++ [.ended query result] = .accepted :: barrenEntries name tried := by
  obtain ⟨tried, kind, hkinds, rfl⟩ := h.of_open
  refine ⟨tried ++ [⟨kind, query, result, hnone⟩], by simp [hkinds], by simp, ?_⟩
  rw [barrenEntries_append]
  simp [barrenEntries]

lemma Resolution.exhaust (h : Resolution name port kinds trace (some (query, [])))
    (hnone : result.addresses = []) :
    Resolution name port kinds (trace ++ [.ended query result, .refused queryFailed]) none := by
  obtain ⟨tried, hkinds, htried, htrace⟩ := h.end_open hnone
  rw [List.append_nil] at hkinds
  rw [List.append_cons, htrace]
  exact .exhausted tried hkinds (by simpa [hkinds] using htried)

lemma Resolution.cannotStart {kind : DnsQueryType}
    (h : Resolution name port kinds trace (some (query, [kind])))
    (hnone : result.addresses = []) (text : String) :
    Resolution name port kinds (trace ++ [.ended query result, .asked name kind (.error text),
      .refused queryFailed]) none := by
  obtain ⟨tried, hkinds, -, htrace⟩ := h.end_open hnone
  rw [List.append_cons, htrace]
  exact .unstartable tried kind text hkinds

lemma Resolution.fallBack {kind : DnsQueryType}
    (h : Resolution name port kinds trace (some (query, kind :: rest)))
    (hnone : result.addresses = []) (query' : QueryHandle) :
    Resolution name port kinds (trace ++ [.ended query result, .asked name kind (.ok query')])
      (some (query', rest)) := by
  obtain ⟨tried, hkinds, -, htrace⟩ := h.end_open hnone
  rw [List.append_cons, htrace]
  exact .waiting tried kind query' rest hkinds

end Open

/-! ### What a dialogue shows -/

/-- Where the last query of a dialogue stands. -/
lemma Resolution.last_asked (h : Resolution name port kinds trace opened) :
    (.accepted ∉ trace ∧ kindsAsked trace = []) ∨ (kinds = [] ∧ kindsAsked trace = []) ∨
      ∃ tried kind query more rest,
        trace = .accepted :: (barrenEntries name tried ++ .asked name kind query :: more) ∧
          kinds = tried.map Barren.kind ++ kind :: rest ∧ kindsAsked more = [] := by
  cases h with
  | unseen => exact .inl ⟨by simp, rfl⟩
  | turnedAway => exact .inl ⟨by simp, rfl⟩
  | unresolvable error herror hkinds => exact .inr (.inl ⟨hkinds, rfl⟩)
  | waiting tried kind query rest hkinds =>
    exact .inr (.inr ⟨tried, kind, .ok query, [], rest, rfl, hkinds, rfl⟩)
  | givenUp tried kind query rest error hkinds =>
    exact .inr (.inr ⟨tried, kind, query, [.refused error], rest, rfl, hkinds, rfl⟩)
  | exhausted tried hkinds hkinds' =>
    rcases tried.eq_nil_or_concat with rfl | ⟨tried, b, rfl⟩
    · exact absurd hkinds hkinds'
    · rw [List.concat_eq_append] at hkinds ⊢
      refine .inr (.inr ⟨tried, b.kind, .ok b.query, [.ended b.query b.result,
        .refused queryFailed], [], ?_, by simpa using hkinds, rfl⟩)
      rw [barrenEntries_append, List.append_assoc]
      rfl
  | unstartable tried kind text hkinds =>
    exact .inr (.inr ⟨tried, kind, .error text, [.refused queryFailed], [], rfl, hkinds, rfl⟩)
  | resolved tried kind query result rest ip refusals hkinds =>
    refine .inr (.inr ⟨tried, kind, .ok query, [.ended query result, .dialed ip port] ++
      refusals.map .refused, rest, by simp, hkinds, ?_⟩)
    simp [kindsAsked, List.filterMap_cons, DnsEntry.kind?, List.filterMap_map, Function.comp_def]

/-- A dialogue that ends with a query leaves it open. -/
lemma Resolution.open_of_last (h : Resolution name port kinds trace opened) {kind : DnsQueryType}
    {query : QueryHandle} (hlast : trace.getLast? = some (.asked name kind (.ok query))) :
    ∃ rest, opened = some (query, rest) := by
  have hend : ∀ {entries : List DnsEntry} {entry : DnsEntry},
      (DnsEntry.accepted :: (entries ++ [entry])).getLast? = some entry := by
    intro entries entry
    rw [← List.cons_append, List.getLast?_concat]
  cases h with
  | unseen | turnedAway | unresolvable => simp at hlast
  | waiting tried kind' query' rest =>
    rw [hend] at hlast
    obtain ⟨-, rfl⟩ : kind' = kind ∧ query' = query := by simpa using hlast
    exact ⟨rest, rfl⟩
  | givenUp tried kind' query' rest error =>
    rw [List.append_cons, hend] at hlast
    simp at hlast
  | exhausted tried =>
    rw [hend] at hlast
    simp at hlast
  | unstartable tried kind' text =>
    rw [List.append_cons, hend] at hlast
    simp at hlast
  | resolved tried kind' query' result rest ip refusals =>
    rcases refusals.eq_nil_or_concat with rfl | ⟨refusals, error, rfl⟩
    · rw [List.map_nil, List.append_nil, List.append_cons, List.append_cons, hend] at hlast
      simp at hlast
    · rw [List.concat_eq_append, List.map_append, List.map_singleton, ← List.append_assoc,
        hend] at hlast
      simp at hlast

/-- The record types are asked for in order. -/
lemma Resolution.kindsAsked_prefix (h : Resolution name port kinds trace opened) :
    kindsAsked trace <+: kinds ∧ (.accepted ∈ trace → kinds ≠ [] → kindsAsked trace ≠ []) := by
  rcases h.last_asked with ⟨haccepted, hnone⟩ | ⟨rfl, hnone⟩ |
    ⟨tried, kind, query, more, rest, rfl, rfl, hmore⟩
  · exact ⟨by simp [hnone], fun h => absurd h haccepted⟩
  · exact ⟨by simp [hnone], fun _ h => absurd rfl h⟩
  · have hasked : kindsAsked (.accepted :: (barrenEntries name tried ++
        .asked name kind query :: more)) = tried.map Barren.kind ++ [kind] := by
      have hmore' : more.filterMap DnsEntry.kind? = [] := hmore
      simp [kindsAsked, List.filterMap_cons, DnsEntry.kind?, hmore']
    rw [hasked]
    exact ⟨⟨rest, by simp⟩, by simp⟩

/-- Only the requested name is asked for. -/
lemma Resolution.name_asked (h : Resolution name port kinds trace opened) {name' : String}
    {kind : DnsQueryType} {query : Except String QueryHandle}
    (hmem : .asked name' kind query ∈ trace) : name' = name := by
  have hno : ∀ entries : List DnsEntry, kindsAsked entries = [] →
      .asked name' kind query ∉ entries := by
    intro entries hnone hmem
    exact absurd (List.filterMap_eq_nil_iff.mp hnone _ hmem) (by simp [DnsEntry.kind?])
  rcases h.last_asked with ⟨-, hnone⟩ | ⟨-, hnone⟩ |
    ⟨tried, kind', query', more, rest, rfl, -, hmore⟩
  · exact absurd hmem (hno trace hnone)
  · exact absurd hmem (hno trace hnone)
  · simp only [List.mem_cons, List.mem_append, mem_barrenEntries, reduceCtorEq, false_or] at hmem
    rcases hmem with ⟨b, -, hb | hb⟩ | hlast | hmem
    · exact (DnsEntry.asked.inj hb).1
    · exact absurd hb (by simp)
    · exact (DnsEntry.asked.inj hlast).1
    · exact absurd hmem (hno more hmore)

/-- With two record types, the second is asked for after the first query ended without an
address. -/
lemma Resolution.second_asked {first second : DnsQueryType}
    (h : Resolution name port [first, second] trace opened) (hne : first ≠ second)
    (hmem : second ∈ kindsAsked trace) :
    ∃ query result query' post, result.addresses = [] ∧
      trace = .accepted :: .asked name first (.ok query) :: .ended query result ::
        .asked name second query' :: post := by
  rcases h.last_asked with ⟨-, hnone⟩ | ⟨-, hnone⟩ |
    ⟨tried, kind, query, more, rest, rfl, hkinds, hmore⟩
  · simp [hnone] at hmem
  · simp [hnone] at hmem
  rcases tried with _ | ⟨b, _ | ⟨b', tried⟩⟩
  · obtain ⟨rfl, -⟩ : first = kind ∧ _ := by simpa using hkinds
    have hmore' : more.filterMap DnsEntry.kind? = [] := hmore
    have hsecond : second = first := by
      simpa [kindsAsked, barrenEntries, List.filterMap_cons, DnsEntry.kind?, hmore', eq_comm]
        using hmem
    exact absurd hsecond.symm hne
  · obtain ⟨rfl, rfl, -⟩ : first = b.kind ∧ second = kind ∧ _ := by simpa using hkinds
    exact ⟨b.query, b.result, query, more, b.barren, rfl⟩
  · simp at hkinds

/-- The first address that turned up is dialled, and no other. -/
lemma Resolution.dialed_eq (h : Resolution name port kinds trace opened) :
    dialedIn trace = (addressesIn trace).head?.toList.map (·, port) := by
  cases h with
  | resolved tried kind query result rest ip refusals _ haddress =>
    simp [dialedIn, addressesIn, resultsOf, List.filterMap_cons, DnsEntry.destination?,
      DnsEntry.result?, List.filterMap_map, Function.comp_def, haddress]
  | _ =>
    simp [dialedIn, addressesIn, resultsOf, List.filterMap_cons, DnsEntry.destination?,
      DnsEntry.result?]

/-- A query of this type ended without an address, or could not be started. -/
def Fruitless (name : String) (trace : List DnsEntry) (kind : DnsQueryType) : Prop :=
  (∃ text, .asked name kind (.error text) ∈ trace) ∨
    ∃ pre query result post, trace = pre ++ .asked name kind (.ok query) :: .ended query result ::
      post ∧ result.addresses = []

lemma fruitless_of_tried {tried : List Barren} {b : Barren} (hb : b ∈ tried)
    (more : List DnsEntry) :
    Fruitless name (.accepted :: (barrenEntries name tried ++ more)) b.kind := by
  obtain ⟨before, after, rfl⟩ := List.append_of_mem hb
  refine .inr ⟨.accepted :: barrenEntries name before, b.query, b.result,
    barrenEntries name after ++ more, ?_, b.barren⟩
  rw [barrenEntries_append]
  simp [barrenEntries]

/-- A request fails only when every query it may make was fruitless. -/
lemma Resolution.fruitless (h : Resolution name port kinds trace opened)
    (hfailed : .refused queryFailed ∈ trace) :
    kinds ≠ [] ∧ ∀ kind ∈ kinds, Fruitless name trace kind := by
  have htried : ∀ tried : List Barren, .refused queryFailed ∉ barrenEntries name tried := by
    simp [mem_barrenEntries]
  cases h with
  | unseen => simp at hfailed
  | turnedAway error herror | unresolvable error herror =>
    exact absurd (by simpa using hfailed) (Ne.symm herror)
  | waiting tried => simp [htried] at hfailed
  | givenUp tried kind query rest error _ herror =>
    exact absurd (by simpa [htried] using hfailed) (Ne.symm herror)
  | resolved tried kind query result rest ip refusals _ _ hrefusals =>
    have hmem : queryFailed ∈ refusals := by simpa [htried] using hfailed
    exact absurd rfl (hrefusals _ hmem)
  | exhausted tried hkinds hkinds' =>
    refine ⟨hkinds', fun kind hkind => ?_⟩
    rw [hkinds] at hkind
    obtain ⟨b, hb, rfl⟩ := List.mem_map.mp hkind
    exact fruitless_of_tried hb _
  | unstartable tried kind text hkinds =>
    refine ⟨by simp [hkinds], fun kind' hkind => ?_⟩
    rw [hkinds, List.mem_append, List.mem_singleton] at hkind
    rcases hkind with hkind | rfl
    · obtain ⟨b, hb, rfl⟩ := List.mem_map.mp hkind
      exact fruitless_of_tried hb _
    · exact .inl ⟨text, by simp⟩

end Grammar

/-! ## The operations follow the grammar -/

/-- The record types the families of a tunnel allow, IPv4 first. -/
def Settings.recordTypes (s : Settings) : List DnsQueryType :=
  match s.ipv4, s.ipv6 with
  | some _, some _ => [.a, .aaaa]
  | some _, none => [.a]
  | none, _ => [.aaaa]

/-- The record types a request may ask for. -/
def Settings.lookupTypes (s : Settings) : List DnsQueryType :=
  if s.dns.isEmpty then [] else s.recordTypes

lemma recordTypes_eq (s : Settings) :
    s.recordTypes = Machine.queryType s :: (Machine.fallbackType s).toList := by
  unfold Settings.recordTypes Machine.queryType Machine.fallbackType
  rcases s.ipv4 with _ | ip <;> rcases s.ipv6 with _ | ip' <;> rfl

lemma dnsTrace_append (r : Reply) (log more : List (Event B)) :
    dnsTrace r (log ++ more) = dnsTrace r log ++ dnsTrace r more :=
  List.filterMap_append

lemma dnsTrace_eq_nil {r : Reply} {log : List (Event B)} (h : ∀ e ∈ log, e.dnsEntry r = none) :
    dnsTrace r log = [] :=
  List.filterMap_eq_nil_iff.mpr h

namespace Machine

variable {C : NetContract B} {m m' : Machine B} {now : Instant} {name : String} {port : ℕ}
  {kinds : List DnsQueryType} {reply : Reply}

lemma dial_log {ip : IpAddr} {deadline : Instant} (h : m.dial ip port reply deadline = .ok m') :
    m'.log = m.log ∨
      ∃ text delivered, m'.log = m.log ++ [.sent reply (.error ⟨.other, text⟩) delivered] := by
  obtain ⟨localPort, nextPort, -, ⟨text, rfl⟩ | ⟨socket, a, -, rfl⟩⟩ := dial_eq_ok h
  · exact .inr ⟨text, _, rfl⟩
  · exact .inl rfl

/-- What `connect_ip` writes. -/
lemma connectIp_log {ip : IpAddr} {deadline : Instant}
    (h : m.connectIp ip port reply deadline = .ok m') :
    ∃ refusals : List (IoError × Bool), (∀ e ∈ refusals, e.1 ≠ queryFailed) ∧
      m'.log = m.log ++ .connectIp reply ip port ::
        refusals.map fun e => .sent reply (.error e.1) e.2 := by
  have hrefuse : ∀ (kind : ErrorKind) (message : String), kind ≠ .notFound →
      (m.note (.connectIp reply ip port)).refuse reply kind message = m' →
      ∃ refusals : List (IoError × Bool), (∀ e ∈ refusals, e.1 ≠ queryFailed) ∧
        m'.log = m.log ++ .connectIp reply ip port ::
          refusals.map fun e => .sent reply (.error e.1) e.2 := by
    rintro kind message hkind rfl
    obtain ⟨delivered, hlog⟩ :=
      refuse_log (m.note (.connectIp reply ip port)) reply kind message
    refine ⟨[(⟨kind, message⟩, delivered)], by simp [queryFailed, hkind], ?_⟩
    rw [hlog, note, List.append_assoc]
    rfl
  unfold connectIp at h
  simp only at h
  split_ifs at h
  · exact hrefuse _ _ (by decide) (Except.ok.inj h)
  · exact hrefuse _ _ (by decide) (Except.ok.inj h)
  · rcases dial_log h with hlog | ⟨text, delivered, hlog⟩
    · exact ⟨[], by simp, hlog⟩
    · exact ⟨[(⟨.other, text⟩, delivered)], by simp [queryFailed],
        hlog.trans (List.append_assoc ..)⟩

/-- The lookups of a request are the one whose query its dialogue leaves open. -/
structure Awaits (name : String) (port : ℕ) (reply : Reply)
    (opened : Option (QueryHandle × List DnsQueryType)) (lookups : List Lookup) : Prop where
  belongs : ∀ l ∈ lookups, l.reply = reply → l.name = name ∧ l.port = port ∧
    opened = some (l.query, l.fallback.toList)
  held : ∀ query rest, opened = some (query, rest) →
    ∃ l ∈ lookups, l.reply = reply ∧ l.query = query

lemma Awaits.nil : Awaits name port reply none [] := ⟨by simp, by simp⟩

/-- Its own lookup. -/
lemma Awaits.own (lookup : Lookup) : Awaits lookup.name lookup.port lookup.reply
    (some (lookup.query, lookup.fallback.toList)) [lookup] where
  belongs := by
    intro l hl _
    rw [List.mem_singleton.mp hl]
    exact ⟨rfl, rfl, rfl⟩
  held := by
    intro query rest hopen
    exact ⟨lookup, by simp, rfl, (Prod.mk.inj (Option.some.inj hopen)).1⟩

/-- Only the lookups of the request matter. -/
lemma Awaits.congr {opened : Option (QueryHandle × List DnsQueryType)}
    {lookups lookups' : List Lookup} (h : Awaits name port reply opened lookups)
    (hsame : ∀ l, l.reply = reply → (l ∈ lookups' ↔ l ∈ lookups)) :
    Awaits name port reply opened lookups' where
  belongs := fun l hl hreply => h.belongs l ((hsame l hreply).mp hl) hreply
  held := by
    intro query rest hopen
    obtain ⟨l, hl, hreply, hquery⟩ := h.held query rest hopen
    exact ⟨l, (hsame l hreply).mpr hl, hreply, hquery⟩

/-- Beside lookups of other requests. -/
lemma Awaits.append {opened : Option (QueryHandle × List DnsQueryType)}
    {lookups others : List Lookup} (h : Awaits name port reply opened lookups)
    (hothers : ∀ l ∈ others, l.reply ≠ reply) :
    Awaits name port reply opened (lookups ++ others) := by
  refine h.congr fun l hreply => ?_
  rw [List.mem_append, or_iff_left]
  exact fun hl => hothers l hl hreply

lemma getQueryResult_log {query : QueryHandle} {result : QueryResult}
    (h : (m.isClosed reply).2.getQueryResult reply query = .ok (result, m')) :
    ∃ closed, m'.log = m.log ++ [.observed reply closed, .queryResult reply query result] := by
  obtain ⟨net, -, rfl⟩ := getQueryResult_eq_ok h
  exact ⟨_, List.append_assoc ..⟩

lemma startQuery_log {kind : DnsQueryType} {handle : Except String QueryHandle}
    (h : m.startQuery reply name kind = .ok (handle, m')) :
    m'.log = m.log ++ [.query reply name kind handle] := by
  obtain ⟨-, rfl⟩ := startQuery_eq_ok h
  rfl

lemma dnsTrace_refuse (m : Machine B) (reply : Reply) (kind : ErrorKind) (message : String) :
    dnsTrace reply (m.refuse reply kind message).log =
      dnsTrace reply m.log ++ [.refused ⟨kind, message⟩] := by
  obtain ⟨delivered, hlog⟩ := refuse_log m reply kind message
  rw [hlog, dnsTrace_append]
  simp [dnsTrace, Event.dnsEntry]

/-- **A visit of a lookup continues its dialogue.** -/
lemma visitLookup_resolution {lookup : Lookup} {w : Verdict Lookup}
    (h : visitLookup now m lookup = .ok (m', w))
    (hopen : Resolution lookup.name lookup.port kinds (dnsTrace lookup.reply m.log)
      (some (lookup.query, lookup.fallback.toList))) :
    ∃ opened, Resolution lookup.name lookup.port kinds (dnsTrace lookup.reply m'.log) opened ∧
      Awaits lookup.name lookup.port lookup.reply opened w.rest := by
  have hended : ∀ {s : Machine B} {result : QueryResult},
      (m.isClosed lookup.reply).2.getQueryResult lookup.reply lookup.query = .ok (result, s) →
      result ≠ .pending → dnsTrace lookup.reply s.log =
        dnsTrace lookup.reply m.log ++ [.ended lookup.query result] := by
    intro s result hresult hne
    obtain ⟨closed, hs⟩ := getQueryResult_log hresult
    rw [hs, dnsTrace_append]
    simp [dnsTrace, List.filterMap_cons, Event.dnsEntry, hne]
  cases visitLookup_eq_ok h with
  | expired s hlate hcancel =>
    obtain ⟨net, -, rfl⟩ := cancelQuery_eq_ok hcancel
    refine ⟨none, ?_, .nil⟩
    have hobserved : dnsTrace lookup.reply ((m.isClosed lookup.reply).2.setNet net).log =
        dnsTrace lookup.reply m.log := (dnsTrace_append _ _ [_]).trans (List.append_nil _)
    rw [dnsTrace_refuse, hobserved]
    exact hopen.giveUp (by decide)
  | pending s hresult =>
    obtain ⟨closed, hs⟩ := getQueryResult_log hresult
    have hkept : dnsTrace lookup.reply m'.log = dnsTrace lookup.reply m.log := by
      rw [hs, dnsTrace_append]
      simp [dnsTrace, Event.dnsEntry]
    exact ⟨_, hkept ▸ hopen, .own lookup⟩
  | resolved s _ result ip hresult hne haddress hdial =>
    obtain ⟨refusals, hrefusals, hlog⟩ := connectIp_log hdial
    refine ⟨none, ?_, .nil⟩
    rw [hlog, dnsTrace_append, hended hresult hne, List.append_assoc]
    simpa [dnsTrace, Event.dnsEntry, List.filterMap_cons, List.filterMap_map, Function.comp_def]
      using hopen.resolve (firstAddress_eq result ▸ haddress) (refusals.map Prod.fst)
        (List.forall_mem_map.mpr hrefusals)
  | exhausted s result hresult hne hnone hfallback =>
    rw [hfallback] at hopen
    refine ⟨none, ?_, .nil⟩
    rw [dnsTrace_refuse, hended hresult hne, List.append_assoc]
    exact hopen.exhaust (firstAddress_eq_none.mp hnone)
  | again s _ result kind query hresult hne hnone hfallback hquery =>
    rw [hfallback] at hopen
    have hasked : dnsTrace lookup.reply m'.log = dnsTrace lookup.reply m.log ++
        [.ended lookup.query result, .asked lookup.name kind (.ok query)] := by
      rw [startQuery_log hquery, dnsTrace_append, hended hresult hne, List.append_assoc]
      simp [dnsTrace, Event.dnsEntry]
    exact ⟨_, hasked ▸ hopen.fallBack (firstAddress_eq_none.mp hnone) query,
      .own { lookup with query, fallback := none }⟩
  | unstartable s s' result kind text hresult hne hnone hfallback hquery =>
    rw [hfallback] at hopen
    have hasked : dnsTrace lookup.reply s'.log = dnsTrace lookup.reply m.log ++
        [.ended lookup.query result, .asked lookup.name kind (.error text)] := by
      rw [startQuery_log hquery, dnsTrace_append, hended hresult hne, List.append_assoc]
      simp [dnsTrace, Event.dnsEntry]
    refine ⟨none, ?_, .nil⟩
    rw [dnsTrace_refuse, hasked, List.append_assoc]
    exact hopen.cannotStart (firstAddress_eq_none.mp hnone) text

/-- **A new request begins a dialogue.** -/
lemma connect_resolution (h : m.connect (.domain name) port reply = .ok m')
    (hnone : dnsTrace reply m.log = []) (hlookups : ∀ l ∈ m.engine.lookups, l.reply ≠ reply) :
    ∃ opened, Resolution name port m.engine.settings.lookupTypes (dnsTrace reply m'.log) opened ∧
      Awaits name port reply opened m'.engine.lookups := by
  have hfree : Awaits name port reply none m.engine.lookups := Awaits.nil.append hlookups
  have hobserved : dnsTrace reply (m.isClosed reply).2.log = [] := by
    rw [show (m.isClosed reply).2.log = m.log ++ [.observed reply (m.isClosed reply).1] from rfl,
      dnsTrace_append, hnone]
    simp [dnsTrace, Event.dnsEntry]
  rcases connect_eq_ok h with rfl | rfl | ⟨deadline, ⟨ip, hip, -⟩ | ⟨name', hname, hlook⟩⟩
  · refine ⟨none, ?_, hfree⟩
    rw [note, dnsTrace_append, hobserved]
    exact .unseen
  · refine ⟨none, ?_, hfree⟩
    rw [dnsTrace_refuse, hobserved]
    exact .turnedAway ⟨.other, "connection limit reached"⟩ (by decide)
  · cases hip
  obtain rfl : name = name' := by simpa using hname
  have haccepted : dnsTrace reply (m.accepting reply).log = [.accepted] := by
    obtain ⟨closed, deadline, hlog⟩ := accepting_log m reply
    rw [hlog, dnsTrace_append, hnone]
    simp [dnsTrace, List.filterMap_cons, Event.dnsEntry]
  rcases lookUp_eq_ok hlook with ⟨hempty, rfl⟩ | ⟨hempty, handle, s, hquery, hcases⟩
  · refine ⟨none, ?_, hfree⟩
    rw [dnsTrace_refuse, haccepted]
    exact .unresolvable ⟨.notFound, "VPN supplied no DNS; use --dns or an IP address"⟩ (by decide)
      (if_pos hempty)
  rw [accepting_engine] at hempty hquery hcases
  have hkinds : m.engine.settings.lookupTypes =
      queryType m.engine.settings :: (fallbackType m.engine.settings).toList := by
    rw [Settings.lookupTypes, if_neg hempty, recordTypes_eq]
  have hlookups' : s.engine.lookups = m.engine.lookups := by
    rw [startQuery_lookups hquery, accepting_engine]
  have hasked : dnsTrace reply s.log =
      [.accepted, .asked name (queryType m.engine.settings) handle] := by
    rw [startQuery_log hquery, dnsTrace_append, haccepted]
    simp only [dnsTrace, List.filterMap_cons, Event.dnsEntry, if_true, List.filterMap_nil]
    rfl
  rcases hcases with ⟨query, rfl, rfl⟩ | ⟨text, rfl, rfl⟩
  · refine ⟨some (query, (fallbackType m.engine.settings).toList), ?_, ?_⟩
    · show Resolution name port _ (dnsTrace reply s.log) _
      rw [hasked]
      exact .waiting [] _ query _ hkinds
    · rw [pushLookup, hlookups']
      have hown := Awaits.own ⟨query, name, fallbackType m.engine.settings, port, reply, deadline⟩
      exact (hown.append hlookups).congr fun l _ => (List.perm_append_singleton _ _).mem_iff
  · refine ⟨none, ?_, by rw [refuse_engine, hlookups']; exact hfree⟩
    rw [dnsTrace_refuse, hasked]
    exact .givenUp [] _ (.error text) _ ⟨.invalidInput, text⟩ hkinds (by simp [queryFailed])

/-! ## What the operations leave alone -/

lemma Dialed.other {ip : IpAddr} {deadline : Instant} (h : Dialed C m ip port reply deadline m') :
    (∀ r, reply ≠ r → dnsTrace r m'.log = dnsTrace r m.log) ∧
      m'.engine.lookups = m.engine.lookups ∧ m'.engine.settings = m.engine.settings := by
  cases h with
  | refused _ _ _ _ _ _ hengine hlog | opened _ _ _ _ _ _ _ _ _ _ _ _ _ hengine hlog =>
    refine ⟨fun r hne => ?_, by rw [hengine], by rw [hengine]⟩
    rw [hlog, dnsTrace_append]
    simp [dnsTrace, Event.dnsEntry, hne]

/-- A visit of a lookup leaves the dialogues of other requests alone, and stays with its request. -/
lemma LookupVisit.other {lookup : Lookup} {w : Verdict Lookup}
    (h : LookupVisit C now m lookup m' w) :
    (∀ r, lookup.reply ≠ r → dnsTrace r m'.log = dnsTrace r m.log) ∧
      (∀ l ∈ w.rest, l.reply = lookup.reply) ∧ m'.engine.settings = m.engine.settings := by
  cases h with
  | expired net closed error delivered _ hengine hlog =>
    refine ⟨fun r hne => ?_, by simp [Verdict.rest], by rw [hengine]⟩
    rw [hlog, dnsTrace_append]
    simp [dnsTrace, Event.dnsEntry, hne]
  | pending net _ _ hengine hlog =>
    refine ⟨fun r hne => ?_, by simp [Verdict.rest], by rw [hengine]⟩
    rw [hlog, dnsTrace_append]
    simp [dnsTrace, Event.dnsEntry]
  | resolved m₁ net result ip _ _ hengine hlog hdial =>
    obtain ⟨htrace, -, hsettings⟩ := hdial.other
    refine ⟨fun r hne => ?_, by simp [Verdict.rest], by rw [hsettings, hengine]⟩
    rw [htrace r hne, hlog, dnsTrace_append]
    simp [dnsTrace, Event.dnsEntry, hne]
  | failed net result events error delivered _ _ hengine hevents hlog =>
    refine ⟨fun r hne => ?_, by simp [Verdict.rest], by rw [hengine]⟩
    rw [hlog, dnsTrace_append, dnsTrace_append, dnsTrace_append]
    rcases hevents with rfl | ⟨kind, text, rfl⟩ <;> simp [dnsTrace, Event.dnsEntry, hne]
  | again freed net result kind query _ _ _ _ _ hengine hlog =>
    refine ⟨fun r hne => ?_, by simp [Verdict.rest], by rw [hengine]⟩
    rw [hlog, dnsTrace_append]
    simp [dnsTrace, Event.dnsEntry, hne]

lemma FlowVisit.other {flow : Flow B} {w : Verdict (Flow B)} (h : FlowVisit C now m flow m' w) :
    (∀ r, dnsTrace r m'.log = dnsTrace r m.log) ∧ m'.engine.settings = m.engine.settings := by
  have hquiet : ∀ (r : Reply) (calls : List (FlowCall B)) (replies : List Reply),
      dnsTrace r (calls.map (Event.flow flow.request) ++
        replies.map (.dropped · .receiverClosed)) = [] := by
    intro r calls replies
    refine dnsTrace_eq_nil fun e he => ?_
    rcases List.mem_append.mp he with he | he <;> obtain ⟨_, -, rfl⟩ := List.mem_map.mp he <;> rfl
  cases h with
  | kept _ p _ _ _ hengine hlog =>
    refine ⟨fun r => ?_, by rw [hengine]⟩
    have hnone := hquiet r p.calls []
    rw [List.map_nil, List.append_nil] at hnone
    rw [hlog, dnsTrace_append, hnone, List.append_nil]
  | dropped _ p _ _ _ hengine hlog =>
    refine ⟨fun r => ?_, by rw [hengine]⟩
    rw [hlog, List.append_assoc, dnsTrace_append, hquiet, List.append_nil]

lemma Serviced.other (h : Serviced C m m') :
    (∀ r, dnsTrace r m'.log = dnsTrace r m.log) ∧ m'.engine.settings = m.engine.settings := by
  obtain ⟨net, device, events, hengine, -, hlog, hevents, -⟩ := h
  refine ⟨fun r => ?_, by rw [hengine]⟩
  have hnone : dnsTrace r events = [] := by
    refine dnsTrace_eq_nil fun e he => ?_
    have he' := hevents e he
    cases e with
    | transmitted packet taken => rfl
    | _ => simp [Event.isTransmitted] at he'
  rw [hlog, dnsTrace_append, hnone, List.append_nil]

/-- A request leaves the dialogues of the others alone. -/
lemma Requested.other {target : Target} (h : Requested C m target port reply m') :
    (∀ r, reply ≠ r → dnsTrace r m'.log = dnsTrace r m.log) ∧
      (∀ l, l.reply ≠ reply → (l ∈ m'.engine.lookups ↔ l ∈ m.engine.lookups)) ∧
      m'.engine.settings = m.engine.settings := by
  cases h with
  | gone hengine hlog | full _ _ hengine hlog =>
    refine ⟨fun r hne => ?_, by simp [hengine], by rw [hengine]⟩
    rw [hlog, dnsTrace_append]
    simp [dnsTrace, Event.dnsEntry, hne]
  | dialed m₁ deadline ip _ _ hengine hlog hdial =>
    obtain ⟨htrace, hlookups, hsettings⟩ := hdial.other
    rw [hengine] at hlookups hsettings
    refine ⟨fun r hne => ?_, by simp [hlookups], hsettings⟩
    rw [htrace r hne, hlog, dnsTrace_append]
    simp [dnsTrace, Event.dnsEntry, hne]
  | refused net deadline events error delivered _ _ hengine hevents hlog =>
    refine ⟨fun r hne => ?_, by simp [hengine], by rw [hengine]⟩
    rw [hlog, dnsTrace_append, dnsTrace_append, dnsTrace_append]
    rcases hevents with rfl | ⟨name, kind, text, rfl⟩ <;> simp [dnsTrace, Event.dnsEntry, hne]
  | lookedUp net lookup kind _ _ _ hreply hengine hlog =>
    refine ⟨fun r hne => ?_, fun l hl => ?_, by rw [hengine]⟩
    · rw [hlog, dnsTrace_append]
      simp [dnsTrace, Event.dnsEntry, hne]
    · have hne : l ≠ lookup := by
        rintro rfl
        exact hl hreply
      rw [hengine, List.mem_append, List.mem_singleton, or_iff_left hne]

end Machine

end Ovpnlane
