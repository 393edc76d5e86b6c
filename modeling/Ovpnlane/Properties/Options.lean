import Ovpnlane.Construction.Netstack.Reference
import Ovpnlane.Construction.Netstack.Worker
import Ovpnlane.Framework.Fallible

/-!
# From the pushed options to an engine

`Settings::parse` validates what the server pushed, on the thread of OpenVPN Core; `Engine::new`
consumes the result on the thread of the worker, where a failed `expect` or an address smoltcp
refuses is the end of the thread.  This module relates the two.

* `Settings.Accepted`: what an accepted settings value is known to satisfy (`validate_eq_ok`).
* `Settings.applyOptions_ipv4`: where its IPv4 address comes from: the last `ifconfig` line.
* `Engine.new_isOk_iff`: given the address and route tables of the interface, the constructor
  succeeds exactly on unicast addresses.

The validator asks for an address that is neither unspecified nor multicast, the interface for a
unicast one.  For IPv6 the two agree.  For IPv4 they differ in the limited broadcast address, and
in that address alone (`engine_built_iff`).
-/

namespace Ovpnlane

open Text

namespace Settings

/-! ## What the checks establish -/

/-- What `Settings::parse` has checked of a value it returns. -/
structure Accepted (s : Settings) : Prop where
  assigned : s.assigned ≠ []
  mtu : 576 ≤ s.mtu ∧ s.mtu ≤ 9000
  mtu_ipv6 : s.ipv6.isSome = true → 1280 ≤ s.mtu
  address : ∀ ip ∈ s.assigned, ip.isUnspecified = false ∧ ip.isMulticast = false
  resolver : ∀ ip ∈ s.dns,
    ip.isUnspecified = false ∧ ip.isMulticast = false ∧ s.supportsFamily ip = true

lemma mem_assigned {s : Settings} {ip : IpAddr} : ip ∈ s.assigned ↔
    (∃ a, s.ipv4 = some a ∧ .v4 a = ip) ∨ ∃ a, s.ipv6 = some a ∧ .v6 a = ip := by
  simp [assigned, Option.mem_toList]

lemma reachableDns_spec {s : Settings} {ip : IpAddr} (h : ip ∈ s.reachableDns) :
    ip ∈ s.dns ∧ s.supportsFamily ip = true := by
  obtain ⟨hmem, hfamily⟩ := List.mem_filter.mp ((List.destutter_sublist _ _).subset h)
  refine ⟨hmem, ?_⟩
  cases ip <;> simpa [IpAddr.isIpv4, supportsFamily] using hfamily

/-- The inversion of the checks after the option loop. -/
lemma validate_eq_ok {s s' : Settings} (h : s.validate = .ok s') :
    s' = { s with dns := s.reachableDns } ∧ s'.Accepted := by
  unfold validate at h
  split_ifs at h with hassigned hmtu hmtu₆ haddress hdns
  obtain rfl := Except.ok.inj h
  have hclear : ∀ {l : List IpAddr}, (l.any fun ip => ip.isUnspecified || ip.isMulticast) ≠ true →
      ∀ ip ∈ l, ip.isUnspecified = false ∧ ip.isMulticast = false := by
    intro l hl ip hip
    simpa [not_or] using fun hbad => hl (List.any_eq_true.mpr ⟨ip, hip, hbad⟩)
  refine ⟨rfl, ?_, ?_, fun hsome => ?_, hclear haddress, fun ip hip => ?_⟩
  · intro hnil
    have hnone : s.ipv4 = none ∧ s.ipv6 = none := by simpa [assigned] using hnil
    simp [hnone.1, hnone.2] at hassigned
  · simpa using hmtu
  · rw [hsome] at hmtu₆
    simpa using hmtu₆
  · obtain ⟨hmem, hfamily⟩ := reachableDns_spec hip
    exact ⟨(hclear hdns ip hmem).1, (hclear hdns ip hmem).2, hfamily⟩

/-! ## The assigned IPv4 address -/

/-- The address an `ifconfig` line assigns. -/
def ifconfigAddress (line : String) : Option Ipv4Addr :=
  match splitWhitespace line with
  | ["ifconfig", address, _] => Ipv4Addr.parse address
  | _ => none

/-- The address of the last `ifconfig` line. -/
def lastIfconfig (ls : List String) : Option Ipv4Addr := ls.reverse.findSome? ifconfigAddress

/-- One line: only an `ifconfig` line changes the IPv4 address. -/
lemma applyOption_ipv4 {s s' : Settings} {line : String} (h : applyOption s line = .ok s') :
    s'.ipv4 = (ifconfigAddress line).or s.ipv4 := by
  unfold applyOption at h
  split at h
  case h_1 address _ hfields =>
    obtain ⟨ip, hip, rfl⟩ := except_map_eq_ok.mp h
    simp only [ifconfigAddress, hfields, context_eq_ok.mp hip]
    rfl
  case h_7 hother _ _ _ _ _ =>
    obtain rfl := Except.ok.inj h
    unfold ifconfigAddress
    split
    · exact absurd ‹_› (hother _ _)
    · rfl
  all_goals
    rename_i hfields
    obtain ⟨_, -, rfl⟩ := except_map_eq_ok.mp h
    simp [ifconfigAddress, hfields]

/-- The option loop: the last `ifconfig` line decides. -/
lemma applyOptions_ipv4 {s s' : Settings} {ls : List String} (h : applyOptions s ls = .ok s') :
    s'.ipv4 = (lastIfconfig ls).or s.ipv4 := by
  induction ls generalizing s with
  | nil =>
    obtain rfl := Except.ok.inj h
    rfl
  | cons line ls ih =>
    obtain ⟨s₁, hline, hrest⟩ := bind_eq_ok.mp h
    rw [ih hrest, applyOption_ipv4 hline, lastIfconfig, lastIfconfig, List.reverse_cons,
      List.findSome?_append, Option.or_assoc]
    simp

/-- **What `Settings::parse` returns**: accepted settings with the IPv4 address of the last
`ifconfig` line. -/
theorem parse_eq_ok {options : String} {mtu : ℕ} {dnsOverride : List IpAddr} {s : Settings}
    (h : parse options mtu dnsOverride = .ok s) :
    s.Accepted ∧ s.ipv4 = lastIfconfig (lines options) := by
  unfold parse at h
  rcases hoptions : applyOptions ⟨none, none, [], mtu⟩ (lines options) with text | result
  · rw [hoptions] at h
    simp at h
  · rw [hoptions] at h
    obtain ⟨rfl, haccepted⟩ := validate_eq_ok h
    refine ⟨haccepted, ?_⟩
    have hipv4 := applyOptions_ipv4 hoptions
    rw [Option.or_none] at hipv4
    split_ifs <;> exact hipv4

end Settings

/-! ## The constructor -/

namespace Engine

variable {B : Backend} {settings : Settings} {sink : SinkId}
  {connectTimeout idleTimeout maxConnections clock nextPort : ℕ}

/-- The entries of the address table. -/
def addressTable (settings : Settings) : List IpCidr :=
  (settings.ipv4.map fun ip => ⟨.v4 ip, 32⟩).toList ++
    (settings.ipv6.map fun ip => ⟨.v6 ip, 128⟩).toList

lemma addressTable_address (settings : Settings) :
    (addressTable settings).map (·.address) = settings.assigned := by
  rcases settings with ⟨_ | ip, _ | ip', dns, mtu⟩ <;> rfl

/-- Two slots are enough for one address a family. -/
lemma assignAddresses_eq (C : InterfaceContract B) :
    assignAddresses B settings [] = .ok (addressTable settings) := by
  rcases settings with ⟨_ | ip, _ | ip', dns, mtu⟩ <;>
    simp [assignAddresses, pushAddress, addressTable, C.ipAddrSlots]

/-- A route fits while the table has a free slot. -/
lemma addRoute_ok (C : InterfaceContract B) {net : B.Net} (address : Option IpAddr)
    (text : String) (h : C.routes net < 2) :
    ∃ net', addRoute net address text = .ok net' ∧ C.routes net' ≤ C.routes net + 1 := by
  rcases address with _ | ip
  · exact ⟨net, rfl, Nat.le_succ _⟩
  · obtain ⟨net', hnet⟩ := Option.isSome_iff_exists.mp (C.addDefaultRoute_isSome net ip h)
    exact ⟨net', by simp [addRoute, hnet], C.routes_addDefaultRoute _ _ _ hnet⟩

/-- **The constructor succeeds exactly on unicast addresses**: the slots of the two tables
suffice. -/
theorem new_isOk_iff (C : InterfaceContract B) :
    (∃ e, Engine.new B settings sink connectTimeout idleTimeout maxConnections clock nextPort =
      .ok e) ↔ ∀ ip ∈ settings.assigned, ip.isUnicast = true := by
  have htable : (B.setIpAddrs (B.interfaceNew settings.mtu) (addressTable settings)).isSome = true
      ↔ ∀ ip ∈ settings.assigned, ip.isUnicast = true := by
    rw [C.setIpAddrs_isSome, ← addressTable_address, List.forall_mem_map]
  rw [← htable, Engine.new, C.ipAddrs_new, assignAddresses_eq C, except_ok_bind]
  rcases hset : B.setIpAddrs (B.interfaceNew settings.mtu) (addressTable settings) with _ | net
  · simp
  · have hroutes : C.routes net = 0 := by rw [C.routes_setIpAddrs _ _ _ hset, C.routes_new]
    obtain ⟨net₁, hroute₁, hcount₁⟩ :=
      addRoute_ok C (settings.ipv4.map .v4) "IPv4 route slot" (show C.routes net < 2 by omega)
    obtain ⟨net₂, hroute₂, -⟩ :=
      addRoute_ok C (settings.ipv6.map .v6) "IPv6 route slot" (show C.routes net₁ < 2 by omega)
    simp [hroute₁, hroute₂]

/-- The addresses of accepted settings are unicast, but for the limited broadcast address. -/
lemma unicast_iff {s : Settings} (h : s.Accepted) :
    (∀ ip ∈ s.assigned, ip.isUnicast = true) ↔ s.ipv4 ≠ some .broadcast := by
  constructor
  · intro hunicast hbroadcast
    have := hunicast _ (Settings.mem_assigned.mpr (.inl ⟨_, hbroadcast, rfl⟩))
    simp [IpAddr.isUnicast, Ipv4Addr.isUnicast, (Ipv4Addr.isBroadcast_iff _).mpr rfl] at this
  · intro hne ip hip
    obtain ⟨hunspecified, hmulticast⟩ := h.address ip hip
    rcases Settings.mem_assigned.mp hip with ⟨a, ha, rfl⟩ | ⟨a, -, rfl⟩
    · have hbroadcast : a.isBroadcast = false := by
        rw [Bool.eq_false_iff, Ne, Ipv4Addr.isBroadcast_iff]
        rintro rfl
        exact hne ha
      simp only [IpAddr.isUnspecified, IpAddr.isMulticast] at hunspecified hmulticast
      simp [IpAddr.isUnicast, Ipv4Addr.isUnicast, hbroadcast, hunspecified, hmulticast]
    · simp only [IpAddr.isUnspecified, IpAddr.isMulticast] at hunspecified hmulticast
      simp [IpAddr.isUnicast, Ipv6Addr.isUnicast, hunspecified, hmulticast]

/-- **Accepted options build an engine** unless the last `ifconfig` line assigns the limited
broadcast address. -/
theorem engine_built_iff (C : InterfaceContract B) {options : String} {mtu : ℕ}
    {dnsOverride : List IpAddr} (hparse : Settings.parse options mtu dnsOverride = .ok settings) :
    (∃ e, Engine.new B settings sink connectTimeout idleTimeout maxConnections clock nextPort =
      .ok e) ↔ Settings.lastIfconfig (lines options) ≠ some .broadcast := by
  obtain ⟨haccepted, hipv4⟩ := Settings.parse_eq_ok hparse
  rw [new_isOk_iff C, unicast_iff haccepted, hipv4]

theorem engine_built_subnet :
    Settings.parse "topology subnet\nifconfig 10.8.0.2 255.255.255.0" 1500 [] =
        .ok ⟨some (.new 10 8 0 2), none, [], 1500⟩ ∧
      ∃ e, Engine.new (reference fun _ _ => .failed) ⟨some (.new 10 8 0 2), none, [], 1500⟩ 0 30 0 2
        0 49152 = .ok e :=
  ⟨by decide, (engine_built_iff (Reference.interfaceContract _)
    (show Settings.parse "topology subnet\nifconfig 10.8.0.2 255.255.255.0" 1500 [] = _ by
      decide)).mpr (by decide)⟩

/-- The limited broadcast address passes the validator, and the worker does not survive it. -/
theorem broadcast_kills_worker :
    Settings.parse "ifconfig 255.255.255.255 255.255.255.0" 1500 [] =
        .ok ⟨some .broadcast, none, [], 1500⟩ ∧
      Engine.new (reference fun _ _ => .failed) ⟨some .broadcast, none, [], 1500⟩ 0 30 0 2 0 49152 =
        .error .notUnicast ∧
      ∀ w : Worker (reference fun _ _ => .failed),
        (w.online 1 ⟨some .broadcast, none, [], 1500⟩ 0 49152).phase = .faulted .notUnicast :=
  ⟨by decide, rfl, fun _ => rfl⟩

end Engine

end Ovpnlane
