import Ovpnlane.Construction.Address
import Ovpnlane.Framework.Fallible
import Mathlib.Data.List.Destutter

/-!
# Tunnel settings

`Settings::parse` (`src/settings.rs`): the option text OpenVPN Core renders, one option a line,
the MTU negotiated by `configure` and the `--dns` overrides go in; the addresses, resolvers and
MTU of the in-process stack come out, or the text of the first check that fails.  The option loop
is a fold of `applyOption`; the checks after it are `validate`, in the source's order.
-/

namespace Ovpnlane

open Text

/-- Negotiated addresses belong exclusively to the in-process IP stack. -/
structure Settings where
  ipv4 : Option Ipv4Addr
  ipv6 : Option Ipv6Addr
  dns : List IpAddr
  mtu : ℕ
  deriving DecidableEq

namespace Settings

/-- One iteration of the option loop. -/
def applyOption (result : Settings) (line : String) : Except String Settings :=
  match splitWhitespace line with
  | ["ifconfig", address, _] =>
    (context (Ipv4Addr.parse address) "invalid VPN IPv4 address").map
      fun ip => { result with ipv4 := some ip }
  | ["ifconfig-ipv6", address, _] =>
    (context (Ipv6Addr.parse (before address '/')) "invalid VPN IPv6 address").map
      fun ip => { result with ipv6 := some ip }
  | ["dhcp-option", "DNS", address] | ["dhcp-option", "DNS6", address] =>
    (context (IpAddr.parse address) "invalid VPN DNS address").map
      fun ip => { result with dns := result.dns ++ [ip] }
  | "dns" :: "server" :: _ :: "address" :: addresses =>
    (addresses.mapM fun address =>
        context (IpAddr.parse address) "DNS must use a plain IP address").map
      fun ips => { result with dns := result.dns ++ ips }
  | ["tun-mtu", value] =>
    (context (parseUsize value) "invalid tun-mtu").map
      fun mtu => { result with mtu := min result.mtu mtu }
  | _ => .ok result

/-- The option loop, over the lines of the text. -/
def applyOptions (result : Settings) (ls : List String) : Except String Settings :=
  ls.foldlM applyOption result

/-- The assigned addresses, IPv4 first. -/
def assigned (s : Settings) : List IpAddr :=
  (s.ipv4.map IpAddr.v4).toList ++ (s.ipv6.map IpAddr.v6).toList

/-- `retain` of the resolvers whose family the VPN assigned, then `dedup`, which removes
consecutive repetitions. -/
def reachableDns (s : Settings) : List IpAddr :=
  (s.dns.filter fun ip => if ip.isIpv4 then s.ipv4.isSome else s.ipv6.isSome).destutter (· ≠ ·)

/-- The checks after the option loop and the final resolver list. -/
def validate (s : Settings) : Except String Settings :=
  if s.ipv4.isNone && s.ipv6.isNone then .error "server did not assign an IP address"
  else if !(decide (576 ≤ s.mtu) && decide (s.mtu ≤ 9000)) then
    .error "VPN MTU must be between 576 and 9000"
  else if s.ipv6.isSome && decide (s.mtu < 1280) then .error "IPv6 requires MTU >= 1280"
  else if s.assigned.any (fun ip => ip.isUnspecified || ip.isMulticast) then
    .error "invalid assigned VPN address"
  else if s.dns.any (fun ip => ip.isUnspecified || ip.isMulticast) then
    .error "invalid DNS server address"
  else .ok { s with dns := s.reachableDns }

def parse (options : String) (mtu : ℕ) (dnsOverride : List IpAddr) : Except String Settings :=
  match applyOptions ⟨none, none, [], mtu⟩ (lines options) with
  | .error text => .error text
  | .ok result =>
    validate (if dnsOverride.isEmpty then result else { result with dns := dnsOverride })

def supportsFamily (s : Settings) : IpAddr → Bool
  | .v4 _ => s.ipv4.isSome
  | .v6 _ => s.ipv6.isSome

example : (parse "topology subnet\nifconfig 10.8.0.2 255.255.255.0\ntun-mtu 1400\n" 1500 []) =
    .ok ⟨some (.new 10 8 0 2), none, [], 1400⟩ := by decide

example : parse "route 10.0.0.0 255.0.0.0" 1500 [] =
    .error "server did not assign an IP address" := by decide

end Settings

end Ovpnlane
