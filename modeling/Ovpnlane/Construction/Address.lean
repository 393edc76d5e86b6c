import Ovpnlane.Construction.Text

/-!
# IP addresses

The address types of `std::net` and their text parser.  An address is its octets, with the
length it must have as a field; the predicates are the standard library's.  The parser follows
`core::net::parser`: an IPv4 octet has at most three digits and no leading zero, an IPv6 group at
most four hexadecimal digits, `::` stands for at least one zero group, and the last two groups may
be written as an IPv4 address.  A reader that fails leaves the input where it was, so a reader is
a function `List Char → Option (α × List Char)`.
-/

namespace Ovpnlane

/-! ## The types -/

structure Ipv4Addr where
  octets : List UInt8
  length_octets : octets.length = 4
  deriving DecidableEq

structure Ipv6Addr where
  octets : List UInt8
  length_octets : octets.length = 16
  deriving DecidableEq

inductive IpAddr
  | v4 (ip : Ipv4Addr)
  | v6 (ip : Ipv6Addr)
  deriving DecidableEq

/-- `std::net::SocketAddr`; a port is a `u16`. -/
structure SocketAddr where
  ip : IpAddr
  port : ℕ
  deriving DecidableEq

namespace Ipv4Addr

def new (a b c d : UInt8) : Ipv4Addr := ⟨[a, b, c, d], rfl⟩

def unspecified : Ipv4Addr := new 0 0 0 0

/-- `Ipv4Addr::BROADCAST`, the limited broadcast address. -/
def broadcast : Ipv4Addr := new 255 255 255 255

def isUnspecified (ip : Ipv4Addr) : Bool := ip.octets.all (· == 0)

/-- `Ipv4Addr::is_multicast`: 224.0.0.0/4. -/
def isMulticast (ip : Ipv4Addr) : Bool := 224 ≤ ip.octets.headD 0 && ip.octets.headD 0 ≤ 239

def isBroadcast (ip : Ipv4Addr) : Bool := ip.octets.all (· == 255)

lemma isBroadcast_iff (ip : Ipv4Addr) : ip.isBroadcast = true ↔ ip = broadcast := by
  obtain ⟨octets, hlen⟩ := ip
  match octets, hlen with
  | [a, b, c, d], _ => simp [isBroadcast, broadcast, new]

end Ipv4Addr

namespace Ipv6Addr

def isUnspecified (ip : Ipv6Addr) : Bool := ip.octets.all (· == 0)

/-- `Ipv6Addr::is_multicast`: ff00::/8. -/
def isMulticast (ip : Ipv6Addr) : Bool := ip.octets.headD 0 == 255

/-- `Ipv6Addr::from([u16; 8])`, each group most significant octet first. -/
def ofSegments (gs : List ℕ) (h : gs.length = 8) : Ipv6Addr where
  octets := gs.flatMap fun g => [UInt8.ofNat (g / 256), UInt8.ofNat g]
  length_octets := by simp [List.length_flatMap, h]

end Ipv6Addr

namespace IpAddr

def isUnspecified : IpAddr → Bool
  | v4 ip => ip.isUnspecified
  | v6 ip => ip.isUnspecified

def isMulticast : IpAddr → Bool
  | v4 ip => ip.isMulticast
  | v6 ip => ip.isMulticast

def isIpv4 : IpAddr → Bool
  | v4 _ => true
  | v6 _ => false

end IpAddr

/-! ## The text parser -/

namespace AddrParser

open Text

def readGivenChar (target : Char) : List Char → Option (Unit × List Char)
  | c :: cs => if c = target then some ((), cs) else none
  | [] => none

/-- `read_number` with a digit limit: the longest run of digits must be non-empty, within the
limit, below the bound of the target type, and, where leading zeros are not allowed, not start
with a zero unless it is that one digit. -/
def readNumber (radix maxDigits bound : ℕ) (allowZeroPrefix : Bool) (cs : List Char) :
    Option (ℕ × List Char) :=
  let digits := cs.takeWhile fun c => (toDigit radix c).isSome
  if maxDigits < digits.length || digits.isEmpty then none
  else if !allowZeroPrefix && digits.head? == some '0' && 1 < digits.length then none
  else if digitsValue radix digits < bound then
    some (digitsValue radix digits, cs.drop digits.length)
  else none

/-- `read_separator`: the separator stands before every item but the first. -/
def readSeparator {α : Type} (sep : Char) (index : ℕ)
    (inner : List Char → Option (α × List Char)) (cs : List Char) : Option (α × List Char) :=
  if 0 < index then (readGivenChar sep cs).bind fun (_, cs) => inner cs else inner cs

/-- The four octets of `read_ipv4_addr`. -/
def readIpv4 (cs : List Char) : Option (Ipv4Addr × List Char) := do
  let octet := readNumber 10 3 256 false
  let (a, cs) ← readSeparator '.' 0 octet cs
  let (b, cs) ← readSeparator '.' 1 octet cs
  let (c, cs) ← readSeparator '.' 2 octet cs
  let (d, cs) ← readSeparator '.' 3 octet cs
  some (.new (.ofNat a) (.ofNat b) (.ofNat c) (.ofNat d), cs)

/-- The loop of `read_groups`, with `limit - index` rounds left: the groups read so far (in
order), whether an embedded IPv4 address ended the run, and the rest of the input. -/
def readGroupsFrom (limit : ℕ) : ℕ → List ℕ → List Char → List ℕ × Bool × List Char
  | 0, groups, cs => (groups, false, cs)
  | left + 1, groups, cs =>
    let index := limit - (left + 1)
    -- an embedded IPv4 address takes two groups
    let ipv4 := if index + 1 < limit then readSeparator ':' index readIpv4 cs else none
    match ipv4 with
    | some (ip, cs) =>
      let o := ip.octets.map UInt8.toNat
      (groups ++ [o.getD 0 0 * 256 + o.getD 1 0, o.getD 2 0 * 256 + o.getD 3 0], true, cs)
    | none =>
      match readSeparator ':' index (readNumber 16 4 65536 true) cs with
      | some (g, cs) => readGroupsFrom limit left (groups ++ [g]) cs
      | none => (groups, false, cs)

/-- `read_groups` into a slice of `limit` groups. -/
def readGroups (limit : ℕ) (cs : List Char) : List ℕ × Bool × List Char :=
  readGroupsFrom limit limit [] cs

def readIpv6 (cs : List Char) : Option (Ipv6Addr × List Char) :=
  let (head, headIpv4, cs) := readGroups 8 cs
  if h : head.length = 8 then some (.ofSegments head h, cs)
  else if headIpv4 then none
  else do
    let (_, cs) ← readGivenChar ':' cs
    let (_, cs) ← readGivenChar ':' cs
    -- `::` stands for at least one group
    let (tail, _, cs) := readGroups (8 - (head.length + 1)) cs
    let groups := head ++ List.replicate (8 - head.length - tail.length) 0 ++ tail
    if h : groups.length = 8 then some (.ofSegments groups h, cs) else none

/-- `parse_with`: the reader must take the whole input. -/
def parseWith {α : Type} (inner : List Char → Option (α × List Char)) (s : String) : Option α :=
  match inner s.toList with
  | some (a, []) => some a
  | _ => none

end AddrParser

def Ipv4Addr.parse (s : String) : Option Ipv4Addr :=
  if 15 < s.utf8ByteSize then none else AddrParser.parseWith AddrParser.readIpv4 s

def Ipv6Addr.parse (s : String) : Option Ipv6Addr := AddrParser.parseWith AddrParser.readIpv6 s

/-- `IpAddr::from_str`: an IPv4 address if one can be read, else an IPv6 address. -/
def IpAddr.parse (s : String) : Option IpAddr :=
  AddrParser.parseWith
    (fun cs => match AddrParser.readIpv4 cs with
      | some (ip, cs) => some (.v4 ip, cs)
      | none => (AddrParser.readIpv6 cs).map fun (ip, cs) => (.v6 ip, cs)) s

example : (Ipv4Addr.parse "10.8.0.2", Ipv4Addr.parse "10.8.0", Ipv4Addr.parse "10.8.0.02",
    Ipv4Addr.parse "10.8.0.256") = (some (.new 10 8 0 2), none, none, none) := by decide

example : (Ipv6Addr.parse "fd00::2").map (·.octets) =
    some [0xfd, 0, 0, 0, 0, 0, 0, 0, 0, 0, 0, 0, 0, 0, 0, 2] := by decide

end Ovpnlane
