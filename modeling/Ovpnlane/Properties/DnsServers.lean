import Ovpnlane.Framework.Repeats
import Ovpnlane.Properties.Options

/-!
# The resolver list

What `Settings::parse` does with the DNS lines of the options text and with the `--dns` overrides.

* `Settings.applyOptions_toOption`: the option loop treats the DNS lines and the other lines
  independently.  A malformed DNS line is an error; otherwise the addresses are appended in line
  order and everything else is what the other lines alone give.
* `Settings.dns_first_occurrences_iff`: the resulting list is the list of first occurrences of
  the reachable servers exactly when equal servers stand together in the source, since
  `Vec::dedup` compares neighbours only.
* `Settings.override_outcome_iff`: what an override does and does not hide of the DNS lines.
-/

namespace Ovpnlane

open Text

namespace Settings

/-! ## The DNS lines -/

/-- The addresses a DNS line pushes. -/
def pushedDns (line : String) : List IpAddr :=
  match splitWhitespace line with
  | ["dhcp-option", "DNS", address] | ["dhcp-option", "DNS6", address] =>
    (IpAddr.parse address).toList
  | "dns" :: "server" :: _ :: "address" :: addresses => addresses.filterMap IpAddr.parse
  | _ => []

/-- The `dhcp-option DNS`, `dhcp-option DNS6` and `dns server … address` lines, of any arity. -/
def isDnsLine (line : String) : Bool :=
  match splitWhitespace line with
  | "dhcp-option" :: "DNS" :: _ | "dhcp-option" :: "DNS6" :: _ => true
  | "dns" :: "server" :: _ :: "address" :: _ => true
  | _ => false

/-- A DNS line with an address that does not parse. -/
def malformedDns (line : String) : Bool :=
  match splitWhitespace line with
  | ["dhcp-option", "DNS", address] | ["dhcp-option", "DNS6", address] =>
    (IpAddr.parse address).isNone
  | "dns" :: "server" :: _ :: "address" :: addresses =>
    addresses.any fun address => (IpAddr.parse address).isNone
  | _ => false

/-- The lines that are not DNS lines. -/
def otherLines (ls : List String) : List String := ls.filter fun line => !isDnsLine line

/-! ## One line -/

lemma mapM_context_eq (addresses : List String) (text : String) :
    (addresses.mapM fun address => context (IpAddr.parse address) text) =
      if addresses.any fun address => (IpAddr.parse address).isNone then .error text
      else .ok (addresses.filterMap IpAddr.parse) := by
  induction addresses with
  | nil => rfl
  | cons address addresses ih =>
    rw [List.mapM_cons, ih]
    rcases hparse : IpAddr.parse address with _ | ip
    · simp [hparse, context]
    · by_cases hrest : (addresses.any fun address => (IpAddr.parse address).isNone) = true
      · rw [if_pos hrest, if_pos (by simpa using .inr (by simpa using hrest))]
        rfl
      · rw [if_neg hrest, if_neg (by simpa [hparse] using hrest)]
        simp only [List.filterMap_cons, hparse]
        rfl

/-- A DNS line fails, or appends its addresses and touches nothing else. -/
lemma applyOption_dns {line : String} (h : isDnsLine line = true) (s : Settings) :
    (applyOption s line).toOption =
      if malformedDns line then none else some { s with dns := s.dns ++ pushedDns line } := by
  unfold isDnsLine at h
  unfold applyOption malformedDns pushedDns
  split at h
  case h_1 rest hfields | h_2 rest hfields =>
    rw [hfields]
    rcases rest with _ | ⟨address, _ | ⟨_, _⟩⟩
    · simp [Except.toOption]
    · rcases hparse : IpAddr.parse address with _ | ip <;>
        simp [context, Except.map, Except.toOption, hparse]
    · simp [Except.toOption]
  case h_3 addresses hfields =>
    simp only [hfields, mapM_context_eq]
    split <;> simp [Except.map, Except.toOption]
  case h_4 => contradiction

/-- The other lines neither read nor change the resolver list. -/
lemma applyOption_other {line : String} (h : isDnsLine line = false) (s : Settings)
    (dns : List IpAddr) :
    (applyOption { s with dns := dns } line).toOption =
      (applyOption s line).toOption.map fun s' => { s' with dns := dns } := by
  unfold applyOption
  split
  case h_1 address _ _ => cases Ipv4Addr.parse address <;> rfl
  case h_2 address _ _ => cases Ipv6Addr.parse (before address '/') <;> rfl
  case h_6 value _ => cases parseUsize value <;> rfl
  case h_7 => rfl
  all_goals
    rw [isDnsLine, ‹splitWhitespace line = _›] at h
    simp at h

lemma pushedDns_of_other {line : String} (h : isDnsLine line = false) : pushedDns line = [] := by
  unfold isDnsLine at h
  unfold pushedDns
  split at h <;> first | contradiction | skip
  split <;> simp_all

lemma malformedDns_of_other {line : String} (h : isDnsLine line = false) :
    malformedDns line = false := by
  unfold isDnsLine at h
  unfold malformedDns
  split at h <;> first | contradiction | skip
  split <;> simp_all

/-! ## The option loop -/

lemma applyOptions_cons (s : Settings) (line : String) (ls : List String) :
    (applyOptions s (line :: ls)).toOption =
      (applyOption s line).toOption.bind fun s' => (applyOptions s' ls).toOption := by
  rw [applyOptions, List.foldlM_cons]
  rcases applyOption s line with text | s' <;> rfl

/-- The other lines keep the resolver list. -/
lemma applyOption_other_dns {line : String} (h : isDnsLine line = false) {s s' : Settings}
    (hline : (applyOption s line).toOption = some s') : s'.dns = s.dns := by
  have hkept := applyOption_other h s s.dns
  rw [show { s with dns := s.dns } = s from rfl, hline, Option.map_some] at hkept
  have hsame := Option.some.inj hkept
  rw [hsame]

lemma applyOptions_other (s : Settings) (dns : List IpAddr) (ls : List String) :
    (applyOptions { s with dns := dns } (otherLines ls)).toOption =
      (applyOptions s (otherLines ls)).toOption.map fun s' => { s' with dns := dns } := by
  induction ls generalizing s with
  | nil => rfl
  | cons line ls ih =>
    by_cases hdns : isDnsLine line = true
    · rw [show otherLines (line :: ls) = otherLines ls by simp [otherLines, hdns]]
      exact ih s
    · rw [Bool.not_eq_true] at hdns
      rw [show otherLines (line :: ls) = line :: otherLines ls by simp [otherLines, hdns],
        applyOptions_cons, applyOptions_cons, applyOption_other hdns]
      rcases (applyOption s line).toOption with _ | s'
      · rfl
      · exact ih s'

/-- **The DNS lines and the other lines do not interact**: a malformed DNS line is an error;
otherwise the loop returns what the other lines alone give, with the pushed addresses appended in
line order. -/
theorem applyOptions_toOption (s : Settings) (ls : List String) :
    (applyOptions s ls).toOption =
      if ls.any malformedDns then none
      else (applyOptions s (otherLines ls)).toOption.map fun s' =>
        { s' with dns := s.dns ++ ls.flatMap pushedDns } := by
  induction ls generalizing s with
  | nil => simp [applyOptions, otherLines, pure, Except.pure, Except.toOption]
  | cons line ls ih =>
    rw [applyOptions_cons]
    by_cases hdns : isDnsLine line = true
    · rw [show otherLines (line :: ls) = otherLines ls by simp [otherLines, hdns],
        applyOption_dns hdns]
      by_cases hbad : malformedDns line = true
      · simp [hbad]
      · rw [if_neg hbad, Option.bind_some, ih, applyOptions_other, Option.map_map]
        simp [hbad, Function.comp_def]
    · rw [Bool.not_eq_true] at hdns
      rw [show otherLines (line :: ls) = line :: otherLines ls by simp [otherLines, hdns],
        applyOptions_cons, List.any_cons, malformedDns_of_other hdns, Bool.false_or,
        List.flatMap_cons, pushedDns_of_other hdns, List.nil_append]
      rcases hline : (applyOption s line).toOption with _ | s'
      · simp
      · rw [Option.bind_some, Option.bind_some, ih, applyOption_other_dns hdns hline]

/-! ## First occurrences -/

/-- The configured resolvers before any is dropped: the override, or else what the server pushed. -/
def sourceDns (options : String) (dnsOverride : List IpAddr) : List IpAddr :=
  if dnsOverride.isEmpty then (lines options).flatMap pushedDns else dnsOverride

/-- An `ifconfig` line assigns the IPv4 family, an `ifconfig-ipv6` line the IPv6 family. -/
def assignsFamily (line : String) (ip : IpAddr) : Bool :=
  match splitWhitespace line with
  | ["ifconfig", _, _] => ip.isIpv4
  | ["ifconfig-ipv6", _, _] => !ip.isIpv4
  | _ => false

/-- The source list, less the resolvers of a family that no line assigns. -/
def reachableSource (options : String) (dnsOverride : List IpAddr) : List IpAddr :=
  (sourceDns options dnsOverride).filter fun ip => (lines options).any (assignsFamily · ip)

lemma applyOption_family {s s' : Settings} {line : String} (h : applyOption s line = .ok s')
    (ip : IpAddr) : s'.supportsFamily ip = (assignsFamily line ip || s.supportsFamily ip) := by
  unfold applyOption at h
  split at h
  case h_1 hfields | h_2 hfields =>
    obtain ⟨_, -, rfl⟩ := except_map_eq_ok.mp h
    cases ip <;> simp [supportsFamily, assignsFamily, hfields, IpAddr.isIpv4]
  case h_7 hipv4 hipv6 _ _ _ _ =>
    obtain rfl := Except.ok.inj h
    unfold assignsFamily
    split
    · exact absurd ‹_› (hipv4 _ _)
    · exact absurd ‹_› (hipv6 _ _)
    · rfl
  all_goals
    obtain ⟨_, -, rfl⟩ := except_map_eq_ok.mp h
    cases ip <;> simp [supportsFamily, assignsFamily, ‹splitWhitespace line = _›]

lemma applyOptions_family {s s' : Settings} {ls : List String} (h : applyOptions s ls = .ok s')
    (ip : IpAddr) :
    s'.supportsFamily ip = (ls.any (assignsFamily · ip) || s.supportsFamily ip) := by
  induction ls generalizing s with
  | nil =>
    obtain rfl := Except.ok.inj h
    rfl
  | cons line ls ih =>
    obtain ⟨s₁, hline, hrest⟩ := bind_eq_ok.mp h
    rw [ih hrest, applyOption_family hline, List.any_cons, ← Bool.or_assoc]
    congr 1
    exact Bool.or_comm _ _

/-- `Settings::parse`, over the lines of its text. -/
def parseLines (ls : List String) (mtu : ℕ) (dnsOverride : List IpAddr) :
    Except String Settings :=
  match applyOptions ⟨none, none, [], mtu⟩ ls with
  | .error text => .error text
  | .ok result =>
    validate (if dnsOverride.isEmpty then result else { result with dns := dnsOverride })

/-- `Settings::parse` without the texts of its errors. -/
lemma parseLines_toOption (ls : List String) (mtu : ℕ) (dnsOverride : List IpAddr) :
    (parseLines ls mtu dnsOverride).toOption =
      (applyOptions ⟨none, none, [], mtu⟩ ls).toOption.bind fun result =>
        (validate (if dnsOverride.isEmpty then result
          else { result with dns := dnsOverride })).toOption := by
  unfold parseLines
  rcases applyOptions ⟨none, none, [], mtu⟩ ls with text | result <;> rfl

lemma parse_eq_parseLines (options : String) (mtu : ℕ) (dnsOverride : List IpAddr) :
    parse options mtu dnsOverride = parseLines (lines options) mtu dnsOverride :=
  rfl

lemma toOption_eq_some {ε α : Type*} {x : Except ε α} {a : α} :
    x.toOption = some a ↔ x = .ok a := by
  cases x <;> simp [Except.toOption]

/-- A successful `Settings::parse`: the reachable sources, neighbours compared. -/
lemma parse_dns {options : String} {mtu : ℕ} {dnsOverride : List IpAddr} {s : Settings}
    (h : parse options mtu dnsOverride = .ok s) :
    s.dns = (reachableSource options dnsOverride).destutter (· ≠ ·) := by
  rw [← toOption_eq_some, parse_eq_parseLines, parseLines_toOption] at h
  obtain ⟨result, hoptions, hvalid⟩ := Option.bind_eq_some_iff.mp h
  have hdns := (validate_eq_ok (toOption_eq_some.mp hvalid)).1
  have hpushed : result.dns = (lines options).flatMap pushedDns := by
    rw [applyOptions_toOption] at hoptions
    split_ifs at hoptions
    obtain ⟨other, -, rfl⟩ := Option.map_eq_some_iff.mp hoptions
    rfl
  have hfamily : ∀ ip, result.supportsFamily ip = (lines options).any (assignsFamily · ip) := by
    intro ip
    rw [applyOptions_family (toOption_eq_some.mp hoptions) ip]
    cases ip <;> simp [supportsFamily]
  have hreach : ∀ dns : List IpAddr, ({ result with dns := dns } : Settings).reachableDns =
      (dns.filter fun ip => (lines options).any (assignsFamily · ip)).destutter (· ≠ ·) := by
    intro dns
    rw [reachableDns]
    congr 2
    funext ip
    rw [← hfamily]
    cases ip <;> rfl
  by_cases hoverride : dnsOverride.isEmpty = true
  · rw [if_pos hoverride] at hdns
    rw [hdns, reachableSource, sourceDns, if_pos hoverride, ← hpushed]
    exact hreach result.dns
  · rw [if_neg hoverride] at hdns
    rw [hdns, reachableSource, sourceDns, if_neg hoverride]
    exact hreach dnsOverride

/-- **The resolver list is the list of first occurrences exactly when equal servers stand
together** in the source, among the servers of an assigned family. -/
theorem dns_first_occurrences_iff {options : String} {mtu : ℕ} {dnsOverride : List IpAddr}
    {s : Settings} (h : parse options mtu dnsOverride = .ok s) :
    s.dns.Nodup ∧ s.dns = (reachableSource options dnsOverride).eraseDups ↔
      Grouped (reachableSource options dnsOverride) := by
  rw [parse_dns h]
  exact nodup_and_destutter_eq_eraseDups_iff

/-- A resolver pushed twice in a row, by lines of two forms. -/
theorem dns_first_occurrences_grouped :
    [IpAddr.v4 (.new 1 0 0 1)].Nodup ∧ [IpAddr.v4 (.new 1 0 0 1)] = (reachableSource
      "ifconfig 1.0.0.2 m\ndhcp-option DNS 1.0.0.1\ndns server 1 address 1.0.0.1" []).eraseDups :=
  (dns_first_occurrences_iff (show parse
    "ifconfig 1.0.0.2 m\ndhcp-option DNS 1.0.0.1\ndns server 1 address 1.0.0.1" 1500 [] =
      .ok ⟨some (.new 1 0 0 2), none, [.v4 (.new 1 0 0 1)], 1500⟩ by decide +kernel)).mpr
    (by decide +kernel)

/-- A resolver that comes back after a different one stays twice in the list. -/
theorem dns_repeated :
    parse "ifconfig 1.0.0.2 m\ndns server 1 address 1.0.0.1 1.0.0.3 1.0.0.1" 1500 [] =
        .ok ⟨some (.new 1 0 0 2), none,
          [.v4 (.new 1 0 0 1), .v4 (.new 1 0 0 3), .v4 (.new 1 0 0 1)], 1500⟩ ∧
      ¬ [IpAddr.v4 (.new 1 0 0 1), .v4 (.new 1 0 0 3), .v4 (.new 1 0 0 1)].Nodup := by
  decide +kernel

/-! ## What an override hides -/

/-- Both succeed with equal settings, or both fail. -/
def SameOutcome (a b : Except String Settings) : Prop := a.toOption = b.toOption

instance (a b : Except String Settings) : Decidable (SameOutcome a b) :=
  inferInstanceAs (Decidable (a.toOption = b.toOption))

/-- With an override, only a malformed DNS line gets through: the outcome is otherwise that of
the remaining lines. -/
lemma parse_override {options : String} {mtu : ℕ} {dnsOverride : List IpAddr}
    (h : dnsOverride ≠ []) : (parse options mtu dnsOverride).toOption =
      if (lines options).any malformedDns then none
      else (parseLines (otherLines (lines options)) mtu dnsOverride).toOption := by
  have hoverride : dnsOverride.isEmpty = false := by simpa using h
  rw [parse_eq_parseLines, parseLines_toOption, applyOptions_toOption, parseLines_toOption]
  by_cases hbad : (lines options).any malformedDns = true
  · rw [if_pos hbad, if_pos hbad, Option.bind_none]
  · rw [if_neg hbad, if_neg hbad]
    rcases (applyOptions ⟨none, none, [], mtu⟩ (otherLines (lines options))).toOption
      with _ | result
    · rfl
    · simp [hoverride]

/-- **What an override hides**: two texts that differ only in their DNS lines have the same
outcome, unless exactly one of them has a malformed DNS line and the remaining lines are
accepted. -/
theorem override_outcome_iff {options options' : String} {mtu : ℕ} {dnsOverride : List IpAddr}
    (hoverride : dnsOverride ≠ [])
    (hlines : otherLines (lines options) = otherLines (lines options')) :
    SameOutcome (parse options mtu dnsOverride) (parse options' mtu dnsOverride) ↔
      ((∃ line ∈ lines options, malformedDns line = true) ↔
        ∃ line ∈ lines options', malformedDns line = true) ∨
      ∀ s, parseLines (otherLines (lines options)) mtu dnsOverride ≠ .ok s := by
  have hrejected : (parseLines (otherLines (lines options)) mtu dnsOverride).toOption = none ↔
      ∀ s, parseLines (otherLines (lines options)) mtu dnsOverride ≠ .ok s := by
    simp only [Option.eq_none_iff_forall_ne_some, ne_eq, toOption_eq_some]
  rw [SameOutcome, parse_override hoverride, parse_override hoverride, ← hlines, ← hrejected,
    ← List.any_eq_true, ← List.any_eq_true]
  by_cases hbad : (lines options).any malformedDns = true <;>
    by_cases hbad' : (lines options').any malformedDns = true
  · simp [hbad, hbad']
  · simp [hbad, hbad', eq_comm]
  · simp [hbad, hbad']
  · simp [hbad, hbad']

/-- A server pushed, or none: the override decides. -/
theorem override_outcome_pushed :
    SameOutcome
      (parse "ifconfig 1.0.0.2 m\ndns server 1 address 1.0.0.1" 1500 [.v4 (.new 1 0 0 9)])
      (parse "ifconfig 1.0.0.2 m" 1500 [.v4 (.new 1 0 0 9)]) :=
  (override_outcome_iff (by decide) (by decide +kernel)).mpr (.inl (by decide +kernel))

/-- A malformed address in a DNS line is an error, with an override as without one. -/
theorem override_malformed :
    otherLines (lines "ifconfig 1.0.0.2 m\ndhcp-option DNS x") =
        otherLines (lines "ifconfig 1.0.0.2 m") ∧
      ¬ SameOutcome (parse "ifconfig 1.0.0.2 m\ndhcp-option DNS x" 1500 [.v4 (.new 1 0 0 9)])
        (parse "ifconfig 1.0.0.2 m" 1500 [.v4 (.new 1 0 0 9)]) := by
  decide +kernel

end Settings

end Ovpnlane
