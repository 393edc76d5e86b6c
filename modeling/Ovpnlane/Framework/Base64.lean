import Mathlib.Algebra.Group.Nat.Defs
import Mathlib.Data.List.Induction
import Mathlib.Tactic.Common

/-!
# Base64

The base64 of the standard alphabet with padding: `encode` writes three bytes as four symbols, and
one or two last bytes as two or three symbols and `=`; `decode` accepts what is written that way and
nothing else, so it refuses white space, missing or superfluous padding, and bits after the last
byte.

A group of `k` bytes is a number below `256 ^ k`, and its symbols are the digits to the base 64 of
that number, shifted to a whole number of digits.  `number_eq_some` and `bytesOf_ofBytes` are the
two positional systems, and `decode_eq_some` is their composition: decoding inverts encoding, and
exactly the encodings decode.
-/

namespace Ovpnlane

namespace Base64

/-! ## Symbols -/

/-- The padding symbol. -/
def pad : UInt8 := 61

/-- The symbol of a digit. -/
def symbol (n : ℕ) : UInt8 :=
  .ofNat (if n < 26 then 65 + n else if n < 52 then 71 + n else if n < 62 then n - 4
    else if n = 62 then 43 else 47)

/-- The digit of a symbol. -/
def digit (c : UInt8) : Option ℕ :=
  if 65 ≤ c.toNat ∧ c.toNat ≤ 90 then some (c.toNat - 65)
  else if 97 ≤ c.toNat ∧ c.toNat ≤ 122 then some (c.toNat - 71)
  else if 48 ≤ c.toNat ∧ c.toNat ≤ 57 then some (c.toNat + 4)
  else if c.toNat = 43 then some 62
  else if c.toNat = 47 then some 63
  else none

lemma digit_eq_some {c : UInt8} {n : ℕ} : digit c = some n ↔ n < 64 ∧ c = symbol n := by
  have hc := c.toNat_lt
  rw [← UInt8.toNat_inj, symbol, UInt8.toNat_ofNat']
  unfold digit
  split_ifs <;> simp only [Option.some.injEq, false_iff] <;> omega

lemma digit_pad : digit pad = none := by decide

/-- The symbols of a number, most significant first. -/
def symbols : ℕ → ℕ → List UInt8
  | 0, _ => []
  | k + 1, n => symbols k (n / 64) ++ [symbol (n % 64)]

/-- The number a list of symbols denotes. -/
def number (cs : List UInt8) : Option ℕ :=
  cs.foldlM (fun n c => (digit c).map (n * 64 + ·)) 0

lemma number_concat {cs : List UInt8} {c : UInt8} {n : ℕ} : number (cs ++ [c]) = some n ↔
    ∃ m d, number cs = some m ∧ digit c = some d ∧ n = m * 64 + d := by
  simp only [number, List.foldlM_append, List.foldlM_cons, List.foldlM_nil, Option.bind_eq_bind,
    Option.bind_eq_some_iff, Option.map_eq_some_iff, Option.pure_def, Option.some.injEq]
  constructor
  · rintro ⟨m, hm, n', ⟨d, hd, rfl⟩, rfl⟩
    exact ⟨m, d, hm, hd, rfl⟩
  · rintro ⟨m, d, hm, hd, rfl⟩
    exact ⟨m, hm, _, ⟨d, hd, rfl⟩, rfl⟩

/-- The symbols are digits to the base 64. -/
lemma number_eq_some {cs : List UInt8} {n : ℕ} :
    number cs = some n ↔ n < 64 ^ cs.length ∧ cs = symbols cs.length n := by
  induction cs using List.reverseRecOn generalizing n with
  | nil => simp [number, symbols, eq_comm]
  | append_singleton cs c ih =>
    rw [number_concat, List.length_append, List.length_singleton, pow_succ, symbols]
    constructor
    · rintro ⟨m, d, hm, hd, rfl⟩
      obtain ⟨hlt, hcs⟩ := ih.mp hm
      obtain ⟨hdigit, rfl⟩ := digit_eq_some.mp hd
      have hdiv : (m * 64 + d) / 64 = m := by omega
      have hmod : (m * 64 + d) % 64 = d := by omega
      refine ⟨by omega, ?_⟩
      rw [hdiv, hmod, ← hcs]
    · rintro ⟨hlt, hcs⟩
      obtain ⟨hfirst, hc⟩ := List.append_inj' hcs rfl
      obtain rfl : c = symbol (n % 64) := by simpa using hc
      refine ⟨n / 64, n % 64, ih.mpr ⟨?_, hfirst⟩, digit_eq_some.mpr ⟨by omega, rfl⟩, by omega⟩
      omega

lemma symbol_ne_pad (n : ℕ) : symbol (n % 64) ≠ pad := by
  intro h
  have hdigit := digit_eq_some.mpr ⟨Nat.mod_lt n (by decide), rfl⟩
  rw [h, digit_pad] at hdigit
  cases hdigit

/-! ## Bytes -/

/-- The bytes of a number, most significant first. -/
def bytesOf : ℕ → ℕ → List UInt8
  | 0, _ => []
  | k + 1, n => bytesOf k (n / 256) ++ [.ofNat n]

/-- The number a list of bytes denotes. -/
def ofBytes (bs : List UInt8) : ℕ := bs.foldl (fun n b => n * 256 + b.toNat) 0

/-- The bytes are digits to the base 256. -/
lemma ofBytes_eq_iff {bs : List UInt8} {n : ℕ} :
    ofBytes bs = n ↔ n < 256 ^ bs.length ∧ bs = bytesOf bs.length n := by
  induction bs using List.reverseRecOn generalizing n with
  | nil => simp [ofBytes, bytesOf, eq_comm]
  | append_singleton bs b ih =>
    have hb := b.toNat_lt
    have hconcat : ofBytes (bs ++ [b]) = ofBytes bs * 256 + b.toNat := by simp [ofBytes]
    rw [hconcat, List.length_append, List.length_singleton, pow_succ, bytesOf]
    constructor
    · rintro rfl
      obtain ⟨hlt, hbs⟩ := ih.mp rfl
      have hdiv : (ofBytes bs * 256 + b.toNat) / 256 = ofBytes bs := by omega
      refine ⟨by omega, ?_⟩
      rw [hdiv, ← hbs, List.append_cancel_left_eq, List.singleton_inj, ← UInt8.toNat_inj,
        UInt8.toNat_ofNat']
      omega
    · rintro ⟨hlt, hbs⟩
      obtain ⟨hfirst, hlast⟩ := List.append_inj' hbs rfl
      have hb : b.toNat = n % 256 := by
        rw [List.singleton_inj.mp hlast, UInt8.toNat_ofNat']
      rw [ih.mpr ⟨by omega, hfirst⟩]
      omega

@[simp] lemma length_bytesOf (k n : ℕ) : (bytesOf k n).length = k := by
  induction k generalizing n with
  | zero => rfl
  | succ k ih => rw [bytesOf, List.length_append, ih, List.length_singleton]

/-! ## Groups -/

/-- At most three bytes as four symbols. -/
def encodeGroup (bs : List UInt8) : List UInt8 :=
  symbols (bs.length + 1) (ofBytes bs * 4 ^ (3 - bs.length)) ++ List.replicate (3 - bs.length) pad

/-- The `k` bytes of `k + 1` symbols; the bits after the last byte are zero. -/
def decodeGroup (k : ℕ) (cs : List UInt8) : Option (List UInt8) :=
  (number cs).bind fun n =>
    if n % 4 ^ (3 - k) = 0 then some (bytesOf k (n / 4 ^ (3 - k))) else none

lemma decodeGroup_eq_some {k : ℕ} {cs bs : List UInt8} (hk : k ≤ 3) (hcs : cs.length = k + 1) :
    decodeGroup k cs = some bs ↔
      bs.length = k ∧ cs ++ List.replicate (3 - k) pad = encodeGroup bs := by
  have hpow : 64 ^ (k + 1) = 256 ^ k * 4 ^ (3 - k) := by
    obtain rfl | rfl | rfl | rfl : k = 0 ∨ k = 1 ∨ k = 2 ∨ k = 3 := by omega
    all_goals rfl
  have hpos : 0 < 4 ^ (3 - k) := Nat.pow_pos (by decide)
  rw [decodeGroup, Option.bind_eq_some_iff]
  constructor
  · rintro ⟨n, hn, h⟩
    obtain ⟨hlt, hsymbols⟩ := number_eq_some.mp hn
    split_ifs at h with hbits
    obtain rfl := Option.some.inj h
    rw [hcs] at hlt hsymbols
    have hnumber : ofBytes (bytesOf k (n / 4 ^ (3 - k))) = n / 4 ^ (3 - k) := by
      rw [ofBytes_eq_iff, length_bytesOf]
      exact ⟨Nat.div_lt_of_lt_mul (by rwa [Nat.mul_comm, ← hpow]), rfl⟩
    refine ⟨length_bytesOf .., ?_⟩
    rw [encodeGroup, length_bytesOf, hnumber, Nat.div_mul_cancel (Nat.dvd_of_mod_eq_zero hbits),
      ← hsymbols]
  · rintro ⟨rfl, h⟩
    have hsymbols := List.append_cancel_right h
    obtain ⟨hlt, hbs⟩ := ofBytes_eq_iff.mp (rfl : ofBytes bs = ofBytes bs)
    refine ⟨ofBytes bs * 4 ^ (3 - bs.length), number_eq_some.mpr ?_, ?_⟩
    · rw [hcs, hpow]
      exact ⟨Nat.mul_lt_mul_of_pos_right hlt hpos, hsymbols⟩
    · rw [if_pos (Nat.mul_mod_left ..), Nat.mul_div_cancel _ hpos, ← hbs]

/-! ## The codec -/

def encode : List UInt8 → List UInt8
  | [] => []
  | [a] => encodeGroup [a]
  | [a, b] => encodeGroup [a, b]
  | a :: b :: c :: rest => encodeGroup [a, b, c] ++ encode rest

def decode : List UInt8 → Option (List UInt8)
  | [] => some []
  | w :: x :: y :: z :: rest =>
    if z ≠ pad then do
      let bytes ← decodeGroup 3 [w, x, y, z]
      let more ← decode rest
      return bytes ++ more
    else if rest ≠ [] then none
    else if y ≠ pad then decodeGroup 2 [w, x, y]
    else decodeGroup 1 [w, x]
  | _ => none

/-- A group of three bytes has no padding. -/
lemma encodeGroup_three (a b c : UInt8) : ∃ w x y z, encodeGroup [a, b, c] = [w, x, y, z] ∧
    z ≠ pad :=
  ⟨_, _, _, _, rfl, symbol_ne_pad _⟩

/-- A group of two bytes has one padding symbol. -/
lemma encodeGroup_two (a b : UInt8) : ∃ w x y, encodeGroup [a, b] = [w, x, y, pad] ∧
    y ≠ pad :=
  ⟨_, _, _, rfl, symbol_ne_pad _⟩

lemma encodeGroup_one (a : UInt8) : ∃ w x, encodeGroup [a] = [w, x, pad, pad] := ⟨_, _, rfl⟩

lemma encode_append {bytes more : List UInt8} (h : bytes.length = 3) :
    encode (bytes ++ more) = encodeGroup bytes ++ encode more := by
  match bytes, h with
  | [a, b, c], _ => rfl

/-- The first group of an encoding: a full one, or the last with one padding symbol or two. -/
lemma encode_eq_cons_iff {w x y z : UInt8} {rest bs : List UInt8} :
    w :: x :: y :: z :: rest = encode bs ↔
      (z ≠ pad ∧ ∃ bytes more, (bytes.length = 3 ∧ [w, x, y, z] = encodeGroup bytes) ∧
        rest = encode more ∧ bytes ++ more = bs) ∨
      (z = pad ∧ rest = [] ∧ y ≠ pad ∧ bs.length = 2 ∧ [w, x, y, pad] = encodeGroup bs) ∨
      (z = pad ∧ rest = [] ∧ y = pad ∧ bs.length = 1 ∧ [w, x, pad, pad] = encodeGroup bs) := by
  constructor
  · intro h
    match bs, h with
    | [], h => cases h
    | [a], h =>
      obtain ⟨w', x', hgroup⟩ := encodeGroup_one a
      rw [encode, hgroup] at h
      obtain ⟨rfl, rfl, rfl, rfl, rfl⟩ : w = w' ∧ x = x' ∧ y = pad ∧ z = pad ∧ rest = [] := by
        simpa using h
      exact .inr (.inr ⟨rfl, rfl, rfl, rfl, hgroup.symm⟩)
    | [a, b], h =>
      obtain ⟨w', x', y', hgroup, hy⟩ := encodeGroup_two a b
      rw [encode, hgroup] at h
      obtain ⟨rfl, rfl, rfl, rfl, rfl⟩ : w = w' ∧ x = x' ∧ y = y' ∧ z = pad ∧ rest = [] := by
        simpa using h
      exact .inr (.inl ⟨rfl, rfl, hy, rfl, hgroup.symm⟩)
    | a :: b :: c :: more, h =>
      obtain ⟨w', x', y', z', hgroup, hz⟩ := encodeGroup_three a b c
      rw [encode, hgroup] at h
      obtain ⟨rfl, rfl, rfl, rfl, rfl⟩ :
          w = w' ∧ x = x' ∧ y = y' ∧ z = z' ∧ rest = encode more := by simpa using h
      exact .inl ⟨hz, [a, b, c], more, ⟨rfl, hgroup.symm⟩, rfl, rfl⟩
  · rintro (⟨-, bytes, more, ⟨hlen, hgroup⟩, rfl, rfl⟩ | ⟨rfl, rfl, -, hlen, hgroup⟩ |
      ⟨rfl, rfl, rfl, hlen, hgroup⟩)
    · rw [encode_append hlen, ← hgroup]
      rfl
    · match bs, hlen with
      | [a, b], _ => exact hgroup
    · match bs, hlen with
      | [a], _ => exact hgroup

/-- Only nothing is encoded as nothing; the rest is at least one group of four symbols. -/
lemma encode_cons (a : UInt8) (bs : List UInt8) :
    ∃ w x y z rest, encode (a :: bs) = w :: x :: y :: z :: rest := by
  match bs with
  | [] =>
    obtain ⟨w, x, hgroup⟩ := encodeGroup_one a
    exact ⟨w, x, _, _, _, hgroup⟩
  | [b] =>
    obtain ⟨w, x, y, hgroup, -⟩ := encodeGroup_two a b
    exact ⟨w, x, y, _, _, hgroup⟩
  | b :: c :: more =>
    obtain ⟨w, x, y, z, hgroup, -⟩ := encodeGroup_three a b c
    exact ⟨w, x, y, z, encode more, by rw [encode, hgroup]; rfl⟩

/-- **Exactly the encodings decode**, and decoding inverts encoding. -/
theorem decode_eq_some {cs bs : List UInt8} : decode cs = some bs ↔ cs = encode bs := by
  induction cs using decode.induct generalizing bs with
  | case1 =>
    rcases bs with _ | ⟨a, bs⟩
    · exact ⟨fun _ => rfl, fun _ => rfl⟩
    · obtain ⟨w, x, y, z, rest, hcons⟩ := encode_cons a bs
      simp [decode, hcons]
  | case2 w x y z rest hz ih =>
    have hgroup : ∀ bytes, decodeGroup 3 [w, x, y, z] = some bytes ↔
        bytes.length = 3 ∧ [w, x, y, z] = encodeGroup bytes :=
      fun bytes => decodeGroup_eq_some (Nat.le_refl 3) rfl
    rw [encode_eq_cons_iff]
    simp [decode, hz, Option.bind_eq_some_iff, hgroup, ih]
  | case3 w x y z rest hz hrest =>
    rw [encode_eq_cons_iff]
    simp [decode, hz, hrest]
  | case4 w x y z rest hz hrest hy =>
    rw [not_not] at hz hrest
    have hgroup : decodeGroup 2 [w, x, y] = some bs ↔
        bs.length = 2 ∧ [w, x, y, pad] = encodeGroup bs := decodeGroup_eq_some (by decide) rfl
    rw [encode_eq_cons_iff]
    simp [decode, hz, hrest, hy, hgroup]
  | case5 w x y z rest hz hrest hy =>
    rw [not_not] at hz hrest hy
    have hgroup : decodeGroup 1 [w, x] = some bs ↔
        bs.length = 1 ∧ [w, x, pad, pad] = encodeGroup bs := decodeGroup_eq_some (by decide) rfl
    rw [encode_eq_cons_iff]
    simp [decode, hz, hrest, hy, hgroup]
  | case6 cs hnil hcons =>
    rw [decode]
    · rcases bs with _ | ⟨a, bs⟩
      · exact ⟨nofun, fun h => absurd h hnil⟩
      · obtain ⟨w, x, y, z, rest, heq⟩ := encode_cons a bs
        exact ⟨nofun, fun h => absurd (h.trans heq) (hcons w x y z rest)⟩
    · exact hnil
    · exact hcons

example : encode [104, 101, 108, 108, 111] = "aGVsbG8=".toUTF8.data.toList := by decide

end Base64

end Ovpnlane
