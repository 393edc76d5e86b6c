import Mathlib.Algebra.Group.Nat.Defs
import Mathlib.Data.List.Infix
import Mathlib.Tactic.Common

/-!
# The text functions of the standard library

What the option parser, the diagnostics, the updater and the discovery of profiles use of `str`:
`lines`, `split_whitespace`, `trim`, `split('/')`, the ASCII case functions, `contains`,
`starts_with`, `cmp`, the decimal `usize` parser and `{:x}`, each on the characters of a string and
with the documented behaviour (a line ends at `\n` or `\r\n`; white space is Unicode
`White_Space`; a number may carry one leading `+` and must fit in 64 bits).
-/

namespace Ovpnlane.Text

/-! ## White space -/

/-- `char::is_whitespace`: the characters with the Unicode property `White_Space`. -/
def isWhitespace (c : Char) : Bool :=
  (0x9 ≤ c.toNat && c.toNat ≤ 0xd) || c.toNat == 0x20 || c.toNat == 0x85 || c.toNat == 0xa0 ||
    c.toNat == 0x1680 || (0x2000 ≤ c.toNat && c.toNat ≤ 0x200a) || c.toNat == 0x2028 ||
    c.toNat == 0x2029 || c.toNat == 0x202f || c.toNat == 0x205f || c.toNat == 0x3000

/-- The words of a text whose current word has been read as `word`, in reverse. -/
def wordsFrom : List Char → List Char → List (List Char)
  | [], word => if word.isEmpty then [] else [word.reverse]
  | c :: cs, word =>
    if isWhitespace c then
      if word.isEmpty then wordsFrom cs [] else word.reverse :: wordsFrom cs []
    else wordsFrom cs (c :: word)

def splitWhitespace (s : String) : List String := (wordsFrom s.toList []).map String.ofList

def trim (s : String) : String :=
  String.ofList ((s.toList.dropWhile isWhitespace).reverse.dropWhile isWhitespace).reverse

/-! ## Lines -/

/-- A line that ended at a `\n`, read in reverse: a `\r` before the `\n` belongs to the line
ending. -/
def endLine : List Char → List Char
  | '\r' :: line => line.reverse
  | line => line.reverse

/-- The lines of a text whose current line has been read as `line`, in reverse.  A last line
without a `\n` keeps a final `\r`. -/
def linesFrom : List Char → List Char → List (List Char)
  | [], line => if line.isEmpty then [] else [line.reverse]
  | '\n' :: cs, line => endLine line :: linesFrom cs []
  | c :: cs, line => linesFrom cs (c :: line)

def lines (s : String) : List String := (linesFrom s.toList []).map String.ofList

/-- `s.split(c).next()`: the text before the first `c`, all of it if there is none. -/
def before (s : String) (c : Char) : String := String.ofList (s.toList.takeWhile (· != c))

/-! ## Letter case and search -/

/-- `str::to_ascii_lowercase`; `Char.toLower` changes ASCII letters only. -/
def toAsciiLowercase (s : String) : String := String.ofList (s.toList.map Char.toLower)

/-- `str::contains`, for a text. -/
def contains (s needle : String) : Bool := decide (needle.toList <:+: s.toList)

/-- `str::starts_with`, for a text. -/
def startsWith (s start : String) : Bool := decide (start.toList <+: s.toList)

/-- `s.strip_prefix(c).unwrap_or(s)`. -/
def stripChar (c : Char) (s : String) : String :=
  match s.toList with
  | c' :: cs => if c' = c then String.ofList cs else s
  | [] => s

def eqIgnoreAsciiCase (s t : String) : Bool := toAsciiLowercase s == toAsciiLowercase t

/-! ## Order -/

/-- The order of two texts by their characters, which is that of their bytes. -/
def cmpChars : List Char → List Char → Ordering
  | [], [] => .eq
  | [], _ :: _ => .lt
  | _ :: _, [] => .gt
  | c :: cs, c' :: cs' =>
    if c.toNat < c'.toNat then .lt else if c'.toNat < c.toNat then .gt else cmpChars cs cs'

def cmp (s t : String) : Ordering := cmpChars s.toList t.toList

/-! ## Numbers -/

/-- The value of a digit in a radix of at most sixteen, as `char::to_digit`. -/
def toDigit (radix : ℕ) (c : Char) : Option ℕ :=
  let d :=
    if '0' ≤ c ∧ c ≤ '9' then some (c.toNat - '0'.toNat)
    else if 'a' ≤ c ∧ c ≤ 'f' then some (c.toNat - 'a'.toNat + 10)
    else if 'A' ≤ c ∧ c ≤ 'F' then some (c.toNat - 'A'.toNat + 10)
    else none
  d.filter (· < radix)

/-- A digit is one of the characters from `0` to `f`. -/
lemma toNat_of_toDigit {radix : ℕ} {c : Char} (h : (toDigit radix c).isSome = true) :
    '0'.toNat ≤ c.toNat ∧ c.toNat ≤ 'f'.toNat := by
  have hle : ∀ x y : Char, x ≤ y ↔ x.toNat ≤ y.toNat := fun _ _ => Iff.rfl
  unfold toDigit at h
  simp only [hle] at h
  split_ifs at h with hdecimal hlower hupper
  · exact ⟨hdecimal.1, hdecimal.2.trans (by decide)⟩
  · exact ⟨(by decide : '0'.toNat ≤ 'a'.toNat).trans hlower.1, hlower.2⟩
  · exact ⟨(by decide : '0'.toNat ≤ 'A'.toNat).trans hupper.1, hupper.2.trans (by decide)⟩
  · cases h

/-- No digit is white space. -/
lemma isWhitespace_of_toDigit {radix : ℕ} {c : Char} (h : (toDigit radix c).isSome = true) :
    isWhitespace c = false := by
  obtain ⟨hlow, hhigh⟩ := toNat_of_toDigit h
  simp only [Char.reduceToNat] at hlow hhigh
  simp only [isWhitespace, Bool.or_eq_false_iff, Bool.and_eq_false_iff, decide_eq_false_iff_not,
    beq_eq_false_iff_ne]
  omega

/-- The number a list of digits denotes, most significant first. -/
def digitsValue (radix : ℕ) (cs : List Char) : ℕ :=
  cs.foldl (fun n c => n * radix + (toDigit radix c).getD 0) 0

/-- `usize::from_str` on a 64-bit target. -/
def parseUsize (s : String) : Option ℕ :=
  let digits := match s.toList with
    | '+' :: cs => cs
    | cs => cs
  if digits.isEmpty || !digits.all (fun c => (toDigit 10 c).isSome) then none
  else if digitsValue 10 digits < 2 ^ 64 then some (digitsValue 10 digits)
  else none

def isHexDigit (c : Char) : Bool := (toDigit 16 c).isSome

def hexDigit (n : ℕ) : Char := if n < 10 then Char.ofNat (48 + n) else Char.ofNat (87 + n)

/-- `{:x}` of a digest: two lower-case digits a byte. -/
def lowerHex (bytes : List UInt8) : String :=
  String.ofList (bytes.flatMap fun b => [hexDigit (b.toNat / 16), hexDigit (b.toNat % 16)])

example : splitWhitespace "ifconfig  10.8.0.2\t255.255.255.0" =
    ["ifconfig", "10.8.0.2", "255.255.255.0"] := by decide

example : lines "a b\r\nc\n\nd\r" = ["a b", "c", "", "d\r"] := by decide

example : (parseUsize "+1500", parseUsize "", parseUsize "-1", parseUsize "18446744073709551616") =
    (some 1500, none, none, none) := by decide

end Ovpnlane.Text
