import Ovpnlane.Construction.Connect

/-!
# The list and the menu of profiles

`list`, `display` and the menu of `choose` (`src/connect.rs`).  IDs and names are untrusted text, so
each character of them is written through `char::escape_debug`.

`UnicodeTables` is what `escape_debug` looks up in the tables of `core` for the characters that it
does not treat by their number.
-/

namespace Ovpnlane

open Text

namespace Connect

/-! ## Escapes -/

structure UnicodeTables where
  graphemeExtend : Char → Bool
  printable : Char → Bool

/-- `char::is_control`: the general category `Cc`. -/
def isControl (c : Char) : Bool := c.toNat < 0x20 || (0x7f ≤ c.toNat && c.toNat < 0xa0)

/-- The letter after the backslash, for the characters with an escape of their own. -/
def backslashed (c : Char) : Option Char :=
  if c = '\x00' then some '0'
  else if c = '\t' then some 't'
  else if c = '\r' then some 'r'
  else if c = '\n' then some 'n'
  else if c = '\x5c' ∨ c = '\x22' ∨ c = '\x27' then some c
  else none

def escapeUnicode (c : Char) : List Char :=
  '\x5c' :: 'u' :: '\x7b' :: Nat.toDigits 16 c.toNat ++ ['\x7d']

namespace UnicodeTables

variable (U : UnicodeTables)

def isGraphemeExtended (c : Char) : Bool := 0x2ff < c.toNat && U.graphemeExtend c

def isPrintable (c : Char) : Bool :=
  if c.toNat < 0x20 then false
  else if c.toNat < 0x7f then true
  else if c.toNat < 0xa0 then false
  else U.printable c

def escapeDebug (c : Char) : List Char :=
  match backslashed c with
  | some letter => ['\x5c', letter]
  | none =>
    if U.isGraphemeExtended c then escapeUnicode c
    else if U.isPrintable c then [c]
    else escapeUnicode c

def display (text : String) : String := String.ofList (text.toList.flatMap U.escapeDebug)

/-! ## The list -/

/-- The line of a profile. -/
def row (profile : Profile) : String := U.display profile.id ++ "\t" ++ U.display profile.name

/-- What `list` writes. -/
def list (profiles : List Profile) : String :=
  "ID\tNAME\n" ++ String.join (profiles.map fun profile => U.row profile ++ "\n")

/-! ## The menu -/

/-- The line of the profile with this index. -/
def menuLine (profile : Profile) (index : ℕ) : String :=
  toString (index + 1) ++ ". " ++ U.display profile.name ++ " [" ++ U.display profile.id ++ "]\n"

/-- What `choose` writes to the terminal. -/
def menu (profiles : List Profile) : String :=
  String.join (profiles.mapIdx fun index profile => U.menuLine profile index) ++
    "Select VPN [1-" ++ toString profiles.length ++ "]: "

end UnicodeTables

/-- The index that a line selects. -/
def menuIndex (line : String) : Option ℕ :=
  (parseUsize (trim line)).bind fun n => if 1 ≤ n then some (n - 1) else none

end Connect

end Ovpnlane
