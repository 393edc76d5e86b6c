import Ovpnlane.Construction.Text
import Ovpnlane.Framework.Fallible
import Ovpnlane.Framework.Fields
import Mathlib.Data.List.DropRight

/-!
# Checksum manifests outside the program

The name of the archive and the check of its manifest in `install.sh`, and the manifest that
`scripts/package.py` writes.  The check reads the first record with `awk`, tests the first field
with `grep`, and compares it with the first field of what `sha256sum` writes.

`Awk` is what the first line and the comparison `$2 == name` rest on.  What `awk` prints goes
through a command substitution, which drops NUL bytes.
-/

namespace Ovpnlane

open Text

namespace Installer

/-! ## The archive -/

/-- What follows one or more decimal digits. -/
def afterDigits (cs : List Char) : Option (List Char) :=
  if (cs.takeWhile Char.isDigit).isEmpty then none else some (cs.dropWhile Char.isDigit)

/-- Three numbers with points between them, and optionally a hyphen and a suffix. -/
def isVersion (line : List Char) : Bool :=
  match afterDigits line with
  | some ('.' :: rest) =>
    match afterDigits rest with
    | some ('.' :: rest) =>
      match afterDigits rest with
      | some [] => true
      | some ('-' :: suffix) =>
        !suffix.isEmpty && suffix.all fun c => c.isAlphanum || c == '.' || c == '-'
      | _ => false
    | _ => false
  | _ => false

/-- The check of the version: `grep` asks for one line that matches. -/
def checkVersion (version : String) : Bool := (version.toList.splitOn '\n').any isVersion

def archiveName (version platform : String) : String :=
  "ovpnlane-" ++ version ++ "-" ++ platform ++ ".tar.gz"

/-! ## The manifest -/

structure Awk where
  /-- A record as it is read: what becomes of a NUL byte is not specified. -/
  record : String → String
  /-- What `-v name=text` assigns: escape sequences stand for single characters. -/
  assign : String → String
  Number : Type
  numberEq : DecidableEq Number
  /-- The value of a text that looks like a number. -/
  number : String → Option Number

/-- The characters that separate fields. -/
def isBlank (c : Char) : Bool := c == ' ' || c == '\t'

/-- The fields `$1`, `$2` and so on of a record. -/
def recordFields (record : String) : List String :=
  (fields isBlank record.toList).map String.ofList

/-- `$(...)`: without NUL bytes, and without the line feeds at the end. -/
def commandSubstitution (output : String) : String :=
  String.ofList ((output.toList.filter (· != '\x00')).rdropWhile (· == '\n'))

namespace Awk

variable (awk : Awk)

/-- `==` of a field and an assigned variable: by value if both look like numbers, else as texts. -/
def equals (field value : String) : Bool :=
  match awk.number field, awk.number value with
  | some m, some n => @decide (m = n) (awk.numberEq m n)
  | _, _ => field == value

/-- `$2 == name` with the name as it is assigned. -/
def selects (name field : String) : Bool := awk.equals field (awk.assign name)

/-- What `NR == 1 && NF == 2 && $2 == name { print $1 }` prints. -/
def prints (name manifest : String) : String :=
  match recordFields (awk.record (before manifest '\n')) with
  | [digest, field] => if awk.selects name field then digest ++ "\n" else ""
  | _ => ""

def expected (name manifest : String) : String := commandSubstitution (awk.prints name manifest)

/-- The check of the manifest, where `actual` is the first field of what `sha256sum` writes for the
archive; the errors are those of `die`. -/
def checkManifest (actual name manifest : String) : Except String Unit := do
  let expected := awk.expected name manifest
  ensure (expected.length == 64 && expected.toList.all isHexDigit) "invalid SHA-256 manifest"
  ensure (expected == actual) "SHA-256 checksum mismatch; installation was not changed"

end Awk

/-- How `write_text` ends a line. -/
def lineEnd (windows : Bool) : String := if windows then "\r\n" else "\n"

/-- The manifest that `package.py` writes for an archive with this SHA-256, on the runner of its
platform. -/
def packageManifest (windows : Bool) (digest : List UInt8) (name : String) : String :=
  lowerHex digest ++ "  " ++ name ++ lineEnd windows

end Installer

end Ovpnlane
