import Ovpnlane.Construction.Installer
import Ovpnlane.Construction.Update

/-!
# A release

What the release workflow makes (`scripts/package.py`, run for every platform of the build matrix in
`.github/workflows/ci.yml`): an archive a platform with the binary and the documents, its checksum,
and a GitHub release of the tag with these files as its assets.
-/

namespace Ovpnlane

open Text Update

namespace Package

/-- The artifacts of the build matrix. -/
def platforms : List String := ["linux-x86_64", "macos-arm64", "macos-x86_64", "windows-x86_64"]

def windows (platform : String) : Bool := startsWith platform "windows-"

def executable (windows : Bool) : String := if windows then "ovpnlane.exe" else "ovpnlane"

def archiveName (version platform : String) : String :=
  "ovpnlane-" ++ version ++ "-" ++ platform ++ if windows platform then ".zip" else ".tar.gz"

/-- The documents among `files`. -/
def documents : List String :=
  ["THIRD_PARTY_LICENSES.txt", "README.md", "LICENSE", "THIRD_PARTY.md", "CHANGELOG.md"]

/-- `files`, with what is read from them. -/
def files (windows : Bool) (binary : List UInt8) (read : String → List UInt8) :
    List (String × List UInt8) :=
  (executable windows, binary) :: documents.map fun name => (name, read name)

/-- What the workflow uploads: every archive and its checksum. -/
def assets (version : String) : List Asset :=
  platforms.flatMap fun platform =>
    [⟨archiveName version platform⟩, ⟨archiveName version platform ++ ".sha256"⟩]

/-- What `gh release create` makes of the tag. -/
def release (version : String) : Release := ⟨"v" ++ version, false, false, assets version⟩

end Package

end Ovpnlane
