import Ovpnlane.Construction.Text
import Ovpnlane.Framework.Effects
import Ovpnlane.Framework.Fallible
import Mathlib.Logic.Function.Basic
import Mathlib.Order.Lattice

/-!
# The updater

`update::run` (`src/update.rs`): pick a release, check its metadata, ask for confirmation, download
the archive and its checksum, verify and unpack them into a staging directory beside the executable,
run the candidate, and replace the executable.  Nothing else in the program writes to the
installation.

`Updater` is what the updater rests on and does not contain: the `semver`, `ureq`, `sha2`, `zip`,
`tar`, `tempfile` and `self_replace` crates, the operating system, the user, and the candidate as a
program.  `World` is the file system and the standard output; its `replacements` are not in the
source, they keep the content of every candidate `self_replace` was called for.
-/

namespace Ovpnlane

open Text

/-- The components of an absolute path. -/
abbrev Path := List String

abbrev Files := Path → Option (List UInt8)

namespace Update

def api : String := "https://api.github.com/repos/debba/ovpnlane/releases"

def downloads : String := "https://github.com/debba/ovpnlane/releases/download"

def maxDownload : ℕ := 100 * 1024 * 1024

def maxUnpacked : ℕ := 200 * 1024 * 1024

structure UpdateArgs where
  check : Bool
  dryRun : Bool
  yes : Bool
  version : Option String

structure Asset where
  name : String

structure Release where
  tagName : String
  draft : Bool
  prerelease : Bool
  assets : List Asset

/-- The `semver` crate. -/
structure Semver (V : Type) where
  parse : String → Except String V
  display : V → String
  preIsEmpty : V → Bool
  buildIsEmpty : V → Bool

/-- The bytes of an archive entry as `io::copy` gets them to the file, and the error that ends the
copy, if one does. -/
structure Reading where
  bytes : List UInt8
  failure : Option String
  deriving DecidableEq

/-- The result of a copy of at most `limit` bytes, which is over before an error after them. -/
def Reading.copied (reader : Reading) (limit : ℕ) : Except String Unit :=
  match reader.failure with
  | some error => ensure (limit ≤ reader.bytes.length) error
  | none => .ok ()

/-- What `unpack_binary` asks of an entry of a `zip::ZipArchive`. -/
structure ZipEntry where
  name : String
  unixMode : Option ℕ
  isFile : Bool
  content : Reading

/-- What `unpack_binary` asks of an entry of a `tar::Archive`. -/
structure TarEntry where
  pathBytes : List UInt8
  isFile : Bool
  content : Reading

/-- What a program that has exited leaves; `stdout` is read with `from_utf8_lossy`. -/
structure Output where
  success : Bool
  stdout : String

structure World where
  files : Files
  printed : List String
  replacements : List (List UInt8)

end Update

open Update

/-- The surroundings of the updater.  The outer error of a request is that of `call`, the inner one
that of reading a body of at most that many bytes. -/
structure Updater (V : Type) where
  semver : Semver V
  os : String
  arch : String
  targetEnv : String
  packageVersion : String
  fetchRelease : String → ℕ → Except String (Except String Release)
  fetch : String → ℕ → Except String (Except String (List UInt8))
  sha256 : List UInt8 → List UInt8
  /-- `ZipArchive::new`, then `by_index` of each entry. -/
  zipEntries : List UInt8 → Except String (List (Except String ZipEntry))
  /-- The entries of the decompressed archive, of which at most that many bytes are read. -/
  tarEntries : List UInt8 → ℕ → Except String (List (Except String TarEntry))
  currentExe : Except String Path
  displayPath : Path → String
  isTerminal : Bool
  flush : Except String Unit
  readLine : Except String String
  /-- The name of a new directory. -/
  tempdirIn : Path → Files → Except String String
  /-- What is left when a temporary directory goes out of scope. -/
  removeDir : Path → Files → Files
  openNew : Path → Except String Unit
  syncAll : Path → Except String Unit
  setPermissions : Path → Except String Unit
  /-- Running an executable file with `--version`. -/
  execute : List UInt8 → Except String Output
  /-- `self_replace`, given the path of the candidate. -/
  selfReplace : Path → Files → Except String Unit × Files

namespace Update

/-- A fallible program over the file system and the standard output. -/
abbrev UpdateM := EStateM String World

def print (line : String) : UpdateM Unit :=
  modify fun w => { w with printed := w.printed ++ [line] }

end Update

namespace Updater

variable {V : Type} (U : Updater V)

/-! ## Release metadata -/

def parseVersion (text : String) : Except String V := do
  let version ← withContext (U.semver.parse (stripChar 'v' text))
    "expected a semantic version such as 0.0.1 or v0.0.1"
  ensure (U.semver.buildIsEmpty version) "release versions must not contain build metadata"
  return version

/-- `--version`, if it was given. -/
def requested (args : UpdateArgs) : Except String (Option V) :=
  match args.version with
  | none => .ok none
  | some text => (U.parseVersion text).map some

def platform : Except String String :=
  match U.os, U.arch with
  | "macos", "aarch64" => .ok "macos-arm64"
  | "macos", "x86_64" => .ok "macos-x86_64"
  | "linux", "x86_64" =>
    if U.targetEnv = "gnu" then .ok "linux-x86_64"
    else .error "no prebuilt release for this platform; update from source"
  | "windows", "x86_64" =>
    if U.targetEnv = "msvc" then .ok "windows-x86_64"
    else .error "no prebuilt release for this platform; update from source"
  | _, _ => .error "no prebuilt release for this platform; update from source"

def archiveName (version : V) (platform : String) : String :=
  let extension := if startsWith platform "windows-" then "zip" else "tar.gz"
  "ovpnlane-" ++ U.semver.display version ++ "-" ++ platform ++ "." ++ extension

def requireAsset (release : Release) (name : String) : Except String Unit :=
  ensure ((release.assets.filter (·.name == name)).length == 1)
    ("release " ++ release.tagName ++ " must contain exactly one " ++ name ++ " asset")

/-- The check of the version against the requested one, or against none. -/
def requireSelected [DecidableEq V] (release : Release) (version : V) :
    Option V → Except String Unit
  | some requested =>
    ensure (requested = version) "GitHub returned a different release than requested"
  | none =>
    ensure (!release.prerelease && U.semver.preIsEmpty version) "latest release is not stable"

/-- `validate_release`. -/
def validateRelease [DecidableEq V] (release : Release) (requested : Option V) (platform : String) :
    Except String (V × String) := do
  ensure (!release.draft) "cannot install a draft release"
  let version ← U.parseVersion release.tagName
  ensure (release.tagName == "v" ++ U.semver.display version) "unexpected release tag format"
  U.requireSelected release version requested
  let archive := U.archiveName version platform
  requireAsset release archive
  requireAsset release (archive ++ ".sha256")
  return (version, archive)

/-! ## The downloaded archive -/

def download (url : String) (limit : ℕ) : Except String (List UInt8) := do
  let body ← withContext (U.fetch url limit) ("could not download " ++ url)
  withContext body "download failed or exceeded the size limit"

/-- `verify_checksum`.  The length of the first field is counted in characters, which are bytes when
all of them are hexadecimal digits. -/
def verifyChecksum (bytes manifest : List UInt8) (archive : String) : Except String Unit := do
  let text ← context (String.fromUTF8? manifest.toByteArray) "checksum is not UTF-8"
  match splitWhitespace text with
  | [expected, name] => do
    ensure (name == archive) "checksum manifest must name the selected archive"
    ensure (expected.length == 64 && expected.toList.all isHexDigit) "invalid SHA-256 checksum"
    ensure (eqIgnoreAsciiCase expected (lowerHex (U.sha256 bytes)))
      "SHA-256 checksum mismatch; executable was not replaced"
  | _ => .error "checksum manifest must name the selected archive"

def writeCandidate (reader : Reading) (output : Path) : UpdateM Unit := do
  let w ← get
  U.openNew output
  ensure (w.files output).isNone "file exists"
  let content := reader.bytes.take (maxDownload + 1)
  set { w with files := Function.update w.files output (some content) }
  reader.copied (maxDownload + 1)
  ensure (0 < content.length && content.length ≤ maxDownload) "invalid executable size"
  U.syncAll output

end Updater

namespace Update

/-- What the loops of `unpack_binary` ask of an entry: whether it has the name of the executable,
whether it is a regular file, and its bytes. -/
structure Presented where
  named : Bool
  regular : Bool
  content : Reading
  deriving DecidableEq

/-- For a zip archive the Unix mode, if there is one, has to be that of a regular file too. -/
def ZipEntry.presented (name : String) (entry : ZipEntry) : Presented where
  named := entry.name == name
  regular :=
    let mode := entry.unixMode.getD 0 &&& 0o170000
    entry.isFile && (mode == 0 || mode == 0o100000)
  content := entry.content

def TarEntry.presented (name : String) (entry : TarEntry) : Presented where
  named := entry.pathBytes == name.toUTF8.data.toList
  regular := entry.isFile
  content := entry.content

end Update

namespace Updater

variable {V : Type} (U : Updater V)

/-- One iteration of either loop of `unpack_binary`. -/
def unpackEntry (output : Path) (found : Bool) (entry : Except String Presented) :
    UpdateM Bool := do
  let entry ← entry
  if entry.named then
    ensure entry.regular "release binary must be a regular file"
    ensure (!found) "duplicate executable in release archive"
    U.writeCandidate entry.content output
    return true
  else return found

/-- The name of the executable in an archive. -/
def binaryName (windows : Bool) : String := if windows then "ovpnlane.exe" else "ovpnlane"

/-- The entries of a downloaded archive, as its reader presents them. -/
def entries (bytes : List UInt8) (windows : Bool) :
    Except String (List (Except String Presented)) :=
  if windows then
    (U.zipEntries bytes).map (·.map fun entry => entry.map (·.presented (binaryName true)))
  else
    (U.tarEntries bytes maxUnpacked).map
      (·.map fun entry => entry.map (·.presented (binaryName false)))

/-- `cfg(unix)` only. -/
def makeExecutable (output : Path) : Except String Unit :=
  if U.os = "windows" then .ok () else U.setPermissions output

def unpackBinary (bytes : List UInt8) (windows : Bool) (destination : Path) : UpdateM Path := do
  let output := destination ++ [binaryName windows]
  let entries ← U.entries bytes windows
  let found ← entries.foldlM (U.unpackEntry output) false
  ensure found ("release archive does not contain " ++ binaryName windows)
  U.makeExecutable output
  return output

/-! ## `run` -/

/-- The confirmation: `--yes`, or an interactive answer. -/
def confirm (args : UpdateArgs) : UpdateM Bool := do
  if args.yes then return true
  else
    ensure U.isTerminal "use --yes for a non-interactive update"
    print "Continue? [y/N] "
    U.flush
    let answer ← U.readLine
    return ["y", "yes"].contains (toAsciiLowercase (trim answer))

/-- The candidate is run and has to report the version. -/
def runCandidate (candidate : Path) (available : V) : UpdateM Unit := do
  let w ← get
  let content ← context (w.files candidate) "downloaded binary cannot run on this system"
  let output ← withContext (U.execute content) "downloaded binary cannot run on this system"
  ensure (output.success && trim output.stdout == "ovpnlane " ++ U.semver.display available)
    "downloaded binary did not report the expected version"

def replace (candidate : Path) : UpdateM Unit := do
  let w ← get
  let (result, files) := U.selfReplace candidate w.files
  set { w with
    files
    replacements := w.replacements ++ (w.files candidate).toList }
  withContext result "could not replace the executable; installation was not completed"

/-- `run` with the staging directory in place. -/
def installIn (staging : Path) (release : Release) (available : V) (archive target : String) :
    UpdateM Unit := do
  let url := downloads ++ "/" ++ release.tagName ++ "/" ++ archive
  let bytes ← U.download url maxDownload
  let checksum ← U.download (url ++ ".sha256") 4096
  U.verifyChecksum bytes checksum archive
  let candidate ← U.unpackBinary bytes (startsWith target "windows-") staging
  U.runCandidate candidate available
  U.replace candidate

/-- `run` after the confirmation. -/
def install (executable : Path) (release : Release) (available : V) (archive target : String) :
    UpdateM Unit := do
  let directory ← context (if executable.isEmpty then none else some executable.dropLast)
    "executable has no parent directory"
  let w ← get
  let name ← withContext (U.tempdirIn directory w.files)
    "installation directory is not writable; install OvpnLane in a user-writable directory"
  clearing (fun w => { w with files := U.removeDir (directory ++ [name]) w.files })
    (U.installIn (directory ++ [name]) release available archive target)

/-- The request for the release metadata. -/
def release (requested : Option V) : Except String Release := do
  let suffix := match requested with
    | none => "latest"
    | some version => "tags/v" ++ U.semver.display version
  let body ← withContext (U.fetchRelease (api ++ "/" ++ suffix) (2 * 1024 * 1024))
    "could not query GitHub Releases (check connectivity or API rate limits)"
  withContext body "invalid GitHub release metadata"

def run [LinearOrder V] (args : UpdateArgs) : UpdateM Unit := do
  let target ← U.platform
  let requested ← U.requested args
  let release ← U.release requested
  let (available, archive) ← U.validateRelease release requested target
  let current ← U.semver.parse U.packageVersion
  print ("Installed: " ++ U.semver.display current ++ "; selected release: " ++
    U.semver.display available ++ "; platform: " ++ target)
  if args.check then
    print (if current < available then "An update is available." else
      "No newer version is available.")
  else if requested.isNone && decide (available ≤ current) then
    print "OvpnLane is up to date."
  else
    let executable ← withContext U.currentExe "could not locate the running executable"
    print ("Install " ++ U.semver.display available ++ " at " ++ U.displayPath executable)
    if args.dryRun then return
    else if ← U.confirm args then
      U.install executable release available archive target
      print ("Updated OvpnLane from " ++ U.semver.display current ++ " to " ++
        U.semver.display available ++ ".")
    else print "Update cancelled."

end Updater

end Ovpnlane
