import Ovpnlane.Construction.Installer
import Ovpnlane.Construction.Update
import Ovpnlane.Framework.Script

/-!
# The installer

`install.sh`, command by command.  `Tools` is what it runs on: the machine, the network, `awk`, and
the downloaded binary as a program.  `State` is the file system with the two variables the trap
reads and the traps that are set; `$work_dir` and `$staged_binary` are expanded where a command
names them, as the shell does it.

`act` is what a command does when it works.  `shell` is all it may do: every command that is not
built into the shell may fail, with whatever it has written by then (`May`) or with all of its work
done, and in a pipeline a failure of the first command is an empty output.  A file is renamed in one
step, or not at all.  Paths are absolute, and symbolic links on the way to a directory are not
followed.
-/

namespace Ovpnlane

open Text

namespace Installer

inductive Node
  | file (content : List UInt8) (executable : Bool)
  | directory
  /-- A symbolic link, and whether it leads to a file or to a directory. -/
  | link (file directory : Bool)
  deriving DecidableEq

/-- A word that is expanded to a path. -/
inductive Place
  /-- A file in `$install_dir`, or the directory itself. -/
  | path (path : Path)
  /-- `$work_dir`, or a file in it. -/
  | work (rest : Path)
  | staged

structure State where
  files : Path → Option Node
  workDir : Option Path
  /-- `staged_binary`, `none` if it is empty. -/
  staged : Option Path
  exitTrap : Bool
  signalTrap : Bool
  printed : List String

structure Tools where
  commands : String → Bool
  uname : String → Option String
  /-- `ldd --version 2>&1 | grep -qi musl`. -/
  lddMusl : Bool
  /-- `url_effective` of the request for the latest release. -/
  latest : Option String
  serve : String → Option (List UInt8)
  awk : Awk
  /-- A file as `awk` reads it. -/
  text : List UInt8 → String
  sha256 : List UInt8 → List UInt8
  length_sha256 : ∀ content, (sha256 content).length = 32
  /-- A path as `sha256sum` or `shasum` writes it, and whether it is escaped. -/
  written : String → Path → Bool × String
  /-- The member `ovpnlane` of an archive. -/
  extract : List UInt8 → Option Node
  /-- What a binary prints for `--version`, if it runs. -/
  report : List UInt8 → Option String
  writable : Path → Bool
  /-- The name `mktemp` finds for a template in a directory. -/
  mktemp : String → Path → (Path → Option Node) → Option String
  displayPath : Path → String

structure Environment where
  /-- `OVPNLANE_VERSION`, unless it is empty. -/
  version : Option String
  /-- `OVPNLANE_INSTALL_DIR`, unless it is empty. -/
  installDir : Option Path
  /-- `HOME`, where the empty path is the root. -/
  home : Option Path
  /-- `TMPDIR`, unless it is empty. -/
  tmpDir : Option Path
  path : String

inductive Command
  | commandV (name : String)
  | uname (flag : String)
  | isPresent (path : Path)
  | lddMusl
  | resolveLatest
  | grepVersion (text : String)
  | grepDigest (text : String)
  | printf (text : String)
  | mktempDir (dir : Path)
  | mktempFile (dir : Path)
  | clearStaged
  | trapExit
  | trapSignals
  | fetch (url : String) (out : Place)
  | awkExpected (name : String) (file : Place)
  /-- `sha256sum` or `shasum -a 256`, and the first field of what it writes. -/
  | digest (tool : String) (file : Place)
  | tar (archive dir : Place)
  | isFile (place : Place)
  | isLink (place : Place)
  | isDirectory (place : Place)
  | isWritable (path : Path)
  | chmod (place : Place)
  | reportVersion (place : Place)
  | mkdir (dir : Path)
  | cat (src dst : Place)
  | mv (src dst : Place)
  | rmDir (place : Place)
  | stagedSet
  | rm (place : Place)

namespace State

variable (s : State)

def resolve : Place → Path
  | .path path => path
  | .work rest => s.workDir.getD [] ++ rest
  | .staged => s.staged.getD []

/-- The content of a file that is read. -/
def content (place : Place) : Option (List UInt8) :=
  match s.files (s.resolve place) with
  | some (.file content _) => some content
  | _ => none

def write (place : Place) (node : Option Node) : State :=
  { s with files := Function.update s.files (s.resolve place) node }

end State

namespace Command

/-- Whether a command is built in and cannot fail. -/
def builtin : Command → Bool
  | .commandV _ | .isPresent _ | .isFile _ | .isLink _ | .isDirectory _ | .isWritable _ | .stagedSet
  | .clearStaged | .trapExit | .trapSignals => true
  | _ => false

/-- Whether the status of a command is that of the last one in a pipeline. -/
def piped : Command → Bool
  | .digest .. => true
  | _ => false

end Command

/-- A test, or another command without an output. -/
def status (condition : Bool) : Except ℕ String := if condition then .ok "" else .error 1

/-- An output, if there is one. -/
def printing (output : Option String) : Except ℕ String := output.elim (.error 1) .ok

/-- Whether `mkdir -p` can make a directory. -/
def passable (files : Path → Option Node) (dir : Path) : Bool :=
  dir.inits.all fun path =>
    match files path with
    | some (.file ..) => false
    | some (.link _ directory) => directory
    | some .directory | none => true

/-- `awk '{print $1}'`. -/
def firstFields (text : String) : String :=
  String.ofList ((text.toList.splitOn '\n').dropLast.flatMap fun line =>
    (fields isBlank line).headD [] ++ ['\n'])

namespace Tools

variable (T : Tools)

/-- What `sha256sum` or `shasum` writes: a backslash begins a line with an escaped name. -/
def sums (tool : String) (path : Path) (digest : String) : String :=
  (if (T.written tool path).1 then "\\" else "") ++ digest ++ "  " ++
  (T.written tool path).2 ++ "\n"

def actual (tool : String) (path : Path) (content : List UInt8) : String :=
  commandSubstitution (firstFields (T.sums tool path (lowerHex (T.sha256 content))))

/-- The path that `mktemp` makes for a template in a directory. -/
def Makes (template : String) (dir : Path) (s : State) (path : Path) : Prop :=
  ∃ name, T.mktemp template dir s.files = some name ∧ path = dir ++ [name]

/-- A command that works, and one that fails before it has done anything. -/
def act : Command → State → Except ℕ String × State
  | .commandV name, s => (status (T.commands name), s)
  | .uname flag, s => (printing (T.uname flag), s)
  | .isPresent path, s => (status (s.files path).isSome, s)
  | .lddMusl, s => (status T.lddMusl, s)
  | .resolveLatest, s => (printing T.latest, s)
  | .grepVersion text, s => (status (checkVersion text), s)
  | .grepDigest text, s => (status (text.length == 64 && text.toList.all isHexDigit), s)
  | .printf text, s => (.ok "", { s with printed := s.printed ++ [text] })
  | .mktempDir dir, s =>
    match T.mktemp "ovpnlane-install." dir s.files with
    | some name => (.ok "", { s with
        files := Function.update s.files (dir ++ [name]) (some .directory)
        workDir := some (dir ++ [name]) })
    | none => (.error 1, s)
  | .mktempFile dir, s =>
    match T.mktemp ".ovpnlane-install." dir s.files with
    | some name => (.ok "", { s with
        files := Function.update s.files (dir ++ [name]) (some (.file [] false))
        staged := some (dir ++ [name]) })
    | none => (.error 1, s)
  | .clearStaged, s => (.ok "", { s with staged := none })
  | .trapExit, s => (.ok "", { s with exitTrap := true })
  | .trapSignals, s => (.ok "", { s with signalTrap := true })
  | .fetch url out, s =>
    match T.serve url with
    | some body => (.ok "", s.write out (some (.file body false)))
    | none => (.error 22, s)
  | .awkExpected name file, s => (printing ((s.content file).map (T.awk.expected name ∘ T.text)), s)
  | .digest tool file, s =>
      (.ok (((s.content file).map (T.actual tool (s.resolve file))).getD ""), s)
  | .tar archive dir, s =>
    match (s.content archive).bind T.extract with
    | some node =>
      (.ok "", { s with
        files := Function.update s.files (s.resolve dir ++ ["ovpnlane"]) (some node) })
    | none => (.error 2, s)
  | .isFile place, s =>
    (status (match s.files (s.resolve place) with
      | some (.file ..) => true
      | some (.link file _) => file
      | _ => false), s)
  | .isLink place, s =>
    (status (match s.files (s.resolve place) with
      | some (.link ..) => true
      | _ => false), s)
  | .isDirectory place, s =>
    (status (match s.files (s.resolve place) with
      | some .directory => true
      | some (.link _ directory) => directory
      | _ => false), s)
  | .isWritable path, s => (status (T.writable path), s)
  | .chmod place, s =>
    match s.files (s.resolve place) with
    | some (.file content _) => (.ok "", s.write place (some (.file content true)))
    | some _ => (.ok "", s)
    | none => (.error 1, s)
  | .reportVersion place, s =>
    match s.files (s.resolve place) with
    | some (.file content true) => (printing (T.report content), s)
    | _ => (.error 126, s)
  | .mkdir dir, s =>
    if passable s.files dir then
      (.ok "", { s with files := fun path =>
        if path <+: dir ∧ s.files path = none then some .directory else s.files path })
    else (.error 1, s)
  | .cat src dst, s =>
    match s.content src with
    | some content =>
      let executable := match s.files (s.resolve dst) with
        | some (.file _ executable) => executable
        | _ => false
      (.ok "", s.write dst (some (.file content executable)))
    | none => (.error 1, s)
  | .mv src dst, s =>
    match s.files (s.resolve src) with
    | some node =>
      -- `mv` moves a file into a directory.
      let target := if s.files (s.resolve dst) = some .directory then
          s.resolve dst ++ (s.resolve src).getLast?.toList
        else s.resolve dst
      (.ok "", { s with
        files := Function.update (Function.update s.files (s.resolve src) none) target
          (some node) })
    | none => (.error 1, s)
  | .rmDir place, s =>
    (.ok "", { s with
      files := fun path => if s.resolve place <+: path then none else s.files path })
  | .stagedSet, s => (status s.staged.isSome, s)
  | .rm place, s =>
    if s.files (s.resolve place) = some .directory then (.error 1, s)
    else (.ok "", s.write place none)

end Tools

/-- What a command that fails or is killed may have written. -/
def May (T : Tools) (s : State) : Command → Path → Option Node → Prop
  -- The name has not come back to the script then.
  | .mktempDir dir, path, node => T.Makes "ovpnlane-install." dir s path ∧ node = some .directory
  | .mktempFile dir, path, node =>
    T.Makes ".ovpnlane-install." dir s path ∧ node = some (.file [] false)
  | .fetch _ out, path, _ | .cat _ out, path, _ | .chmod out, path, _ => path = s.resolve out
  | .tar _ dir, path, _ => s.resolve dir ++ ["ovpnlane"] <+: path
  | .mkdir dir, path, node => path <+: dir ∧ s.files path = none ∧ node = some .directory
  | .rmDir place, path, node => s.resolve place <+: path ∧ node = none
  | .rm place, path, node => path = s.resolve place ∧ node = none
  | _, _, _ => False

/-- From one state to another one by a part of a command. -/
def Partly (T : Tools) (c : Command) (s t : State) : Prop :=
  t = { s with files := t.files } ∧
    ∀ path, t.files path = s.files path ∨ May T s c path (t.files path)

/-! ## The script -/

open Script

def releaseRoot : String := "https://github.com/debba/ovpnlane/releases"

def die {α : Type} (message : String) : Script Command α := do
  let _ ← run (.printf ("ovpnlane installer: " ++ message))
  .exit 1

def orDie (c : Command) (message : String) : Script Command Unit := do
  if !(← succeeds c) then die message

def unlessDie (c : Command) (message : String) : Script Command Unit := do
  if ← succeeds c then die message

def requiredTools : List String :=
  ["curl", "uname", "tar", "awk", "grep", "mktemp", "mkdir", "chmod", "mv"]

def platform : Script Command String := do
  let system ← outputOf (.uname "-s")
  let machine ← outputOf (.uname "-m")
  match system ++ ":" ++ machine with
  | "Darwin:arm64" | "Darwin:aarch64" => return "macos-arm64"
  | "Darwin:x86_64" => return "macos-x86_64"
  | "Linux:x86_64" | "Linux:amd64" => return "linux-x86_64"
  | _ => die "no prebuilt archive for this system; see the README for source builds and Windows downloads"

/-- Whether the C library is musl. -/
def usesMusl : Script Command Bool := do
  if ← succeeds (.isPresent ["etc", "alpine-release"]) then return true
  else if ← succeeds (.commandV "ldd") then succeeds .lddMusl
  else return false

def checkLibc (platform : String) : Script Command Unit := do
  if platform = "linux-x86_64" then
    if ← usesMusl then die "this release requires glibc; build from source on musl/Alpine"

def afterLastSlash (url : String) : String :=
  String.ofList (url.toList.reverse.takeWhile (· != '/')).reverse

def requestedVersion (E : Environment) : String := E.version.getD "latest"

/-- `${OVPNLANE_INSTALL_DIR:-"$HOME/.local/bin"}`, which fails if `HOME` is not set. -/
def installDir (E : Environment) : Option Path :=
  match E.installDir with
  | some dir => some dir
  | none => E.home.map (· ++ [".local", "bin"])

def selectTag (requested : String) : Script Command String := do
  if requested = "latest" then
    let resolved ← run .resolveLatest
    if startsWith resolved (releaseRoot ++ "/tag/v") then return afterLastSlash resolved
    else die "could not resolve the latest GitHub release"
  else return "v" ++ stripChar 'v' requested

abbrev archiveFile : Place := .work ["archive.tar.gz"]

abbrev checksumFile : Place := .work ["checksum"]

abbrev binaryFile : Place := .work ["ovpnlane"]

/-- The digest of the archive, by the tool that is there. -/
def actualDigest : Script Command String := do
  if ← succeeds (.commandV "sha256sum") then run (.digest "sha256sum" archiveFile)
  else if ← succeeds (.commandV "shasum") then run (.digest "shasum" archiveFile)
  else die "sha256sum or shasum is required"

/-- From the downloads to the comparison of the digests. -/
def fetchArchive (tag name : String) : Script Command Unit := do
  let url := releaseRoot ++ "/download/" ++ tag ++ "/" ++ name
  let _ ← run (.fetch url archiveFile)
  let _ ← run (.fetch (url ++ ".sha256") checksumFile)
  let expected ← run (.awkExpected name checksumFile)
  orDie (.grepDigest expected) "invalid SHA-256 manifest"
  let actual ← actualDigest
  if expected ≠ actual then die "SHA-256 checksum mismatch; installation was not changed"

/-- From the extraction to the check of the version. -/
def unpack (version : String) : Script Command Unit := do
  let _ ← run (.tar archiveFile (.work []))
  orDie (.isFile binaryFile) "archive does not contain a regular ovpnlane executable"
  unlessDie (.isLink binaryFile) "archive does not contain a regular ovpnlane executable"
  let _ ← run (.chmod binaryFile)
  match ← .command (.reportVersion binaryFile) (fun result => .done result.toOption) with
  | none => die "binary cannot run on this system; see platform requirements in README"
  | some reported =>
    if reported ≠ "ovpnlane " ++ version then
      die "binary version does not match the selected release"

/-- From the install directory to the renaming. -/
def putInPlace (T : Tools) (dir : Path) : Script Command Unit := do
  let target : Place := .path (dir ++ ["ovpnlane"])
  orDie (.mkdir dir)
    ("cannot create " ++ T.displayPath dir ++ "; choose a writable OVPNLANE_INSTALL_DIR")
  orDie (.isWritable dir) ("cannot write to " ++ T.displayPath dir)
  unlessDie (.isLink target)
    "installation target is a symlink; choose a directory containing a regular executable"
  unlessDie (.isDirectory target) "installation target is a directory"
  let _ ← run (.mktempFile dir)
  let _ ← run (.cat binaryFile .staged)
  let _ ← run (.chmod .staged)
  let _ ← run (.mv .staged target)
  let _ ← run .clearStaged

/-- The script behind the tests of the machine and the version. -/
def download (T : Tools) (E : Environment) (dir : Path) (tag version platform : String) :
    Script Command Unit := do
  let _ ← run (.mktempDir (E.tmpDir.getD ["tmp"]))
  let _ ← run .clearStaged
  let _ ← run .trapExit
  let _ ← run .trapSignals
  let _ ← run (.printf ("Downloading OvpnLane " ++ version ++ " for " ++ platform ++ "..."))
  fetchArchive tag (archiveName version platform)
  unpack version
  putInPlace T dir
  let _ ← run (.printf ("Installed " ++ T.displayPath (dir ++ ["ovpnlane"])))
  let _ ← run (.printf "Check for updates: ovpnlane update --check")
  if !contains (":" ++ E.path ++ ":") (":" ++ T.displayPath dir ++ ":") then
    let _ ← run (.printf ("Add this directory to PATH: " ++ T.displayPath dir))

def install (T : Tools) (E : Environment) : Script Command Unit :=
  match installDir E with
  | none => .exit 1
  | some dir => do
    requiredTools.forM fun tool => orDie (.commandV tool) ("missing required command: " ++ tool)
    let platform ← platform
    checkLibc platform
    let tag ← selectTag (requestedVersion E)
    let version := stripChar 'v' tag
    orDie (.grepVersion version) "invalid release version; use a version such as 0.0.1"
    download T E dir tag version platform

def cleanup : Script Command Unit := do
  let _ ← run (.rmDir (.work []))
  if ← succeeds .stagedSet then
    let _ ← run (.rm .staged)

/-- All that the commands may do. -/
def shell (T : Tools) : Shell Command State where
  during c s t := Partly T c s t ∨ t = { s with files := (T.act c s).2.files }
  ends c s result t :=
    (result, t) = T.act c s ∨
      (c.builtin = false ∧ (∃ n, result = .error (n + 1)) ∧
        (Partly T c s t ∨ t = (T.act c s).2)) ∨
      (c.piped = true ∧ result = .ok "" ∧ t = s)
  trapped s := s.signalTrap
  onExit s := if s.exitTrap then some cleanup else none

end Installer

end Ovpnlane
