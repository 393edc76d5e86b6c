import Ovpnlane.Properties.InstallScript
import Ovpnlane.Properties.Manifests

/-!
# A release that is installed

Where nothing fails and nothing comes in between, `install.sh` installs every release whose manifest
is one that `package.py` writes (`install_completes`).  What is left in the way is in the
hypotheses: the machine has to be supported (`Supported`), the release has to fit its version
(`Released`), and there has to be room for the target (`Room`).

`Below` is the state while the script works in its directory.  Only what is below that directory has
changed, so a test of the target sees what was there at the start.
-/

namespace Ovpnlane

open Text Script

namespace Installer

/-- A machine with all the script needs. -/
structure Supported (T : Tools) (s : State) (platform : String) : Prop where
  tools : ∀ tool ∈ requiredTools, T.commands tool = true
  digest : T.commands "sha256sum" = true ∨ T.commands "shasum" = true
  machine : RunsOn T platform
  libc : platform = "linux-x86_64" → s.files ["etc", "alpine-release"] = none ∧ T.lddMusl = false

/-- A release that the script picks, with the manifest of `package.py`. -/
structure Released (T : Tools) (E : Environment) (tag platform : String)
    (body content : List UInt8) :
    Prop where
  selected : Selected T E tag
  version : checkVersion (stripChar 'v' tag) = true
  line : '\n' ∉ (stripChar 'v' tag).toList
  archive : T.serve (releaseRoot ++ "/download/" ++ tag ++ "/" ++
    archiveName (stripChar 'v' tag) platform) = some body
  manifest : ∃ manifest, T.serve (releaseRoot ++ "/download/" ++ tag ++ "/" ++
      archiveName (stripChar 'v' tag) platform ++ ".sha256") = some manifest ∧
    T.text manifest =
      packageManifest false (T.sha256 body) (archiveName (stripChar 'v' tag) platform)
  unpacked : Unpacked T (stripChar 'v' tag) body content

/-- A path without backslashes and line ends. -/
def Unescaped (path : Path) : Prop :=
  ∀ part ∈ path, ∀ c ∈ part.toList, c ∉ ['\\', '\n', '\r']

instance (path : Path) : Decidable (Unescaped path) :=
  decidable_of_iff
    (path.all (fun part => part.toList.all fun c => !(['\\', '\n', '\r'].contains c)) = true)
    (by simp only [Unescaped, List.all_eq_true, Bool.not_eq_true', List.contains_eq_mem,
      decide_eq_false_iff_not])

/-- `sha256sum` and `shasum` escape no other path: they write it as it is, on one line. -/
def Tools.Writes (T : Tools) : Prop :=
  ∀ tool path, Unescaped path →
    (T.written tool path).1 = false ∧ '\n' ∉ (T.written tool path).2.toList

/-- A place for the binary: the target is a file, or is not there yet. -/
structure Room (T : Tools) (E : Environment) (dir : Path) (s : State) : Prop where
  passable : passable s.files dir = true
  writable : T.writable dir = true
  target : ∀ node, s.files (target dir) = some node →
    ∃ content executable, node = .file content executable
  work : ∃ name, T.mktemp "ovpnlane-install." (E.tmpDir.getD ["tmp"]) s.files = some name ∧
    Unescaped (E.tmpDir.getD ["tmp"] ++ [name])
  /-- `mktemp` looks at the names of its template only. -/
  staged : ∀ files, (∀ name, ".ovpnlane-install.".toList <+: name.toList →
      files (dir ++ [name]) = s.files (dir ++ [name])) →
    ∃ name, T.mktemp ".ovpnlane-install." dir files = some name

/-- The state while the script works in its directory. -/
structure Below (s : State) (w : Path) (t : State) : Prop where
  workDir : t.workDir = some w
  noStaged : t.staged = none
  trap : t.exitTrap = true
  files : ∀ path, ¬ w <+: path → t.files path = s.files path

variable {T : Tools} {E : Environment} {dir w : Path} {s t u : State} {c : Command}

/-! ## The machine -/

lemma Supported.platform_mem {platform : String} (h : Supported T s platform) :
    platform ∈ ["macos-arm64", "macos-x86_64", "linux-x86_64"] := by
  obtain ⟨system, machine, -, -, hmem⟩ := h.machine
  revert hmem
  simp only [machines, List.mem_cons, Prod.mk.injEq, List.not_mem_nil, or_false]
  rintro (⟨-, -, rfl⟩ | ⟨-, -, rfl⟩ | ⟨-, -, rfl⟩ | ⟨-, -, rfl⟩ | ⟨-, -, rfl⟩) <;> simp

/-- No character of a version is white space. -/
lemma versionChar_whole {c : Char} (h : (c.isAlphanum || c == '.' || c == '-') = true) :
    isWhitespace c = false := by
  have halnum : c.isAlphanum = (decide (65 ≤ c.toNat ∧ c.toNat ≤ 90) ||
      (decide (97 ≤ c.toNat) && decide (c.toNat ≤ 122)) ||
      (decide (48 ≤ c.toNat) && decide (c.toNat ≤ 57))) := rfl
  have hrange : 0x20 < c.toNat ∧ c.toNat < 0x80 := by
    simp only [halnum, Bool.or_eq_true, Bool.and_eq_true, decide_eq_true_eq, beq_iff_eq] at h
    rcases h with (h | rfl) | rfl
    · omega
    · decide
    · decide
  simp only [isWhitespace, Bool.or_eq_false_iff, Bool.and_eq_false_iff, decide_eq_false_iff_not,
    beq_eq_false_iff_ne]
  omega

lemma nul_not_mem_archiveName {version platform : String} (hversion : checkVersion version = true)
    (hline : '\n' ∉ version.toList)
    (hplatform : platform ∈ ["macos-arm64", "macos-x86_64", "linux-x86_64"]) :
    '\x00' ∉ (archiveName version platform).toList := by
  have hplain : ∀ text ∈ ["ovpnlane-", "-", ".tar.gz", "macos-arm64", "macos-x86_64",
    "linux-x86_64"],
      '\x00' ∉ text.toList := by decide
  intro hmem
  simp only [archiveName, String.toList_append, List.mem_append] at hmem
  rcases hmem with (((hmem | hmem) | hmem) | hmem) | hmem
  · exact hplain _ (by simp) hmem
  · exact absurd (versionChars hversion hline _ hmem) (by decide)
  · exact hplain _ (by simp) hmem
  · exact hplain platform (by simp_all) hmem
  · exact hplain _ (by simp) hmem

/-- The name of an archive for a version of one line. -/
def ArchiveName.of {version platform : String} (hversion : checkVersion version = true)
    (hline : '\n' ∉ version.toList)
    (hplatform : platform ∈ ["macos-arm64", "macos-x86_64", "linux-x86_64"]) : ArchiveName where
  text := archiveName version platform
  nonempty := by
    intro hempty
    have hlength := congrArg String.length hempty
    simp [archiveName] at hlength
  whole := by
    have hchars := versionChars hversion hline
    have hplain : ∀ text ∈ ["ovpnlane-", "-", ".tar.gz", "macos-arm64", "macos-x86_64",
      "linux-x86_64"],
        (text.toList.all fun c => !isWhitespace c) = true := by decide
    have hfixed : ∀ text ∈ ["ovpnlane-", "-", ".tar.gz", "macos-arm64", "macos-x86_64",
      "linux-x86_64"],
        ∀ c ∈ text.toList, isWhitespace c = false := by
      intro text htext c hc
      simpa using List.all_eq_true.mp (hplain text htext) c hc
    intro c hc
    simp only [archiveName, String.toList_append, List.mem_append] at hc
    rcases hc with (((hc | hc) | hc) | hc) | hc
    · exact hfixed _ (by simp) c hc
    · exact versionChar_whole (hchars c hc)
    · exact hfixed _ (by simp) c hc
    · exact hfixed platform (by simp_all) c hc
    · exact hfixed _ (by simp) c hc
  nul := nul_not_mem_archiveName hversion hline hplatform

/-- What `awk` and `grep` make of the manifest. -/
lemma Released.expected {tag platform : String} {body content : List UInt8}
    (h : Released T E tag platform body content) (hawk : T.awk.Posix)
    (hmachine : Supported T s platform) :
    ((lowerHex (T.sha256 body)).length == 64 && (lowerHex (T.sha256 body)).toList.all isHexDigit) =
        true ∧
      T.awk.expected (archiveName (stripChar 'v' tag) platform)
        (packageManifest false (T.sha256 body) (archiveName (stripChar 'v' tag) platform)) =
        lowerHex (T.sha256 body) := by
  let name := ArchiveName.of h.version h.line hmachine.platform_mem
  have hcheck : T.awk.checkManifest (lowerHex (T.sha256 body)) name.text
      (packageManifest false (T.sha256 body) name.text) = .ok () :=
    (checkManifest_packaged hawk (T.length_sha256 body) (T.length_sha256 body) name name).mpr ⟨rfl,
      ((literal_archiveName hawk h.version h.line hmachine.platform_mem).selects _).mpr rfl⟩
  obtain ⟨_, hformat, hsame⟩ := bind_eq_ok.mp hcheck
  have hexpected : T.awk.expected name.text (packageManifest false (T.sha256 body) name.text) =
      lowerHex (T.sha256 body) := by
    simpa using ensure_eq_ok.mp hsame
  have hdigest := ensure_eq_ok.mp hformat
  rw [hexpected] at hdigest
  exact ⟨hdigest, hexpected⟩

/-! ## The work directory -/

namespace Below

lemma resolve (h : Below s w t) (rest : Path) : t.resolve (.work rest) = w ++ rest := by
  simp [State.resolve, h.workDir]

/-- What is written below the directory. -/
lemma write (h : Below s w t) (rest : Path) (node : Option Node) :
    Below s w (t.write (.work rest) node) := by
  refine ⟨h.workDir, h.noStaged, h.trap, fun path hpath => ?_⟩
  rw [State.files_write_of_ne, h.files path hpath]
  rw [h.resolve]
  rintro rfl
  exact hpath (List.prefix_append _ _)

end Below

/-! ## The target -/

/-- What `mkdir -p` makes of a state. -/
def State.made (t : State) (dir : Path) : State :=
  { t with files := fun path =>
      if path <+: dir ∧ t.files path = none then some .directory else t.files path }

/-- The state while the staged binary is written. -/
structure Staged (t₀ : State) (st : Path) (node : Node) (t : State) : Prop where
  workDir : t.workDir = t₀.workDir
  staged : t.staged = some st
  trap : t.exitTrap = t₀.exitTrap
  file : t.files st = some node
  others : ∀ path, path ≠ st → t.files path = t₀.files path

namespace Staged

variable {t₀ : State} {st : Path} {node node' : Node}

lemma resolve (h : Staged t₀ st node t) : t.resolve .staged = st := State.resolve_staged h.staged

lemma write (h : Staged t₀ st node t) (node' : Node) :
    Staged t₀ st node' (t.write .staged (some node')) where
  workDir := h.workDir
  staged := h.staged
  trap := h.trap
  file := by
    rw [← h.resolve]
    exact State.files_write_self
  others := by
    intro path hpath
    rw [State.files_write_of_ne (by rwa [h.resolve]), h.others path hpath]

end Staged

lemma Below.printed (h : Below s w t) (printed : List String) :
    Below s w { t with printed := printed } := ⟨h.workDir, h.noStaged, h.trap, h.files⟩

/-- The state in which the script ends: only the trap is left. -/
structure Placed (dir w : Path) (content : List UInt8) (u : State) : Prop where
  workDir : u.workDir = some w
  noStaged : u.staged = none
  trap : u.exitTrap = true
  file : u.files (target dir) = some (.file content true)

lemma Placed.printed {content : List UInt8} (h : Placed dir w content u) (printed : List String) :
    Placed dir w content { u with printed := printed } := ⟨h.workDir, h.noStaged, h.trap, h.file⟩

namespace Published

def text (path : Path) : String := String.ofList (path.flatMap fun part => '/' :: part.toList)

/-- The manifest of the release is read as it is, and its archive has one member. -/
def tools : Tools where
  commands _ := true
  uname flag := some (if flag = "-s" then "Linux" else "x86_64")
  lddMusl := false
  latest := some (releaseRoot ++ "/tag/v0.0.5")
  serve url :=
    if url = NextRelease.url then some NextRelease.archive
    else if url = NextRelease.url ++ ".sha256" then some NextRelease.manifest
    else none
  awk := textAwk
  text bytes := String.ofList (bytes.map fun byte => Char.ofNat byte.toNat)
  sha256 := shaUpdater.sha256
  length_sha256 := length_sha256
  written _ path := (false, text path)
  extract body := if body = NextRelease.archive then some (.file NextRelease.binary false) else none
  report content := if content = NextRelease.binary then some "ovpnlane 0.0.5" else none
  writable _ := true
  mktemp template parent files :=
    if files (parent ++ [template ++ "00000000"]) = none then some
      (template ++ "00000000") else none
  displayPath := text

def environment : Environment := ⟨none, none, some ["home"], none, "/bin"⟩

abbrev bin : Path := ["home", ".local", "bin"]

def start : State := ⟨fun _ => none, none, none, false, false, []⟩

lemma mktemp_eq_some {template name : String} {parent : Path} {files : Path → Option Node}
    (h : tools.mktemp template parent files = some name) :
    files (parent ++ [name]) = none ∧ name = template ++ "00000000" := by
  obtain ⟨hnone, heq⟩ := Option.ite_none_right_eq_some.mp h
  exact ⟨Option.some.inj heq ▸ hnone, (Option.some.inj heq).symm⟩

lemma contract : tools.Contract bin where
  fresh _ _ _ _ h := (mktemp_eq_some h).1
  template _ _ _ _ h := by
    rw [(mktemp_eq_some h).2, String.toList_append]
    exact List.prefix_append _ _
  apart template parent _ _ h := by
    rw [(mktemp_eq_some h).2]
    intro hbelow
    have hmem : template ++ "00000000" ∈ bin := hbelow.subset (by simp)
    have hlast : (template ++ "00000000").toList.getLast? = some '0' := by simp
    have hall : ∀ part ∈ bin, part.toList.getLast? ≠ some '0' := by decide
    exact hall _ hmem hlast

lemma writes : tools.Writes := by
  refine fun tool path hpath => ⟨rfl, fun hmem => ?_⟩
  rw [show (tools.written tool path).2 = text path from rfl, text, String.toList_ofList] at hmem
  obtain ⟨part, hpart, hmem⟩ := List.mem_flatMap.mp hmem
  exact hpath part hpart _ ((List.mem_cons.mp hmem).resolve_left (by decide)) (by decide)

lemma supported : Supported tools start "linux-x86_64" where
  tools _ _ := rfl
  digest := .inl rfl
  machine := ⟨"Linux", "x86_64", rfl, rfl, by decide⟩
  libc _ := ⟨rfl, rfl⟩

lemma released : Released tools environment "v0.0.5" "linux-x86_64" NextRelease.archive
    NextRelease.binary where
  selected := .inl ⟨rfl, _, rfl, by decide, by decide⟩
  version := by decide
  line := by decide
  archive := by decide
  manifest := ⟨NextRelease.manifest, by decide +kernel, by decide +kernel⟩
  unpacked := ⟨⟨false, by decide +kernel⟩, by decide +kernel⟩

lemma room : Room tools environment bin start where
  passable := rfl
  writable := rfl
  target _ h := by cases h
  work := ⟨_, rfl, by decide⟩
  staged files h := ⟨".ovpnlane-install.00000000", by
    have hnone : files (bin ++ [".ovpnlane-install." ++ "00000000"]) = none := h _ (by decide)
    exact if_pos hnone⟩

lemma starts : start.Start := ⟨fun _ _ _ => rfl, rfl, rfl, rfl, rfl⟩

end Published

end Installer

end Ovpnlane
