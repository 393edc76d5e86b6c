import Ovpnlane.Construction.Connect
import Ovpnlane.Construction.Package
import Ovpnlane.Framework.Transition
import Ovpnlane.Properties.UpdateGates

/-!
# The updates of an installation

An installation is updated again and again, each time by the program that is installed then, with
whatever the network answers.  `updateSystem` is its life: a state is the file system, an action is
a run of the updater.  `ends_run` is the rule for a run: it touches no file, or it installs what it
has chosen.  So a run leaves one of two things (`Updated`), and as the version it was built as is
the one the program reports, the version of an installation never goes back unless an older one was
asked for (`updates_never_go_back`).
-/

namespace Ovpnlane

open Text Update

namespace Updater

variable {V : Type} [LinearOrder V] {U : Updater V} {args : UpdateArgs} {executable : Path}
  {release : Release} {requested : Option V} {version : V} {platform : String} {w : World}

/-! ## What a run leaves -/

/-- What is settled when a run turns to the executable. -/
structure Chosen (U : Updater V) (args : UpdateArgs) (executable : Path) (release : Release)
    (requested : Option V) (version : V) (platform : String) : Prop where
  installs : args.check = false ∧ args.dryRun = false
  confirmed : U.Confirmed args
  supported : U.platform = .ok platform
  wanted : U.requested args = .ok requested
  found : U.release requested = .ok release
  published : U.Published release requested version platform
  newer : requested = none →
    ∃ current, U.semver.parse U.packageVersion = .ok current ∧ current < version
  located : U.currentExe = .ok executable

/-- The rule for a run: it touches no file, or it installs what it has chosen. -/
lemma ends_run {ok : Unit → World → Prop} {error : String → World → Prop}
    (hleft : ∀ w', w'.files = w.files → ok () w' ∧ ∀ e, error e w')
    (hinstall : ∀ executable release requested version platform w',
      U.Chosen args executable release requested version platform → w'.files = w.files →
        Ends (U.install executable release version (U.archiveName version platform) platform) w'
          (fun _ w'' => ∀ line, ok () { w'' with printed := w''.printed ++ [line] }) error) :
    Ends (U.run args) w ok error := by
  have herror : ∀ e w', w'.files = w.files → error e w' := fun e w' h => (hleft w' h).2 e
  unfold run
  simp only [ends_bind, ends_lift]
  refine ⟨fun platform hplatform => ⟨fun requested hrequested => ⟨fun release hrelease =>
    ⟨fun selected hselected => ?_, fun e _ => herror e w rfl⟩, fun e _ => herror e w rfl⟩,
    fun e _ => herror e w rfl⟩, fun e _ => herror e w rfl⟩
  obtain ⟨version, archive⟩ := selected
  obtain ⟨hpublished, rfl⟩ := validateRelease_eq_ok hselected
  simp only [ends_print]
  refine ⟨fun current hcurrent => ?_, fun e _ => herror e _ rfl⟩
  by_cases hcheck : args.check = true
  · rw [if_pos hcheck, ends_print]
    exact (hleft _ (by rfl)).1
  rw [if_neg hcheck]
  split
  · rw [ends_print]
    exact (hleft _ (by rfl)).1
  rename_i hnewer
  simp only [ends_bind, ends_lift, ends_print]
  refine ⟨fun executable hexecutable => ?_, fun e _ => herror e _ rfl⟩
  by_cases hdry : args.dryRun = true
  · rw [if_pos hdry, ends_pure]
    exact (hleft _ (by rfl)).1
  rw [if_neg hdry, ends_bind]
  refine (ends_confirm args _).mono ?_ fun e w' hsame => herror e w' hsame.files
  rintro confirmed w' ⟨hsame, hconfirmed⟩
  cases confirmed with
  | false =>
    simp only [Bool.false_eq_true, if_false, ends_print]
    exact (hleft _ (by exact hsame.files)).1
  | true =>
    simp only [if_true, ends_bind, ends_print]
    refine (hinstall executable release requested version platform w' ?_ hsame.files).mono
      (fun _ _ h => h _) fun _ _ h => h
    refine ⟨⟨by simpa using hcheck, by simpa using hdry⟩, hconfirmed rfl, hplatform, hrequested,
      hrelease, hpublished, fun hnone => ⟨current, hcurrent, ?_⟩, withContext_eq_ok.mp hexecutable⟩
    simpa [hnone] using hnewer

/-- The files are as they were, or the executable is an admitted one of the release chosen. -/
def Updated (U : Updater V) (args : UpdateArgs) (files files' : Files) : Prop :=
  files' = files ∨ ∃ executable release requested version platform content,
    U.Chosen args executable release requested version platform ∧
      U.Admitted release version platform content ∧
      (files executable ≠ none → files' executable = some content) ∧
      ∀ path, path ≠ executable → files' path = files path

lemma ends_run_updated (C : U.Contract w.files) (args : UpdateArgs) :
    Ends (U.run args) w (fun _ w' => U.Updated args w.files w'.files)
      (fun _ w' => w'.files = w.files) := by
  refine ends_run (fun w' h => ⟨.inl h, fun _ => h⟩) ?_
  intro executable release requested version platform w' hchosen hfiles
  refine (ends_install (hfiles ▸ C) hchosen.located release version platform).mono ?_ ?_
  · rintro _ w'' ⟨content, hadmitted, -, hinstalled, hothers⟩ line
    rw [hfiles] at hinstalled hothers
    exact .inr ⟨executable, release, requested, version, platform, content, hchosen, hadmitted,
      hinstalled, hothers⟩
  · rintro _ w'' ⟨hsame, -⟩
    exact hsame.trans hfiles

end Updater

/-! ## An installation -/

namespace Update

variable {V : Type}

/-- An installation: where the executable is, and what stays the same on the machine. -/
structure Site (V : Type) where
  semver : Semver V
  execute : List UInt8 → Except String Output
  executable : Path

/-- One `ovpnlane update`, in the surroundings it meets. -/
structure Attempt (V : Type) where
  updater : Updater V
  args : UpdateArgs

/-- The files a run leaves. -/
def Attempt.leaves [LinearOrder V] (i : Attempt V) (files : Files) : Files :=
  match i.updater.run i.args ⟨files, [], []⟩ with
  | .ok _ w | .error _ w => w.files

/-- The `semver` crate reads back what it writes. -/
def Semver.RoundTrips (S : Semver V) : Prop := ∀ version, S.parse (S.display version) = .ok version

lemma Semver.RoundTrips.display_inj {S : Semver V} (h : S.RoundTrips) {v v' : V}
    (heq : S.display v = S.display v') : v = v' := by
  have hparse := h v
  rw [heq, h v'] at hparse
  exact (Except.ok.inj hparse).symm

namespace Site

variable (site : Site V)

/-- The program in these files reports the version. -/
def Holds (files : Files) (version : V) : Prop :=
  ∃ content output, files site.executable = some content ∧ site.execute content = .ok output ∧
    output.success = true ∧ trim output.stdout = "ovpnlane " ++ site.semver.display version

/-- The updater is the program that is installed, and the version it was built as is the one it
reports. -/
structure Runs (files : Files) (i : Attempt V) : Prop where
  semver : i.updater.semver = site.semver
  execute : i.updater.execute = site.execute
  located : i.updater.currentExe = .ok site.executable
  contract : i.updater.Contract files
  version : ∃ version, site.Holds files version ∧
    i.updater.packageVersion = site.semver.display version

end Site

/-- The life of an installation. -/
def updateSystem [LinearOrder V] (site : Site V) : System Files (Attempt V) where
  init files := ∃ version, site.Holds files version
  step files i files' := site.Runs files i ∧ files' = i.leaves files

namespace Site

variable {site : Site V} {files files' : Files} {version version' : V} {i : Attempt V}

/-- Two versions are not reported at once. -/
lemma Holds.unique (hS : site.semver.RoundTrips) (h : site.Holds files version)
    (h' : site.Holds files version') : version = version' := by
  obtain ⟨content, output, hfile, houtput, -, hreport⟩ := h
  obtain ⟨content', output', hfile', houtput', -, hreport'⟩ := h'
  obtain rfl := Option.some.inj (hfile.symm.trans hfile')
  obtain rfl := Except.ok.inj (houtput.symm.trans houtput')
  apply hS.display_inj
  rw [hreport] at hreport'
  exact String.append_right_inj _ |>.mp hreport'

variable [LinearOrder V]

/-- The version was asked for with `--version`. -/
def Requests (i : Attempt V) (version : V) : Prop :=
  i.updater.requested i.args = .ok (some version)

/-- What one run leaves: everything as it was, or a program that came through the gates, which is a
newer stable one or the one asked for. -/
structure Succeeds (site : Site V) (i : Attempt V) (version : V) (files files' : Files)
    (version' : V) : Prop where
  holds : site.Holds files' version'
  others : ∀ path, path ≠ site.executable → files' path = files path
  advances : files' = files ∧ version' = version ∨ version < version' ∧
    site.semver.preIsEmpty version' = true ∨ Requests i version'
  gates : files' = files ∨ ∃ content, files' site.executable = some content ∧
    i.updater.Gates i.args content

lemma updated_leaves (C : i.updater.Contract files) :
    i.updater.Updated i.args files (i.leaves files) := by
  have hends := Updater.ends_run_updated (w := ⟨files, [], []⟩) C i.args
  unfold Ends at hends
  unfold Attempt.leaves
  generalize i.updater.run i.args ⟨files, [], []⟩ = result at hends ⊢
  cases result with
  | ok _ w => exact hends
  | error _ w => exact .inl hends

/-- **One run.** -/
lemma Runs.succeeds (hS : site.semver.RoundTrips) (h : site.Runs files i)
    (hholds : site.Holds files version) :
    ∃ version', site.Succeeds i version files (i.leaves files) version' := by
  rcases updated_leaves h.contract with hsame | ⟨executable, release, requested, version', platform,
    content, hchosen, hadmitted, hinstalled, hothers⟩
  · rw [hsame]
    exact ⟨version, hholds, fun _ _ => rfl, .inl ⟨rfl, rfl⟩, .inl rfl⟩
  obtain rfl := Except.ok.inj (h.located.symm.trans hchosen.located)
  obtain ⟨old, output, hold, -⟩ := id hholds
  have hcontent := hinstalled (by simp [hold])
  have hreports := hadmitted.2
  rw [Updater.Reports, h.semver, h.execute] at hreports
  obtain ⟨output', houtput', hsuccess', hreport'⟩ := hreports
  refine ⟨version', ⟨content, output', hcontent, houtput', hsuccess', hreport'⟩, hothers, .inr ?_,
    .inr ⟨content, hcontent, hchosen.installs, hchosen.confirmed, platform, requested, release,
      version', hchosen.supported, hchosen.wanted, hchosen.found, hchosen.published, hchosen.newer,
      hadmitted⟩⟩
  rcases hchosen.published.selected with rfl | ⟨rfl, -, hstable⟩
  · exact .inr hchosen.wanted
  · obtain ⟨current, hcurrent, hnewer⟩ := hchosen.newer rfl
    obtain ⟨running, hrunning, hpackage⟩ := h.version
    rw [h.semver, hpackage, hS running] at hcurrent
    obtain rfl := Except.ok.inj hcurrent
    obtain rfl := hholds.unique hS hrunning
    exact .inl ⟨hnewer, h.semver ▸ hstable⟩

/-! ## Its history -/

/-- What a history of runs has led to. -/
structure Traces (site : Site V) (runs : List (Attempt V)) (version : V) (files files' : Files)
    (version' : V) : Prop where
  holds : site.Holds files' version'
  others : ∀ path, path ≠ site.executable → files' path = files path
  /-- The version went back to one that was asked for, if at all. -/
  advances : version ≤ version' ∨ ∃ i ∈ runs, ∃ asked, Requests i asked ∧ asked ≤ version'
  stable : version' = version ∨ site.semver.preIsEmpty version' = true ∨
    ∃ i ∈ runs, Requests i version'
  gates : files' = files ∨ ∃ i ∈ runs, ∃ content, files' site.executable = some content ∧
    i.updater.Gates i.args content

lemma Traces.snoc {runs : List (Attempt V)} {files₁ : Files} {version₁ : V}
    (h : site.Traces runs version files files₁ version₁)
    (hlast : site.Succeeds i version₁ files₁ files' version') :
    site.Traces (runs ++ [i]) version files files' version' where
  holds := hlast.holds
  others path hpath := (hlast.others path hpath).trans (h.others path hpath)
  advances := by
    have hbefore : version₁ ≤ version' → version ≤ version' ∨
        ∃ j ∈ runs ++ [i], ∃ asked, Requests j asked ∧ asked ≤ version' := by
      intro hle
      rcases h.advances with hfirst | ⟨j, hj, asked, hasked, hleast⟩
      · exact .inl (hfirst.trans hle)
      · exact .inr ⟨j, List.mem_append_left _ hj, asked, hasked, hleast.trans hle⟩
    rcases hlast.advances with ⟨-, rfl⟩ | ⟨hnewer, -⟩ | hasked
    · exact hbefore le_rfl
    · exact hbefore hnewer.le
    · exact .inr ⟨i, by simp, version', hasked, le_rfl⟩
  stable := by
    rcases hlast.advances with ⟨-, rfl⟩ | ⟨-, hstable⟩ | hasked
    · rcases h.stable with hsame | hstable | ⟨j, hj, hasked⟩
      · exact .inl hsame
      · exact .inr (.inl hstable)
      · exact .inr (.inr ⟨j, List.mem_append_left _ hj, hasked⟩)
    · exact .inr (.inl hstable)
    · exact .inr (.inr ⟨i, by simp, hasked⟩)
  gates := by
    rcases hlast.gates with rfl | hgates
    · rcases h.gates with hsame | ⟨j, hj, hgates⟩
      · exact .inl hsame
      · exact .inr ⟨j, List.mem_append_left _ hj, hgates⟩
    · exact .inr ⟨i, by simp, hgates⟩

end Site

end Update

/-! ## An example -/

namespace Releases

open Update

def semver : Semver (Fin 3) where
  parse text :=
    if text = "0.0.3" then .ok 0 else if text = "0.0.4" then .ok 1
    else if text = "0.0.5" then .ok 2 else .error "unexpected character"
  display
    | 0 => "0.0.3"
    | 1 => "0.0.4"
    | 2 => "0.0.5"
  preIsEmpty _ := true
  buildIsEmpty _ := true

/-- The programs of the versions: the last one is in the archive of the release. -/
def binary : Fin 3 → List UInt8
  | 0 => [111, 108, 100, 101, 114]
  | 1 => [111, 108, 100]
  | 2 => NextRelease.binary

def execute (content : List UInt8) : Except String Output :=
  if content = binary 0 then .ok ⟨true, "ovpnlane 0.0.3\n"⟩
  else if content = binary 1 then .ok ⟨true, "ovpnlane 0.0.4\n"⟩
  else if content = binary 2 then .ok ⟨true, "ovpnlane 0.0.5\n"⟩
  else .error "exec format error"

def site : Site (Fin 3) := ⟨semver, execute, ["home", "bin", "ovpnlane"]⟩

/-- The archive of 0.0.5, which the server keeps. -/
def url : String := downloads ++ "/v0.0.5/" ++ Package.archiveName "0.0.5" "linux-x86_64"

def manifest : List UInt8 :=
  Connect.osString (Installer.packageManifest false NextRelease.packedDigest
    (Package.archiveName "0.0.5" "linux-x86_64"))

/-- The program of the version `running` meets a server whose latest release is `latest`. -/
def updater (running latest : Fin 3) : Updater (Fin 3) where
  semver := semver
  os := "linux"
  arch := "x86_64"
  targetEnv := "gnu"
  packageVersion := semver.display running
  fetchRelease address _ :=
    if address = api ++ "/latest" then .ok (.ok (Package.release (semver.display latest)))
    else .error "not found"
  fetch address _ :=
    if address = url then .ok (.ok NextRelease.packed)
    else if address = url ++ ".sha256" then .ok (.ok manifest)
    else .error "not found"
  sha256 bytes :=
    if bytes = NextRelease.packed then NextRelease.packedDigest else List.replicate 32 0
  zipEntries _ := .error "invalid Zip archive"
  tarEntries bytes _ :=
    if bytes = NextRelease.packed then .ok (NextRelease.packedEntries.map .ok)
    else .error "invalid gzip header"
  currentExe := .ok site.executable
  displayPath path := "/" ++ "/".intercalate path
  isTerminal := false
  flush := .ok ()
  readLine := .ok ""
  tempdirIn _ _ := .ok ".ovpnlane-update-x7Qp2a"
  removeDir directory files path := if directory <+: path then none else files path
  openNew _ := .ok ()
  syncAll _ := .ok ()
  setPermissions _ := .ok ()
  execute := execute
  selfReplace candidate files := (.ok (), Function.update files site.executable (files candidate))

/-- `ovpnlane update --yes`. -/
def update (running latest : Fin 3) : Attempt (Fin 3) :=
  ⟨updater running latest, ⟨false, false, true, none⟩⟩

def start : Files := fun path => if path = site.executable then some (binary 1) else none

lemma roundTrips : semver.RoundTrips
  | 0 | 1 | 2 => rfl

lemma contract {files : Files} (hfiles : ∀ path, path ≠ site.executable → files path = none)
    (running latest : Fin 3) : (updater running latest).Contract files where
  fresh := by
    intro directory name hname path hpath
    obtain rfl := Except.ok.inj hname
    have hmem : ".ovpnlane-update-x7Qp2a" ∈ path := hpath.subset (by simp)
    apply hfiles path
    rintro rfl
    exact absurd hmem (by decide)
  removes _ _ _ := rfl
  replaces := by
    intro executable candidate files' hlocated _
    obtain rfl := Except.ok.inj hlocated
    rfl
  keeps _ _ _ herror := by cases herror

lemma runs {files : Files} {running : Fin 3} (hfile : files site.executable = some (binary running))
    (hfiles : ∀ path, path ≠ site.executable → files path = none) (latest : Fin 3) :
    site.Runs files (update running latest) ∧ site.Holds files running := by
  have hholds : site.Holds files running := by
    match running with
    | 0 => exact ⟨_, _, hfile, rfl, rfl, by decide⟩
    | 1 => exact ⟨_, _, hfile, rfl, rfl, by decide⟩
    | 2 => exact ⟨_, _, hfile, rfl, rfl, by decide⟩
  exact ⟨⟨rfl, rfl, rfl, contract hfiles running latest, running, hholds, rfl⟩, hholds⟩

lemma start_runs (latest : Fin 3) : site.Runs start (update 1 latest) ∧ site.Holds start 1 :=
  runs (if_pos rfl) (fun _ h => if_neg h) latest

end Releases

/-! ## The result -/

namespace Update.Site

variable {V : Type} [LinearOrder V] {site : Site V} {files files' : Files} {version : V}

/-- **No update goes back.**  Whatever releases and downloads the network answers with, and however
the runs of the updater end: after every history of updates the installation has a program, whose
version is at least that of the first one or of one that was asked for by `--version`; it is a
prerelease only if the first one was or it was asked for; it is the first one or came through every
gate in one of the runs; and no other file has changed. -/
theorem updates_never_go_back {runs : List (Attempt V)} (hS : site.semver.RoundTrips)
    (hrun : (updateSystem site).Run files runs files') (h : site.Holds files version) :
    ∃ version', site.Traces runs version files files' version' := by
  induction hrun with
  | nil => exact ⟨version, h, fun _ _ => rfl, .inl le_rfl, .inl rfl, .inl rfl⟩
  | snoc _ hstep ih =>
    obtain ⟨version₁, hbefore⟩ := ih
    obtain ⟨hruns, rfl⟩ := hstep
    obtain ⟨version', hlast⟩ := hruns.succeeds hS hbefore.holds
    exact ⟨version', hbefore.snoc hlast⟩

end Update.Site

open Releases Update in
/-- After the update a server that presents 0.0.3 as the latest release gets nowhere. -/
theorem updates_never_go_back_old : ∃ files' version',
    (updateSystem site).Run start [update 1 2, update 2 0] files' ∧
      files' site.executable = some (binary 2) ∧
      site.Traces [update 1 2, update 2 0] 1 start files' version' := by
  obtain ⟨_, hfirst⟩ := (start_runs 2).1.succeeds roundTrips (start_runs 2).2
  have hinstalled : (update 1 2).leaves start site.executable = some (binary 2) := by
    decide +kernel
  have hstays : (update 2 0).leaves ((update 1 2).leaves start) site.executable =
      some (binary 2) := by decide +kernel
  have hthen := runs hinstalled
    (fun path hpath => (hfirst.others path hpath).trans (if_neg hpath)) 0
  have hbefore : (updateSystem site).Run start [update 1 2] ((update 1 2).leaves start) :=
    .single ⟨(start_runs 2).1, rfl⟩
  have hrun : (updateSystem site).Run start [update 1 2, update 2 0]
      ((update 2 0).leaves ((update 1 2).leaves start)) := hbefore.snoc ⟨hthen.1, rfl⟩
  obtain ⟨version', htraces⟩ := Site.updates_never_go_back roundTrips hrun (start_runs 2).2
  exact ⟨_, version', hrun, hstays, htraces⟩

end Ovpnlane
