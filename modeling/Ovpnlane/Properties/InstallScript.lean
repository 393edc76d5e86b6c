import Ovpnlane.Construction.InstallScript
import Ovpnlane.Properties.Manifests

/-!
# What the installer leaves behind

`install.sh` may be killed at any time, a signal may reach it, and every command that is not built
into the shell may fail with part of its work done.  However it ends, the installed binary is the
old one or one that came through every check, and no other file that was there is touched.  If the
trap has run through, nothing else is left but directories on the way to the target, and what one
`mktemp` has made that was cut short before its name came back (`Stray`); and the script succeeds
only with the new binary in its place and nothing astray (`left_of_runs`).

`Stable` is what holds between two commands once the traps are set.  A command keeps it if it
writes where the trap clears up (`Stable.partly`); only the renaming is a step of its own.
-/

namespace Ovpnlane

open Text

namespace Installer

/-- What the script relies on in `mktemp`: a name is new, it begins as its template does, and it is
not the name of a directory on the way to the target. -/
structure Tools.Contract (T : Tools) (dir : Path) : Prop where
  fresh : ∀ template parent files name, T.mktemp template parent files = some name →
    files (parent ++ [name]) = none
  template : ∀ template parent files name, T.mktemp template parent files = some name →
    template.toList <+: name.toList
  apart : ∀ template parent files name, T.mktemp template parent files = some name →
    ¬ parent ++ [name] <+: dir

def target (dir : Path) : Path := dir ++ ["ovpnlane"]

/-- The machines for which there is an archive. -/
def machines : List (String × String × String) :=
  [("Darwin", "arm64", "macos-arm64"), ("Darwin", "aarch64", "macos-arm64"),
    ("Darwin", "x86_64", "macos-x86_64"), ("Linux", "x86_64", "linux-x86_64"),
    ("Linux", "amd64", "linux-x86_64")]

/-- The platform of the machine. -/
def RunsOn (T : Tools) (platform : String) : Prop :=
  ∃ system machine, T.uname "-s" = some system ∧ T.uname "-m" = some machine ∧
    (system, machine, platform) ∈ machines

/-- The tag the script picks. -/
def Selected (T : Tools) (E : Environment) (tag : String) : Prop :=
  (requestedVersion E = "latest" ∧ ∃ resolved, T.latest = some resolved ∧
    startsWith resolved (releaseRoot ++ "/tag/v") = true ∧ tag = afterLastSlash resolved) ∨
  (requestedVersion E ≠ "latest" ∧ tag = "v" ++ stripChar 'v' (requestedVersion E))

/-- The archive of a tag and its manifest are what the server gives out, and they fit. -/
def Verified (T : Tools) (tag name : String) (body : List UInt8) : Prop :=
  T.serve (releaseRoot ++ "/download/" ++ tag ++ "/" ++ name) = some body ∧ ∃ manifest,
    T.serve (releaseRoot ++ "/download/" ++ tag ++ "/" ++ name ++ ".sha256") = some manifest ∧
      T.awk.checkManifest (lowerHex (T.sha256 body)) name (T.text manifest) = .ok ()

/-- The archive holds this binary, which reports the version. -/
def Unpacked (T : Tools) (version : String) (body content : List UInt8) : Prop :=
  (∃ executable, T.extract body = some (.file content executable)) ∧
    T.report content = some ("ovpnlane " ++ version)

/-- A binary that comes through every check. -/
def Admitted (T : Tools) (E : Environment) (content : List UInt8) : Prop :=
  ∃ tag platform body, RunsOn T platform ∧ Selected T E tag ∧
    checkVersion (stripChar 'v' tag) = true ∧
    Verified T tag (archiveName (stripChar 'v' tag) platform) body ∧
    Unpacked T (stripChar 'v' tag) body content

def Installed (T : Tools) (E : Environment) (node : Option Node) : Prop :=
  ∃ content, Admitted T E content ∧ node = some (.file content true)

/-- What holds however the script is cut short. -/
structure Safe (T : Tools) (E : Environment) (dir : Path) (s₀ t : State) : Prop where
  target : t.files (target dir) = s₀.files (target dir) ∨ Installed T E (t.files (target dir))
  others : ∀ path, path ≠ Installer.target dir → s₀.files path ≠ none → t.files path = s₀.files path

/-- A directory that was made on the way to the target. -/
def NewDir (dir : Path) (before after : Path → Option Node) (path : Path) : Prop :=
  path <+: dir ∧ before path = none ∧ after path = some .directory

/-- What a `mktemp` has made that failed or was killed before its name came back. -/
def Stray (E : Environment) (dir : Path) (before after : Path → Option Node) (path : Path) : Prop :=
  before path = none ∧ ∃ name,
    (path = E.tmpDir.getD ["tmp"] ++ [name] ∧ "ovpnlane-install.".toList <+: name.toList ∧
      after path = some .directory) ∨
    (path = dir ++ [name] ∧ ".ovpnlane-install.".toList <+: name.toList ∧
      after path = some (.file [] false))

/-- What holds when the trap has run through. -/
structure Clean (T : Tools) (E : Environment) (dir : Path) (s₀ : State) (stray : Option Path)
    (t : State) : Prop where
  target : t.files (target dir) = s₀.files (target dir) ∨ Installed T E (t.files (target dir))
  others : ∀ path, path ≠ Installer.target dir →
    t.files path = s₀.files path ∨ NewDir dir s₀.files t.files path ∨
      (stray = some path ∧ Stray E dir s₀.files t.files path)

/-- What the script leaves behind, with what has gone astray. -/
def LeftWith (T : Tools) (E : Environment) (dir : Path) (s₀ : State) (stray : Option Path) :
    Script.Finish → State → Prop
  | .ended status, t => Clean T E dir s₀ stray t ∧
    (status = 0 → stray = none ∧ Installed T E (t.files (target dir)))
  | .aborted _, t => Safe T E dir s₀ t
  | .killed, t => Safe T E dir s₀ t

/-- What the script leaves behind. -/
def Left (T : Tools) (E : Environment) (dir : Path) (s₀ : State) (f : Script.Finish) (t : State) :
    Prop :=
  ∃ stray, LeftWith T E dir s₀ stray f t

/-- What the trap removes. -/
def Temp (s : State) (path : Path) : Prop :=
  (∃ w, s.workDir = some w ∧ w <+: path) ∨ s.staged = some path

/-- Whether a command writes where the trap clears up, or makes a directory on the way. -/
def InArea (T : Tools) (dir : Path) (s : State) (c : Command) : Prop :=
  ∀ path node, May T s c path node →
    Temp s path ∨ path <+: dir ∧ s.files path = none ∧ node = some .directory

/-- What holds between two commands. -/
structure Stable (T : Tools) (E : Environment) (dir : Path) (s₀ s : State) : Prop where
  work : ∀ w, s.workDir = some w →
    (∀ path, w <+: path → s₀.files path = none) ∧ ¬ w <+: Installer.target dir
  staged : ∀ st, s.staged = some st →
    s₀.files st = none ∧ st ≠ Installer.target dir ∧ s.workDir.isSome = true
  files : ∀ path, path ≠ Installer.target dir → s.files path = s₀.files path ∨ Temp s path ∨
    NewDir dir s₀.files s.files path
  target : s.files (Installer.target dir) = s₀.files (Installer.target dir) ∨
    Installed T E (s.files (Installer.target dir))
  trap : s.exitTrap = s.workDir.isSome

variable {T : Tools} {E : Environment} {dir : Path} {s₀ s t : State}

lemma target_not_below (dir : Path) : ¬ target dir <+: dir := by
  intro h
  have hlength := h.length_le
  simp only [target, List.length_append, List.length_singleton] at hlength
  omega

lemma Clean.safe {stray : Option Path} (h : Clean T E dir s₀ stray t) : Safe T E dir s₀ t where
  target := h.target
  others := by
    intro path hne hsome
    rcases h.others path hne with hsame | ⟨-, hnone, -⟩ | ⟨-, hnone, -⟩
    · exact hsame
    · exact absurd hnone hsome
    · exact absurd hnone hsome

namespace Stable

lemma temp_none (h : Stable T E dir s₀ s) {path : Path} (htemp : Temp s path) :
    s₀.files path = none := by
  rcases htemp with ⟨w, hw, hpath⟩ | hstaged
  · exact (h.work w hw).1 path hpath
  · exact (h.staged path hstaged).1

lemma safe (h : Stable T E dir s₀ s) : Safe T E dir s₀ s where
  target := h.target
  others := by
    intro path hne hsome
    rcases h.files path hne with hsame | htemp | ⟨-, hnone, -⟩
    · exact hsame
    · exact absurd (h.temp_none htemp) hsome
    · exact absurd hnone hsome

/-- A command that writes where the trap clears up leaves the target alone. -/
lemma partly_target (h : Stable T E dir s₀ s) {c : Command}
    (harea : InArea T dir s c) (hpartly : Partly T c s t) :
    t.files (Installer.target dir) = s.files (Installer.target dir) := by
  rcases hpartly.2 (Installer.target dir) with hsame | hmay
  · exact hsame
  · rcases harea _ _ hmay with (⟨w, hw, hbelow⟩ | hst) | ⟨hbelow, -⟩
    · exact absurd hbelow (h.work w hw).2
    · exact absurd rfl (h.staged _ hst).2.1
    · exact absurd hbelow (target_not_below dir)

/-- And it keeps what holds between two commands. -/
lemma partly (h : Stable T E dir s₀ s) {c : Command}
    (harea : InArea T dir s c) (hpartly : Partly T c s t) : Stable T E dir s₀ t := by
  have htarget := h.partly_target harea hpartly
  obtain ⟨hvars, hfiles⟩ := hpartly
  have hwork : t.workDir = s.workDir := by rw [hvars]
  have hstaged : t.staged = s.staged := by rw [hvars]
  have htrap : t.exitTrap = s.exitTrap := by rw [hvars]
  have htemp : Temp t = Temp s := by
    funext path
    rw [Temp, Temp, hwork, hstaged]
  refine ⟨hwork ▸ h.work, by rw [hstaged, hwork]; exact h.staged, ?_, htarget ▸ h.target,
    by rw [hwork, htrap]; exact h.trap⟩
  intro path hne
  rw [htemp]
  rcases hfiles path with hsame | hmay
  · rcases h.files path hne with hold | htemp | ⟨hbelow, hnone, hdir⟩
    · exact .inl (hsame.trans hold)
    · exact .inr (.inl htemp)
    · exact .inr (.inr ⟨hbelow, hnone, hsame.trans hdir⟩)
  · rcases harea path _ hmay with htemp | ⟨hbelow, hnone, hdir⟩
    · exact .inr (.inl htemp)
    · rcases h.files path hne with hold | htemp | ⟨-, -, hdir'⟩
      · exact .inr (.inr ⟨hbelow, hold.symm.trans hnone, hdir⟩)
      · exact .inr (.inl htemp)
      · rw [hnone] at hdir'
        cases hdir'

end Stable

/-! ## Commands -/

/-- Whether a command only changes files. -/
def Command.ordinary : Command → Bool
  | .mktempDir _ | .mktempFile _ | .clearStaged | .trapExit | .trapSignals | .mv .. |
      .printf _ => false
  | _ => true

lemma Partly.refl (c : Command) (s : State) : Partly T c s s := ⟨rfl, fun _ => .inl rfl⟩

/-- A command that writes nothing. -/
lemma Partly.eq {c : Command} (h : Partly T c s t) (hsilent : ∀ path node, ¬ May T s c path node) :
    t = s := by
  obtain ⟨hvars, hfiles⟩ := h
  have hsame : t.files = s.files := funext fun path =>
    (hfiles path).resolve_right (hsilent path _)
  rw [hvars, hsame]

lemma partly_write {c : Command} {place : Place} {node : Option Node}
    (hmay : May T s c (s.resolve place) node) : Partly T c s (s.write place node) := by
  refine ⟨rfl, fun path => ?_⟩
  by_cases hpath : path = s.resolve place
  · subst hpath
    right
    simpa [State.write] using hmay
  · left
    simp [State.write, Function.update_of_ne hpath]

/-- What a command does when it works is among what it may do. -/
lemma act_partly {c : Command} (hordinary : c.ordinary = true) : Partly T c s (T.act c s).2 := by
  cases c with
  | fetch url out =>
    simp only [Tools.act]
    split
    · exact partly_write rfl
    · exact .refl _ _
  | tar archive dir =>
    simp only [Tools.act]
    split
    · refine ⟨rfl, fun path => ?_⟩
      by_cases hpath : path = s.resolve dir ++ ["ovpnlane"]
      · right
        subst hpath
        exact List.prefix_rfl
      · exact .inl (Function.update_of_ne hpath _ _)
    · exact .refl _ _
  | chmod place =>
    simp only [Tools.act]
    split
    · exact partly_write rfl
    · exact .refl _ _
    · exact .refl _ _
  | mkdir dir =>
    simp only [Tools.act]
    split_ifs
    · refine ⟨rfl, fun path => ?_⟩
      dsimp only
      split_ifs with hnew
      · exact .inr ⟨hnew.1, hnew.2, rfl⟩
      · exact .inl rfl
    · exact .refl _ _
  | cat src dst =>
    simp only [Tools.act]
    split
    · exact partly_write rfl
    · exact .refl _ _
  | rmDir place =>
    refine ⟨rfl, fun path => ?_⟩
    dsimp only [Tools.act]
    split_ifs with hpath
    · exact .inr ⟨hpath, rfl⟩
    · exact .inl rfl
  | rm place =>
    simp only [Tools.act]
    split_ifs
    · exact .refl _ _
    · exact partly_write ⟨rfl, rfl⟩
  | reportVersion place =>
    simp only [Tools.act]
    split <;> exact .refl _ _
  | mktempDir | mktempFile | clearStaged | trapExit | trapSignals | mv | printf =>
    simp [Command.ordinary] at hordinary
  | _ => exact .refl _ _

lemma ends_partly {c : Command} (hordinary : c.ordinary = true) {result : Except ℕ String}
    (hends : (shell T).ends c s result t) : Partly T c s t := by
  rcases hends with hact | ⟨-, -, hpartly | rfl⟩ | ⟨-, -, rfl⟩
  · rw [show t = (T.act c s).2 from congrArg Prod.snd hact]
    exact act_partly hordinary
  · exact hpartly
  · exact act_partly hordinary
  · exact .refl _ _

lemma during_partly {c : Command} (hordinary : c.ordinary = true)
    (hduring : (shell T).during c s t) :
    Partly T c s t := by
  rcases hduring with hpartly | rfl
  · exact hpartly
  · obtain ⟨hvars, hfiles⟩ := @act_partly T s c hordinary
    exact ⟨rfl, hfiles⟩

/-- A command that works, or did not fail in the middle of a pipeline. -/
lemma ends_ok {c : Command} {output : String} (hpiped : c.piped = false)
    (hends : (shell T).ends c s (.ok output) t) : T.act c s = (.ok output, t) := by
  rcases hends with hact | ⟨-, ⟨n, hn⟩, -⟩ | ⟨htrue, -⟩
  · exact hact.symm
  · cases hn
  · rw [hpiped] at htrue
    cases htrue

/-- A command that is built in does what it does. -/
lemma ends_builtin {c : Command} {result : Except ℕ String} (hbuiltin : c.builtin = true)
    (hpiped : c.piped = false) (hends : (shell T).ends c s result t) : T.act c s = (result, t) := by
  rcases hends with hact | ⟨hfalse, -⟩ | ⟨htrue, -⟩
  · exact hact.symm
  · rw [hbuiltin] at hfalse
    cases hfalse
  · rw [hpiped] at htrue
    cases htrue

/-- A `mktemp` that is cut short has made what it makes, or nothing. -/
lemma Partly.made {c : Command} {template : String} {parent : Path} {node : Node}
    (h : Partly T c s t) (hmay : ∀ path new, May T s c path new →
      T.Makes template parent s path ∧ new = some node) :
    t = s ∨ ∃ name, T.mktemp template parent s.files = some name ∧
      t = s.write (.path (parent ++ [name])) (some node) := by
  obtain ⟨hvars, hfiles⟩ := h
  by_cases hsame : t.files = s.files
  · exact .inl (by rw [hvars, hsame])
  obtain ⟨path, hne⟩ := Function.ne_iff.mp hsame
  obtain ⟨⟨name, hname, rfl⟩, hnode⟩ := hmay _ _ ((hfiles path).resolve_left hne)
  refine .inr ⟨name, hname, ?_⟩
  have hupdate : t.files = Function.update s.files (parent ++ [name]) (some node) := by
    funext other
    by_cases hother : other = parent ++ [name]
    · rw [hother, Function.update_self]
      exact hnode
    · rw [Function.update_of_ne hother]
      refine (hfiles other).resolve_right fun hmay' => ?_
      obtain ⟨⟨name', hname', rfl⟩, -⟩ := hmay _ _ hmay'
      obtain rfl := Option.some.inj (hname.symm.trans hname')
      exact hother rfl
  rw [hvars, hupdate]
  rfl

/-- What is asked of a part of the script: `post` of the state in which it goes on. -/
def upTo (T : Tools) (E : Environment) (dir : Path) (s₀ : State) {α : Type}
    (post : α → State → Prop) : Spec α State :=
  ⟨post, (shell T).Exits (Left T E dir s₀), Safe T E dir s₀⟩

/-- What is asked of the trap: nothing is astray then. -/
def trapSpec (T : Tools) (E : Environment) (dir : Path) (s₀ : State) (status : ℕ) :
    Spec Unit State :=
  ⟨fun _ => LeftWith T E dir s₀ none (.ended status),
    fun status' => LeftWith T E dir s₀ none (.aborted status'), LeftWith T E dir s₀ none .killed⟩

/-- Nothing is left where the trap clears up. -/
lemma Stable.clean (h : Stable T E dir s₀ s)
    (hcleared : ∀ path, Temp s path → s.files path = none) :
    Clean T E dir s₀ none s where
  target := h.target
  others := by
    intro path hne
    rcases h.files path hne with hsame | htemp | hnew
    · exact .inl hsame
    · exact .inl ((hcleared path htemp).trans (h.temp_none htemp).symm)
    · exact .inr (.inl hnew)

/-- The second command of the trap. -/
lemma meets_rmStaged (h : Stable T E dir s₀ s) {status : ℕ}
    (hstatus : status = 0 → Installed T E (s.files (target dir)))
    (hcleared : ∀ w path, s.workDir = some w → w <+: path → s.files path = none) :
    (shell T).Meets (do
      if ← Script.succeeds .stagedSet then
        let _ ← Script.run (.rm .staged)) s (trapSpec T E dir s₀ status) := by
  have hbetween : ∀ {u}, Stable T E dir s₀ u → ∀ {α : Type} {post : α → State → Prop},
      (shell T).Between u ⟨post, fun status' => LeftWith T E dir s₀ none (.aborted status'),
        LeftWith T E dir s₀ none .killed⟩ := fun hu _ _ => ⟨hu.safe, fun _ => hu.safe⟩
  rw [Shell.meets_bind, Shell.meets_succeeds]
  refine ⟨hbetween h, fun u hduring => ?_, fun result u hends => ⟨?_, ?_⟩⟩
  · rw [(during_partly rfl hduring).eq fun _ _ h => h]
    exact h.safe
  all_goals
    have hact := ends_builtin rfl rfl hends
    obtain rfl : s = u := congrArg Prod.snd hact
  · exact hbetween h
  have hresult : result = Installer.status s.staged.isSome := (congrArg Prod.fst hact).symm
  cases hstaged : s.staged with
  | none =>
    rw [hstaged] at hresult
    subst hresult
    refine Shell.meets_pure.mpr ⟨hbetween h, h.clean ?_, fun hzero => ⟨rfl, hstatus hzero⟩⟩
    rintro path (⟨w, hw, hbelow⟩ | hst)
    · exact hcleared w path hw hbelow
    · rw [hstaged] at hst
      cases hst
  | some st =>
    rw [hstaged] at hresult
    subst hresult
    have hresolve : s.resolve .staged = st := by simp [State.resolve, hstaged]
    have harea : InArea T dir s (.rm .staged) := by
      rintro path node ⟨rfl, -⟩
      exact .inl (.inr (hstaged.trans (congrArg some hresolve.symm)))
    show (shell T).Meets (Script.run (.rm .staged) >>= fun _ => pure ()) s _
    rw [Shell.meets_bind, Shell.meets_run]
    refine ⟨hbetween h, fun u hduring => (h.partly harea (during_partly rfl hduring)).safe,
      fun n u hends => ?_, fun output u hends => ?_⟩
    · have hu := h.partly harea (ends_partly rfl hends)
      exact ⟨hbetween hu, hu.safe⟩
    have hu := h.partly harea (ends_partly rfl hends)
    have htarget := h.partly_target harea (ends_partly rfl hends)
    have hact := ends_ok rfl hends
    simp only [Tools.act] at hact
    split_ifs at hact
    · cases (Prod.mk.inj hact).1
    obtain rfl := (Prod.mk.inj hact).2
    refine ⟨hbetween hu, Shell.meets_pure.mpr ⟨hbetween hu, hu.clean ?_, fun hzero => ⟨rfl, ?_⟩⟩⟩
    · rintro path (⟨w, hw, hbelow⟩ | hst)
      · have hnone := hcleared w path hw hbelow
        by_cases hpath : path = s.resolve .staged
        · subst hpath
          simp [State.write]
        · simp [State.write, Function.update_of_ne hpath, hnone]
      · obtain rfl : path = s.resolve .staged := by
          rw [hresolve]
          exact Option.some.inj (hst.symm.trans hstaged)
        simp [State.write]
    · rw [htarget]
      exact hstatus hzero

/-- The trap clears up. -/
lemma meets_cleanup (h : Stable T E dir s₀ s) (hwork : s.workDir.isSome = true) {status : ℕ}
    (hstatus : status = 0 → Installed T E (s.files (target dir))) :
    (shell T).Meets cleanup s (trapSpec T E dir s₀ status) := by
  obtain ⟨w, hw⟩ := Option.isSome_iff_exists.mp hwork
  have hresolve : s.resolve (.work []) = w := by simp [State.resolve, hw]
  have harea : InArea T dir s (.rmDir (.work [])) := by
    rintro path node ⟨hbelow, -⟩
    exact .inl (.inl ⟨w, hw, hresolve ▸ hbelow⟩)
  rw [cleanup, Shell.meets_bind, Shell.meets_run]
  refine ⟨⟨h.safe, fun _ => h.safe⟩,
    fun u hduring => (h.partly harea (during_partly rfl hduring)).safe,
    fun n u hends => ?_, fun output u hends => ?_⟩
  · have hu := (h.partly harea (ends_partly rfl hends)).safe
    exact ⟨⟨hu, fun _ => hu⟩, hu⟩
  have hu := h.partly harea (ends_partly rfl hends)
  have htarget := h.partly_target harea (ends_partly rfl hends)
  obtain rfl : (T.act (.rmDir (.work [])) s).2 = u := congrArg Prod.snd (ends_ok rfl hends)
  refine ⟨⟨hu.safe, fun _ => hu.safe⟩, meets_rmStaged hu (fun hzero => htarget ▸ hstatus hzero) ?_⟩
  intro w' path hw' hbelow
  obtain rfl : w = w' := Option.some.inj (hw.symm.trans hw')
  exact if_pos (hresolve.symm ▸ hbelow)

lemma Stable.exitsWith (h : Stable T E dir s₀ s) {status : ℕ}
    (hstatus : status = 0 → Installed T E (s.files (Installer.target dir))) :
    (shell T).Exits (LeftWith T E dir s₀ none) status s := by
  unfold Shell.Exits
  cases htrap : s.exitTrap with
  | true =>
    rw [show (shell T).onExit s = some cleanup from if_pos htrap]
    exact meets_cleanup h (h.trap.symm.trans htrap) hstatus
  | false =>
    rw [show (shell T).onExit s = none from if_neg (by simp [htrap])]
    have hnone : s.workDir = none := by simpa [htrap] using h.trap.symm
    have htemp : ∀ path, ¬ Temp s path := by
      rintro path (⟨w, hw, -⟩ | hst)
      · rw [hnone] at hw
        cases hw
      · have hsome := (h.staged path hst).2.2
        rw [hnone] at hsome
        cases hsome
    exact ⟨h.clean fun path hpath => absurd hpath (htemp path), fun hzero => ⟨rfl, hstatus hzero⟩⟩

lemma Stable.exits (h : Stable T E dir s₀ s) {status : ℕ}
    (hstatus : status = 0 → Installed T E (s.files (Installer.target dir))) :
    (shell T).Exits (Left T E dir s₀) status s :=
  (h.exitsWith hstatus).mono fun _ _ _ hleft => ⟨none, hleft⟩

lemma Stable.between (h : Stable T E dir s₀ s) {α : Type} {post : α → State → Prop} :
    (shell T).Between s (upTo T E dir s₀ post) :=
  ⟨h.safe, fun _ => h.exits fun hone => absurd hone Nat.one_ne_zero⟩

/-! ## Rules for the commands -/

section Rules

variable {α : Type} {c : Command}

lemma Stable.printed (h : Stable T E dir s₀ s) (printed : List String) :
    Stable T E dir s₀ { s with printed } := ⟨h.work, h.staged, h.files, h.target, h.trap⟩

end Rules

/-! ## Before the download -/

section Early

variable (h : Stable T E dir s₀ s)

include h

end Early

/-! ## The archive -/

/-- What holds while the script works in its directory. -/
structure Working (T : Tools) (E : Environment) (dir : Path) (s₀ : State) (w : Path)
    (s : State) : Prop extends Stable T E dir s₀ s where
  workDir : s.workDir = some w
  noStaged : s.staged = none

namespace Working

variable {w : Path}

lemma resolve (h : Working T E dir s₀ w s) (rest : Path) : s.resolve (.work rest) = w ++ rest := by
  simp [State.resolve, h.workDir]

lemma partly (h : Working T E dir s₀ w s) {c : Command} (hstable : Stable T E dir s₀ t)
    (hpartly : Partly T c s t) : Working T E dir s₀ w t where
  toStable := hstable
  workDir := by rw [hpartly.1]; exact h.workDir
  noStaged := by rw [hpartly.1]; exact h.noStaged

end Working

namespace State

variable {place other : Place} {node : Option Node}

lemma files_write_self : (s.write place node).files (s.resolve place) = node :=
  Function.update_self _ _ _

lemma files_write_of_ne {path : Path} (hne : path ≠ s.resolve place) :
    (s.write place node).files path = s.files path :=
  Function.update_of_ne hne _ _

lemma resolve_staged {st : Path} (hst : s.staged = some st) : s.resolve .staged = st := by
  simp [resolve, hst]

end State

namespace Tools

/-- What comes before the first blank: the digest, behind a backslash if the name is escaped. -/
def word (T : Tools) (tool : String) (path : Path) (content : List UInt8) : List Char :=
  (if (T.written tool path).1 then ['\\'] else []) ++ (lowerHex (T.sha256 content)).toList

end Tools

/-- A new file. -/
lemma Safe.update (h : Safe T E dir s₀ s) {path : Path} (hnew : s₀.files path = none)
    (hne : path ≠ Installer.target dir) {node : Option Node}
    (hfiles : t.files = Function.update s.files path node) : Safe T E dir s₀ t where
  target := by
    rw [hfiles, Function.update_of_ne hne.symm]
    exact h.target
  others := by
    intro other hother hsome
    have hdifferent : other ≠ path := by
      rintro rfl
      exact hsome hnew
    rw [hfiles, Function.update_of_ne hdifferent]
    exact h.others other hother hsome

/-- What is absent in the work of the script was absent at its start. -/
lemma Stable.absent (h : Stable T E dir s₀ s) {path : Path} (hne : path ≠ Installer.target dir)
    (hnone : s.files path = none) : s₀.files path = none := by
  rcases h.files path hne with hsame | htemp | ⟨-, hold, -⟩
  · exact hsame.symm.trans hnone
  · exact h.temp_none htemp
  · exact hold

/-- The staged binary is one more file that the trap removes. -/
lemma Working.stage {w st : Path} (h : Working T E dir s₀ w s) (hne : st ≠ target dir)
    (hnew : s.files st = none) {node : Node}
    (hfiles : t.files = Function.update s.files st (some node))
    (hwork : t.workDir = s.workDir) (hstaged : t.staged = some st)
    (htrap : t.exitTrap = s.exitTrap) : Stable T E dir s₀ t where
  work := hwork ▸ h.work
  staged := by
    intro st' hst'
    obtain rfl : st = st' := Option.some.inj (hstaged.symm.trans hst')
    exact ⟨h.absent hne hnew, hne, by simp [hwork, h.workDir]⟩
  files := by
    intro path hpath
    by_cases hst : path = st
    · subst hst
      exact .inr (.inl (.inr hstaged))
    · rw [NewDir, hfiles, Function.update_of_ne hst]
      refine (h.files path hpath).imp_right (.imp_left ?_)
      rintro (⟨w', hw', hbelow⟩ | hold)
      · exact .inl ⟨w', hwork.trans hw', hbelow⟩
      · rw [h.noStaged] at hold
        cases hold
  target := by
    rw [hfiles, Function.update_of_ne hne.symm]
    exact h.target
  trap := by
    rw [hwork, htrap]
    exact h.trap

section Staged

variable {st : Path} {content : List UInt8} (h : Stable T E dir s₀ s) (hst : s.staged = some st)

include h hst

end Staged

/-- Where the script starts: nothing is set yet, and there is nothing below a path that is
absent. -/
structure State.Start (s : State) : Prop where
  tree : ∀ path rest, s.files path = none → s.files (path ++ rest) = none
  workDir : s.workDir = none
  staged : s.staged = none
  exitTrap : s.exitTrap = false
  signalTrap : s.signalTrap = false

lemma State.Start.stable (h : s.Start) : Stable T E dir s s where
  work := by simp [h.workDir]
  staged := by simp [h.staged]
  files := fun _ _ => .inl rfl
  target := .inl rfl
  trap := by simp [h.workDir, h.exitTrap]

/-- The work directory, before the traps are set. -/
structure Bare (T : Tools) (E : Environment) (dir : Path) (s₀ : State) (w : Path)
    (s : State) : Prop where
  files : ∀ path, s.files path = s₀.files path ∨ w <+: path
  work : (∀ path, w <+: path → s₀.files path = none) ∧ ¬ w <+: target dir
  workDir : s.workDir = some w
  staged : s.staged = none
  signalTrap : s.signalTrap = false

lemma Bare.safe {w : Path} (h : Bare T E dir s₀ w s) : Safe T E dir s₀ s where
  target := .inl ((h.files (target dir)).resolve_right h.work.2)
  others := fun path _ hsome =>
    (h.files path).resolve_right fun hbelow => hsome (h.work.1 path hbelow)

lemma Bare.between {w : Path} (h : Bare T E dir s₀ w s) {α : Type} {post : α → State → Prop} :
    (shell T).Between s (upTo T E dir s₀ post) := by
  refine ⟨h.safe, fun htrapped => ?_⟩
  rw [show (shell T).trapped s = s.signalTrap from rfl, h.signalTrap] at htrapped
  cases htrapped

end Installer

end Ovpnlane
