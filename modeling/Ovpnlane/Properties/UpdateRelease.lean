import Ovpnlane.Properties.Extraction
import Ovpnlane.Properties.Manifests
import Ovpnlane.Properties.UpdateHistory

/-!
# A release that is installed

The other half of the life of an installation: updates happen.  Three parts of the repository have
to agree for that: the workflow that builds a release, the script that packs it, and the updater
that looks for it.  `published_release`, `Packed.entries` and `Ships.checksum` say that what the
first two make is what the updater asks for, and `update_completes` that it is installed then, where
nothing fails.
-/

namespace Ovpnlane

open Text Update

/-! ## A release that is made by the workflow -/

namespace Package

/-- How the names of the assets end. -/
def suffixes : List String :=
  platforms.flatMap fun platform =>
    ["-" ++ platform ++ if windows platform then ".zip" else ".tar.gz",
      "-" ++ platform ++ (if windows platform then ".zip" else ".tar.gz") ++ ".sha256"]

lemma assets_eq (version : String) :
    assets version = suffixes.map fun suffix => ⟨"ovpnlane-" ++ version ++ suffix⟩ := by
  simp only [assets, suffixes, List.map_flatMap, List.map_cons, List.map_nil, archiveName,
    String.append_assoc]

/-- An asset is there once. -/
lemma length_assets (version : String) {suffix : String} (h : suffix ∈ suffixes) :
    ((assets version).filter (·.name == "ovpnlane-" ++ version ++ suffix)).length = 1 := by
  have hname : ∀ other : String,
      ("ovpnlane-" ++ version ++ other == "ovpnlane-" ++ version ++ suffix) =
      (other == suffix) := by
    intro other
    rw [Bool.eq_iff_iff, beq_iff_eq, beq_iff_eq, String.append_right_inj]
  have hall : ∀ suffix ∈ suffixes, (suffixes.filter (· == suffix)).length = 1 := by decide +kernel
  rw [assets_eq, List.filter_map, List.length_map]
  simp only [Function.comp_def, hname]
  exact hall suffix h

lemma archiveName_suffix (version : String) {platform : String} (h : platform ∈ platforms) :
    ∃ suffix ∈ suffixes, archiveName version platform = "ovpnlane-" ++ version ++ suffix ∧
      suffix ++ ".sha256" ∈ suffixes := by
  refine ⟨"-" ++ platform ++ if windows platform then ".zip" else ".tar.gz", ?_,
    by simp only [archiveName, String.append_assoc], ?_⟩
  · exact List.mem_flatMap.mpr ⟨platform, h, by simp⟩
  · exact List.mem_flatMap.mpr ⟨platform, h, by simp⟩

end Package

namespace Updater

variable {V : Type} {U : Updater V} {version : V} {platform : String}

/-- The two sides agree on the names. -/
lemma archiveName_package (U : Updater V) (version : V) (platform : String) :
    U.archiveName version platform = Package.archiveName (U.semver.display version) platform := by
  unfold archiveName Package.archiveName Package.windows
  split_ifs <;> simp only [String.append_assoc] <;> rfl

lemma platform_mem (h : U.platform = .ok platform) : platform ∈ Package.platforms := by
  unfold Updater.platform at h
  split at h
  all_goals try split_ifs at h
  all_goals first | (obtain rfl := Except.ok.inj h; decide) | cases h

variable {release : Release} {requested : Option V} {args : UpdateArgs} {executable : Path}
  {files : Files} {w : World} {bytes content : List UInt8}

/-- A release of the workflow, for a version that is wanted. -/
lemma published_release (hplatform : platform ∈ Package.platforms)
    (hbuild : U.semver.buildIsEmpty version = true)
    (hselected : requested = some version ∨
      requested = none ∧ U.semver.preIsEmpty version = true) :
    U.Published (Package.release (U.semver.display version)) requested version platform := by
  obtain ⟨suffix, hmem, hname, hmem'⟩ :=
    Package.archiveName_suffix (U.semver.display version) hplatform
  refine ⟨rfl, rfl, hbuild, hselected.imp_right fun h => ⟨h.1, rfl, h.2⟩, ?_, ?_⟩ <;>
    rw [archiveName_package, hname]
  · exact Package.length_assets _ hmem
  · rw [String.append_assoc]
    exact Package.length_assets _ hmem'

lemma stripChar_append (text : String) : stripChar 'v' ("v" ++ text) = text := by
  have hlist : ("v" ++ text).toList = 'v' :: text.toList := String.toList_append
  rw [stripChar, hlist]
  simp

/-- What is published is accepted. -/
lemma validateRelease_published [DecidableEq V] (hS : U.semver.RoundTrips)
    (h : U.Published release requested version platform) :
    U.validateRelease release requested platform =
      .ok (version, U.archiveName version platform) := by
  have hparse : U.parseVersion release.tagName = .ok version := by
    rw [h.tag, parseVersion, stripChar_append]
    exact bind_eq_ok.mpr ⟨version, withContext_eq_ok.mpr (hS version),
      bind_eq_ok.mpr ⟨(), ensure_eq_ok.mpr h.build, rfl⟩⟩
  have hselected : U.requireSelected release version requested = .ok () := by
    rcases h.selected with rfl | ⟨rfl, hfinal, hstable⟩
    · exact ensure_eq_ok.mpr (by simp)
    · exact ensure_eq_ok.mpr (by simp [hfinal, hstable])
  have hassets : ∀ {name : String}, (release.assets.filter (·.name == name)).length = 1 →
      requireAsset release name = .ok () := fun hname => ensure_eq_ok.mpr (by simp [hname])
  exact bind_eq_ok.mpr ⟨(), ensure_eq_ok.mpr (by simp [h.draft]), bind_eq_ok.mpr ⟨version, hparse,
    bind_eq_ok.mpr ⟨(), ensure_eq_ok.mpr (by simp [h.tag]), bind_eq_ok.mpr ⟨(), hselected,
      bind_eq_ok.mpr ⟨(), hassets h.archive, bind_eq_ok.mpr ⟨(), hassets h.checksum, rfl⟩⟩⟩⟩⟩⟩

/-! ## The downloads -/

/-- The archive reader presents the files that were packed; `mode` is what it makes of the modes of
regular files. -/
def Packed (U : Updater V) (bytes : List UInt8) (windows : Bool) (binary : List UInt8) : Prop :=
  ∃ read, match windows with
    | true => ∃ mode : String → ℕ, (∀ name, mode name &&& 0o170000 = 0o100000) ∧
        U.zipEntries bytes = .ok ((Package.files true binary read).map fun file =>
          .ok ⟨file.1, some (mode file.1), true, ⟨file.2, none⟩⟩)
    | false => U.tarEntries bytes maxUnpacked =
        .ok ((Package.files false binary read).map fun file =>
          .ok ⟨file.1.toUTF8.data.toList, true, ⟨file.2, none⟩⟩)

/-- Of the files, the first alone has the name of the executable. -/
lemma filter_files {windows : Bool} {named : String → Bool} (read : String → List UInt8)
    (hexecutable : named (Package.executable windows) = true)
    (hdocuments : ∀ name ∈ Package.documents, named name = false) :
    ((Package.files windows content read).map fun file =>
      (⟨named file.1, true, ⟨file.2, none⟩⟩ : Presented)).filter (·.named) =
        [⟨true, true, ⟨content, none⟩⟩] := by
  simp only [Package.files, List.map_cons, hexecutable]
  rw [List.filter_cons_of_pos rfl]
  refine congrArg _ (List.filter_eq_nil_iff.mpr fun entry hentry => ?_)
  rw [List.map_map] at hentry
  obtain ⟨name, hname, rfl⟩ := List.mem_map.mp hentry
  simp [hdocuments name hname]

/-- A packed archive has the one executable. -/
lemma Packed.entries {windows : Bool} (h : U.Packed bytes windows content)
    (hlength : 1 ≤ content.length ∧ content.length ≤ 100 * 2 ^ 20) :
    ∃ entries, U.Readable bytes windows entries ∧ OneExecutable entries content := by
  obtain ⟨read, h⟩ := h
  suffices hentries : ∃ named : String → Bool, named (Package.executable windows) = true ∧
      (∀ name ∈ Package.documents, named name = false) ∧ U.entries bytes windows =
        .ok (((Package.files windows content read).map fun file =>
          (⟨named file.1, true, ⟨file.2, none⟩⟩ : Presented)).map .ok) by
    obtain ⟨named, hexecutable, hdocuments, hlisted⟩ := hentries
    refine ⟨_, ⟨hlisted, fun entry hentry => ?_⟩, _,
      filter_files read hexecutable hdocuments, rfl, rfl,
      hlength⟩
    obtain ⟨file, -, rfl⟩ := List.mem_map.mp hentry
    rfl
  cases windows with
  | true =>
    obtain ⟨mode, hmode, hzip⟩ := h
    refine ⟨(· == binaryName true), by decide, by decide, ?_⟩
    rw [Updater.entries, if_pos rfl, hzip]
    simp [Except.map, ZipEntry.presented, hmode, Function.comp_def]
  | false =>
    refine ⟨fun name => name.toUTF8.data.toList == (binaryName false).toUTF8.data.toList,
      by decide +kernel, by decide +kernel, ?_⟩
    rw [Updater.entries, if_neg Bool.false_ne_true, h]
    simp [Except.map, TarEntry.presented, Function.comp_def]

lemma Packed.content_eq {windows : Bool} {content' : List UInt8}
    (h : U.Packed bytes windows content)
    (hlength : 1 ≤ content.length ∧ content.length ≤ 100 * 2 ^ 20)
    (hcontains : U.Contains bytes windows content') : content' = content := by
  obtain ⟨entries, hreadable, entry, hone, -, rfl, -⟩ := h.entries hlength
  obtain ⟨entries', hlisted', entry', hone', -, rfl, -⟩ := hcontains.one
  have hsame : entries.map Except.ok = entries'.map (Except.ok (ε := String)) :=
    Except.ok.inj (hreadable.listed.symm.trans hlisted')
  obtain rfl : entries = entries' := List.map_injective_iff.mpr (fun _ _ => Except.ok.inj) hsame
  rw [hone] at hone'
  rw [List.singleton_inj.mp hone']

/-- The address of the archive of a version. -/
def archiveUrl (U : Updater V) (version : V) (platform : String) : String :=
  downloads ++ "/" ++ (Package.release (U.semver.display version)).tagName ++ "/" ++
    U.archiveName version platform

/-- The network serves the release of a version, with this archive for the platform and this binary
in it. -/
structure Ships (U : Updater V) (version : V) (platform : String) (bytes binary : List UInt8) :
    Prop where
  build : U.semver.buildIsEmpty version = true
  plain : ∀ c ∈ (U.semver.display version).toList, isWhitespace c = false
  archive : U.download (U.archiveUrl version platform) maxDownload = .ok bytes
  manifest : U.download (U.archiveUrl version platform ++ ".sha256") 4096 =
    .ok (Connect.osString (Installer.packageManifest (Package.windows platform) (U.sha256 bytes)
      (Package.archiveName (U.semver.display version) platform)))
  digests : ∀ content, (U.sha256 content).length = 32
  packed : U.Packed bytes (Package.windows platform) binary
  size : 1 ≤ binary.length ∧ binary.length ≤ 100 * 2 ^ 20
  reports : U.Reports binary version

/-- What is downloaded is the binary. -/
lemma Ships.content_eq (h : U.Ships version platform bytes content) {content' : List UInt8}
    (hdownloaded : U.Downloaded (Package.release (U.semver.display version)) version platform
      content') : content' = content := by
  obtain ⟨bytes', manifest, hbytes, -, -, hcontains⟩ := hdownloaded
  obtain rfl := Except.ok.inj (h.archive.symm.trans hbytes)
  exact h.packed.content_eq h.size hcontains

/-- Its manifest is accepted. -/
lemma Ships.checksum (h : U.Ships version platform bytes content)
    (hplatform : platform ∈ Package.platforms) :
    U.verifyChecksum bytes (Connect.osString (Installer.packageManifest
      (Package.windows platform) (U.sha256 bytes)
      (Package.archiveName (U.semver.display version) platform)))
        (U.archiveName version platform) = .ok () := by
  have hwhole : ∀ c ∈ (Package.archiveName (U.semver.display version) platform).toList,
      isWhitespace c = false := by
    have hplain : ∀ p ∈ Package.platforms, (p.toList ++
        (if Package.windows p then ".zip" else ".tar.gz").toList).all (!isWhitespace ·) = true := by
      decide +kernel
    have hstart : ("ovpnlane-".toList ++ "-".toList).all (!isWhitespace ·) = true := by
      decide +kernel
    simp only [List.all_eq_true, Bool.not_eq_true'] at hplain hstart
    intro c hc
    simp only [Package.archiveName, String.toList_append, List.mem_append] at hc
    rcases hc with (((hc | hc) | hc) | hc) | hc
    · exact hstart c (List.mem_append_left _ hc)
    · exact h.plain c hc
    · exact hstart c (List.mem_append_right _ hc)
    · exact hplain platform hplatform c (List.mem_append_left _ hc)
    · exact hplain platform hplatform c (List.mem_append_right _ hc)
  have hname : Package.archiveName (U.semver.display version) platform ≠ "" := by
    intro hempty
    have hlist := congrArg String.toList hempty
    simp [Package.archiveName] at hlist
  rw [archiveName_package]
  exact (Installer.updates_packaged h.digests _ bytes bytes hname hwhole _).mpr ⟨rfl, rfl⟩

/-! ## Where nothing fails -/

/-- The user and the operating system let the executable be replaced. -/
structure Permits (U : Updater V) (args : UpdateArgs) (executable : Path) (platform : String)
    (files : Files) : Prop where
  installs : args.check = false ∧ args.dryRun = false
  confirmed : args.yes = true ∨ U.isTerminal = true ∧ U.flush = .ok () ∧
    ∃ answer, U.readLine = .ok answer ∧ toAsciiLowercase (trim answer) ∈ ["y", "yes"]
  parent : executable ≠ []
  staged : ∃ name, U.tempdirIn executable.dropLast files = .ok name ∧ ∀ output,
    output = executable.dropLast ++ [name] ++ [binaryName (Package.windows platform)] →
      U.openNew output = .ok () ∧ U.syncAll output = .ok () ∧ U.makeExecutable output = .ok ()
  replaced : ∀ candidate files', (U.selfReplace candidate files').1 = .ok ()

lemma ends_confirm_yes (hconfirmed : args.yes = true ∨ U.isTerminal = true ∧ U.flush = .ok () ∧
      ∃ answer, U.readLine = .ok answer ∧ toAsciiLowercase (trim answer) ∈ ["y", "yes"]) :
    Ends (U.confirm args) w (fun confirmed w' => confirmed = true ∧ w'.files = w.files)
      (fun _ _ => False) := by
  unfold confirm
  by_cases hyes : args.yes = true
  · rw [if_pos hyes]
    exact ⟨rfl, rfl⟩
  obtain ⟨hterminal, hflush, answer, hanswer, hmem⟩ := hconfirmed.resolve_left hyes
  rw [if_neg hyes, hterminal]
  simp only [ends_bind, ends_ensure, ends_print]
  refine ⟨fun _ => ?_, by simp⟩
  rw [ends_lift_ok hflush, ends_lift_ok hanswer]
  exact ⟨List.contains_iff_mem.mpr hmem, rfl⟩

lemma ends_runCandidate_ok {candidate : Path} (hfile : w.files candidate = some content)
    (hreports : U.Reports content version) :
    Ends (U.runCandidate candidate version) w (fun _ w' => w' = w) (fun _ _ => False) := by
  obtain ⟨output, houtput, hsuccess, hreport⟩ := hreports
  unfold runCandidate
  rw [ends_bind, ends_get, ends_bind, ends_lift_ok (context_eq_ok.mpr hfile), ends_bind,
    ends_lift_ok (withContext_eq_ok.mpr houtput), ends_ensure]
  exact ⟨fun _ => rfl, by simp [hsuccess, hreport]⟩

lemma ends_replace_ok {candidate : Path} (h : (U.selfReplace candidate w.files).1 = .ok ()) :
    Ends (U.replace candidate) w (fun _ _ => True) (fun _ _ => False) := by
  unfold replace
  rw [ends_bind, ends_get, ends_bind, ends_set, ends_lift_ok (withContext_eq_ok.mpr h)]
  trivial

/-- A release that is served is installed by way of a staging directory that can be written. -/
lemma ends_installIn_shipped (hships : U.Ships version platform bytes content)
    (hplatform : platform ∈ Package.platforms) {staging : Path}
    (hwritable : U.Writable (staging ++ [binaryName (Package.windows platform)]) w)
    (hreplaced : ∀ candidate files', (U.selfReplace candidate files').1 = .ok ()) :
    Ends (U.installIn staging (Package.release (U.semver.display version)) version
      (U.archiveName version platform) platform) w (fun _ _ => True) (fun _ _ => False) := by
  obtain ⟨entries, hreadable, entry, hone, hregular, hbytes, hsize⟩ :=
    hships.packed.entries hships.size
  have hentry : entry ∈ entries := by
    have hmem : entry ∈ entries.filter (·.named) := by simp [hone]
    exact (List.mem_filter.mp hmem).1
  have hexecutable : Executable entry.content :=
    ⟨hreadable.whole entry hentry, hbytes ▸ hsize.1, hbytes ▸ maxDownload_eq ▸ hsize.2⟩
  have harchive := hships.archive
  have hmanifest := hships.manifest
  rw [archiveUrl] at harchive hmanifest
  unfold installIn
  rw [ends_bind, ends_lift_ok harchive, ends_bind, ends_lift_ok hmanifest, ends_bind,
    ends_lift_ok (hships.checksum hplatform), ends_bind]
  refine ((ends_unpackBinary bytes _ staging w).and
    (ends_unpackBinary_one hreadable hwritable hone hregular hexecutable)).mono ?_ fun _ _ h => h.2
  rintro candidate w₁ ⟨⟨rfl, -, content', hfile, hcontains⟩, -⟩
  obtain rfl := hships.packed.content_eq hships.size hcontains
  rw [ends_bind]
  refine (ends_runCandidate_ok hfile hships.reports).mono ?_ fun _ _ h => h
  rintro _ _ rfl
  exact ends_replace_ok (hreplaced _ _)

lemma ends_install_shipped (C : U.Contract w.files)
    (hships : U.Ships version platform bytes content)
    (hplatform : platform ∈ Package.platforms)
    (hpermits : U.Permits args executable platform w.files) :
    Ends (U.install executable (Package.release (U.semver.display version)) version
      (U.archiveName version platform) platform) w (fun _ _ => True) (fun _ _ => False) := by
  obtain ⟨name, hname, hwritable⟩ := hpermits.staged
  have hdirectory : context (if executable.isEmpty then none else some executable.dropLast)
      "executable has no parent directory" = .ok executable.dropLast := by
    rw [if_neg (by simpa using hpermits.parent)]
    rfl
  obtain ⟨hcreate, hsync, hchmod⟩ := hwritable _ rfl
  unfold install
  rw [ends_bind, ends_lift_ok hdirectory, ends_bind, ends_get, ends_bind,
    ends_lift_ok (withContext_eq_ok.mpr hname), ends_clearing]
  refine ends_installIn_shipped hships hplatform ⟨?_, hcreate, hsync, hchmod⟩ hpermits.replaced
  exact C.fresh _ _ hname _ (List.prefix_append _ _)

/-- A run that finds a wanted release replaces the executable by its binary. -/
lemma ends_run_shipped [LinearOrder V] (hS : U.semver.RoundTrips) (C : U.Contract w.files)
    (hlocated : U.currentExe = .ok executable) (hexists : w.files executable ≠ none)
    (hsupported : U.platform = .ok platform) (hwanted : U.requested args = .ok requested)
    (hfound : U.release requested = .ok (Package.release (U.semver.display version)))
    {current : V} (hcurrent : U.semver.parse U.packageVersion = .ok current)
    (hselected : requested = some version ∨
      requested = none ∧ U.semver.preIsEmpty version = true ∧ current < version)
    (hships : U.Ships version platform bytes content)
    (hpermits : U.Permits args executable platform w.files) :
    Ends (U.run args) w (fun _ w' => w'.files = Function.update w.files executable (some content))
      (fun _ _ => False) := by
  have hplatform := platform_mem hsupported
  have hpublished : U.Published (Package.release (U.semver.display version)) requested version
      platform := published_release hplatform hships.build
    (hselected.imp_right fun h => ⟨h.1, h.2.1⟩)
  have hnewer : requested = none → current < version := by
    intro hnone
    rcases hselected with hsome | ⟨-, -, hlt⟩
    · rw [hnone] at hsome
      contradiction
    · exact hlt
  have hinstalled : ∀ w', w'.files = w.files → Ends (U.install executable
      (Package.release (U.semver.display version)) version
      (U.archiveName version platform) platform)
        w' (fun _ w'' => w''.files = Function.update w.files executable (some content))
          (fun _ _ => False) := by
    intro w' hfiles
    have C' : U.Contract w'.files := hfiles ▸ C
    refine ((ends_install C' hlocated _ version platform).and
      (ends_install_shipped C' hships hplatform (hfiles ▸ hpermits))).mono ?_ fun _ _ h => h.2
    rintro _ w'' ⟨⟨content', ⟨hdownloaded, -⟩, -, hnew, hothers⟩, -⟩
    obtain rfl := hships.content_eq hdownloaded
    rw [hfiles] at hnew hothers
    refine funext fun path => ?_
    by_cases hpath : path = executable
    · rw [hpath, Function.update_self]
      exact hnew hexists
    · rw [Function.update_of_ne hpath]
      exact hothers path hpath
  unfold run
  rw [ends_bind, ends_lift_ok hsupported, ends_bind, ends_lift_ok hwanted, ends_bind,
    ends_lift_ok hfound, ends_bind, ends_lift_ok (validateRelease_published hS hpublished)]
  simp only [ends_bind, ends_print, hpermits.installs.1, hpermits.installs.2, Bool.false_eq_true,
    if_false]
  rw [ends_lift_ok hcurrent, if_neg (by simpa using hnewer)]
  simp only [ends_bind, ends_print]
  rw [ends_lift_ok (withContext_eq_ok.mpr hlocated)]
  refine (ends_confirm_yes hpermits.confirmed).mono ?_ fun _ _ h => h
  rintro confirmed w' ⟨rfl, hfiles⟩
  simp only [if_true, ends_bind, ends_print]
  exact hinstalled w' hfiles

end Updater

namespace Update.Site

variable {V : Type} [LinearOrder V] {site : Site V} {files : Files} {i : Attempt V}
  {current version : V} {platform : String} {bytes binary : List UInt8}

/-- A release of the workflow is there for the run, newer than the version that is installed, or
asked for. -/
structure Offers (site : Site V) (i : Attempt V) (current version : V) (platform : String)
    (bytes binary : List UInt8) : Prop where
  supported : i.updater.platform = .ok platform
  selected : ∃ requested, i.updater.requested i.args = .ok requested ∧
    i.updater.release requested = .ok (Package.release (site.semver.display version)) ∧
    (requested = some version ∨
      requested = none ∧ site.semver.preIsEmpty version = true ∧ current < version)
  ships : i.updater.Ships version platform bytes binary

/-- The program of the release that is the latest one finds nothing to do. -/
lemma Runs.leaves_latest (hS : site.semver.RoundTrips) (h : site.Runs files i)
    (hholds : site.Holds files version) (hwanted : i.updater.requested i.args = .ok none)
    (hlatest : i.updater.release none = .ok (Package.release (site.semver.display version))) :
    i.leaves files = files := by
  rcases updated_leaves h.contract with hsame | ⟨_, release, requested, version', _, _, hchosen, -⟩
  · exact hsame
  obtain rfl := Except.ok.inj (hwanted.symm.trans hchosen.wanted)
  obtain rfl := Except.ok.inj (hlatest.symm.trans hchosen.found)
  have htag := hchosen.published.tag
  rw [h.semver] at htag
  obtain rfl := hS.display_inj (String.append_right_inj _ |>.mp htag)
  obtain ⟨installed, hinstalled, hnewer⟩ := hchosen.newer rfl
  obtain ⟨running, hrunning, hpackage⟩ := h.version
  rw [h.semver, hpackage, hS running] at hinstalled
  obtain rfl := Except.ok.inj hinstalled
  obtain rfl := hholds.unique hS hrunning
  exact absurd hnewer (lt_irrefl _)

/-- **An update happens.**  Where the user and the operating system permit it and the network serves
a release as the workflow makes it, a run of the updater installs the binary of the release, and
touches no other file; the program that is installed then reports the version, and finds nothing
more to do as long as the release is the latest one. -/
theorem update_completes (hS : site.semver.RoundTrips) (h : site.Runs files i)
    (hholds : site.Holds files current)
    (hoffers : site.Offers i current version platform bytes binary)
    (hpermits : i.updater.Permits i.args site.executable platform files) :
    ∃ w, i.updater.run i.args ⟨files, [], []⟩ = .ok () w ∧
      w.files = Function.update files site.executable (some binary) ∧ site.Holds w.files version ∧
      ∀ j, site.Runs w.files j → j.updater.requested j.args = .ok none →
        j.updater.release none = .ok (Package.release (site.semver.display version)) →
          j.leaves w.files = w.files := by
  obtain ⟨running, hrunning, hpackage⟩ := h.version
  obtain rfl := hholds.unique hS hrunning
  obtain ⟨content, output, hfile, -⟩ := hholds
  obtain ⟨requested, hwanted, hfound, hselected⟩ := hoffers.selected
  have hends := Updater.ends_run_shipped (w := ⟨files, [], []⟩) (h.semver ▸ hS) h.contract
    h.located (by simp [hfile]) hoffers.supported hwanted (h.semver ▸ hfound)
    (by rw [h.semver, hpackage, hS]) (h.semver ▸ hselected) hoffers.ships hpermits
  unfold Ends at hends
  split at hends
  · next w hrun =>
    have hreports := hoffers.ships.reports
    rw [Updater.Reports, h.semver, h.execute] at hreports
    obtain ⟨output', houtput', hreports'⟩ := hreports
    have hinstalled : site.Holds w.files version :=
      ⟨binary, output', by rw [hends, Function.update_self], houtput', hreports'⟩
    exact ⟨w, hrun, hends, hinstalled, fun j hj hwanted hlatest =>
      hj.leaves_latest hS hinstalled hwanted hlatest⟩
  · exact hends.elim

end Update.Site

/-! ## An example -/

namespace Releases

open Update

lemma sha256_eq (running latest : Fin 3) (content : List UInt8) :
    (updater running latest).sha256 content = if content = NextRelease.packed then
      NextRelease.packedDigest else List.replicate 32 0 := rfl

lemma tarEntries_eq (running latest : Fin 3) (content : List UInt8) (limit : ℕ) :
    (updater running latest).tarEntries content limit = if content = NextRelease.packed then
      .ok (NextRelease.packedEntries.map .ok) else .error "invalid gzip header" := rfl

lemma ships : (updater 1 2).Ships 2 "linux-x86_64" NextRelease.packed (binary 2) where
  build := rfl
  plain := by
    have hplain : (semver.display 2).toList.all (!isWhitespace ·) = true := by decide +kernel
    simp only [List.all_eq_true, Bool.not_eq_true'] at hplain
    exact hplain
  archive := by decide +kernel
  manifest := by decide +kernel
  digests content := by
    rw [sha256_eq]
    split_ifs <;> rfl
  packed := by
    refine ⟨fun _ => [], ?_⟩
    change (updater 1 2).tarEntries NextRelease.packed maxUnpacked = _
    rw [tarEntries_eq, if_pos rfl]
    rfl
  size := by decide
  reports := ⟨_, rfl, rfl, by decide +kernel⟩

lemma offers : site.Offers (update 1 2) 1 2 "linux-x86_64" NextRelease.packed (binary 2) where
  supported := rfl
  selected := ⟨none, rfl, rfl, .inr ⟨rfl, rfl, by decide⟩⟩
  ships := ships

lemma permits (files : Files) :
    (updater 1 2).Permits ⟨false, false, true, none⟩ site.executable "linux-x86_64" files where
  installs := ⟨rfl, rfl⟩
  confirmed := .inl rfl
  parent := by decide
  staged := ⟨_, rfl, fun _ _ => ⟨rfl, rfl, rfl⟩⟩
  replaced _ _ := rfl

end Releases

open Releases Update in
/-- `ovpnlane update --yes` with 0.0.4 installed and 0.0.5 released. -/
theorem update_completes_next : ∃ w, (updater 1 2).run ⟨false, false, true, none⟩ ⟨start, [], []⟩ =
      .ok () w ∧ site.Holds w.files 2 := by
  obtain ⟨w, hrun, -, hholds, -⟩ :=
    Site.update_completes roundTrips (start_runs 2).1 (start_runs 2).2
    offers (permits start)
  exact ⟨w, hrun, hholds⟩

end Ovpnlane
