import Ovpnlane.Construction.Update
import Mathlib.Data.Prod.Lex

/-!
# What stands before the replacement of the executable

`Updater.Gates` lists what must hold of the arguments, the release, the downloads and the candidate
before `self_replace` is called.  Every function of `run` has one lemma that says how it ends, and
the lemmas compose along the binds; the loop over the archive entries carries the invariant
`Unpacked`.  Up to the replacement the updater writes to its staging directory only, and that is
removed however the updater ends; so a run that does not replace the executable leaves every file
as it was.
-/

namespace Ovpnlane

open Text Update

namespace Updater

variable {V : Type} {U : Updater V}

/-! ## Release metadata -/

lemma parseVersion_eq_ok {text : String} {version : V} (h : U.parseVersion text = .ok version) :
    U.semver.buildIsEmpty version = true := by
  obtain ⟨parsed, -, h⟩ := bind_eq_ok.mp h
  obtain ⟨_, hbuild, h⟩ := bind_eq_ok.mp h
  obtain rfl := Except.ok.inj h
  exact ensure_eq_ok.mp hbuild

lemma requireAsset_eq_ok {release : Release} {name : String}
    (h : requireAsset release name = .ok ()) :
    (release.assets.filter (·.name == name)).length = 1 := by
  have hlength := ensure_eq_ok.mp h
  simpa using hlength

/-- What the release has to be for a version to be installed. -/
structure Published (U : Updater V) (release : Release) (requested : Option V) (version : V)
    (platform : String) : Prop where
  draft : release.draft = false
  tag : release.tagName = "v" ++ U.semver.display version
  build : U.semver.buildIsEmpty version = true
  selected : requested = some version ∨
    requested = none ∧ release.prerelease = false ∧ U.semver.preIsEmpty version = true
  archive : (release.assets.filter (·.name == U.archiveName version platform)).length = 1
  checksum :
    (release.assets.filter (·.name == U.archiveName version platform ++ ".sha256")).length = 1

lemma validateRelease_eq_ok [DecidableEq V] {release : Release} {requested : Option V}
    {platform archive : String} {version : V}
    (h : U.validateRelease release requested platform = .ok (version, archive)) :
    U.Published release requested version platform ∧ archive = U.archiveName version platform := by
  obtain ⟨_, hdraft, h⟩ := bind_eq_ok.mp h
  obtain ⟨parsed, hparsed, h⟩ := bind_eq_ok.mp h
  obtain ⟨_, htag, h⟩ := bind_eq_ok.mp h
  obtain ⟨_, hselected, h⟩ := bind_eq_ok.mp h
  obtain ⟨_, harchive, h⟩ := bind_eq_ok.mp h
  obtain ⟨_, hchecksum, h⟩ := bind_eq_ok.mp h
  obtain ⟨rfl, rfl⟩ := Prod.mk.inj (Except.ok.inj h)
  refine ⟨⟨?_, ?_, parseVersion_eq_ok hparsed, ?_, requireAsset_eq_ok harchive,
    requireAsset_eq_ok hchecksum⟩, rfl⟩
  · simpa using ensure_eq_ok.mp hdraft
  · simpa using ensure_eq_ok.mp htag
  · cases requested with
    | none =>
      have hstable := ensure_eq_ok.mp hselected
      exact .inr ⟨rfl, by simpa using hstable⟩
    | some version =>
      have hsame := ensure_eq_ok.mp hselected
      exact .inl (by simpa using hsame)

/-! ## The checksum -/

/-- The manifest names the archive and gives its SHA-256, in digits of either case. -/
def Vouches (U : Updater V) (manifest bytes : List UInt8) (archive : String) : Prop :=
  ∃ text digest, String.fromUTF8? manifest.toByteArray = some text ∧
    splitWhitespace text = [digest, archive] ∧ toAsciiLowercase digest = lowerHex (U.sha256 bytes)

lemma toLower_hexDigit {n : ℕ} (h : n < 16) : (hexDigit n).toLower = hexDigit n := by
  have hall : ∀ n : Fin 16, (hexDigit n).toLower = hexDigit n := by decide
  exact hall ⟨n, h⟩

lemma toAsciiLowercase_lowerHex (bytes : List UInt8) :
    toAsciiLowercase (lowerHex bytes) = lowerHex bytes := by
  unfold toAsciiLowercase lowerHex
  rw [String.toList_ofList]
  congr 1
  induction bytes with
  | nil => rfl
  | cons b bytes ih =>
    have hb := b.toNat_lt
    simp only [List.flatMap_cons, List.map_append, ih, List.map_cons, List.map_nil]
    rw [toLower_hexDigit (by omega), toLower_hexDigit (by omega)]

lemma verifyChecksum_eq_ok {bytes manifest : List UInt8} {archive : String}
    (h : U.verifyChecksum bytes manifest archive = .ok ()) : U.Vouches manifest bytes archive := by
  obtain ⟨text, htext, h⟩ := bind_eq_ok.mp h
  split at h
  · rename_i expected name hfields
    obtain ⟨_, hname, h⟩ := bind_eq_ok.mp h
    obtain ⟨_, -, hdigest⟩ := bind_eq_ok.mp h
    have hsame : toAsciiLowercase expected = lowerHex (U.sha256 bytes) := by
      simpa [eqIgnoreAsciiCase, toAsciiLowercase_lowerHex] using ensure_eq_ok.mp hdigest
    obtain rfl : name = archive := by simpa using ensure_eq_ok.mp hname
    exact ⟨text, expected, context_eq_ok.mp htext, hfields, hsame⟩
  · cases h

/-! ## The archive -/

end Updater

namespace Update

/-- The one entry with a property. -/
def Only {E : Type} (P : E → Prop) (entries : List E) (entry : E) : Prop :=
  ∃ before after, entries = before ++ entry :: after ∧ P entry ∧
    ∀ other ∈ before ++ after, ¬ P other

lemma ZipEntry.named_iff {entry : ZipEntry} {name : String} :
    (entry.presented name).named = true ↔ entry.name = name := beq_iff_eq

/-- A mode that is there is none at all, or that of a regular file. -/
lemma ZipEntry.regular_iff {entry : ZipEntry} {name : String} :
    (entry.presented name).regular = true ↔ entry.isFile = true ∧ ∀ mode,
      entry.unixMode = some mode → mode &&& 0o170000 = 0 ∨ mode &&& 0o170000 = 0o100000 := by
  simp only [ZipEntry.presented, Bool.and_eq_true, Bool.or_eq_true, beq_iff_eq]
  cases entry.unixMode <;> simp

lemma TarEntry.named_iff {entry : TarEntry} {name : String} :
    (entry.presented name).named = true ↔ entry.pathBytes = name.toUTF8.data.toList := beq_iff_eq

variable {E : Type} {f : E → Presented}

/-- Entries that are presented, all of which could be read. -/
lemma map_presented {listed : Except String (List (Except String E))} {presented : List Presented} :
    listed.map (·.map fun entry => entry.map f) = .ok (presented.map .ok) ↔
      ∃ entries : List E, listed = .ok (entries.map .ok) ∧ presented = entries.map f := by
  have hall : ∀ (l : List (Except String E)) (presented : List Presented),
      l.map (fun entry => entry.map f) = presented.map .ok ↔
        ∃ entries : List E, l = entries.map .ok ∧ presented = entries.map f := by
    intro l
    induction l with
    | nil =>
      intro presented
      constructor
      · intro h
        exact ⟨[], rfl, List.map_eq_nil_iff.mp h.symm⟩
      · rintro ⟨entries, hentries, rfl⟩
        rw [List.map_eq_nil_iff.mp hentries.symm]
        rfl
    | cons entry l ih =>
      intro presented
      constructor
      · intro h
        cases presented with
        | nil => cases h
        | cons p presented =>
          obtain ⟨hfirst, hrest⟩ := List.cons_eq_cons.mp h
          cases entry with
          | error text => cases hfirst
          | ok e =>
            obtain ⟨entries, rfl, rfl⟩ := (ih presented).mp hrest
            exact ⟨e :: entries, rfl, by rw [← Except.ok.inj hfirst]; rfl⟩
      · rintro ⟨entries, hentries, rfl⟩
        rw [hentries, List.map_map, List.map_map]
        rfl
  cases listed with
  | error text => simp [Except.map]
  | ok l => simpa [Except.map] using hall l presented

/-- Of what is presented, one has the name. -/
lemma filter_presented {P : E → Prop} (hnamed : ∀ entry, (f entry).named = true ↔ P entry)
    {entries : List E} {one : Presented} :
    (entries.map f).filter (·.named) = [one] ↔ ∃ entry, Only P entries entry ∧ f entry = one := by
  rw [List.filter_map, List.map_eq_singleton_iff]
  refine exists_congr fun entry => and_congr_left fun _ => ?_
  rw [List.filter_eq_cons_iff]
  refine exists_congr fun before => exists_congr fun after => and_congr_right fun _ => ?_
  simp only [List.filter_eq_nil_iff, Function.comp_apply, hnamed, List.forall_mem_append]
  tauto

end Update

namespace Updater

variable {V : Type} {U : Updater V}

/-- From one world to a later one: only `output` was written. -/
structure Spares (output : Path) (w w' : World) : Prop where
  files : ∀ path, path ≠ output → w'.files path = w.files path
  replacements : w'.replacements = w.replacements

lemma Spares.refl (output : Path) (w : World) : Spares output w w := ⟨fun _ _ => rfl, rfl⟩

lemma Spares.trans {output : Path} {w w' w'' : World} (h : Spares output w w')
    (h' : Spares output w' w'') : Spares output w w'' :=
  ⟨fun path hpath => (h'.files path hpath).trans (h.files path hpath),
    h'.replacements.trans h.replacements⟩

/-- The bytes of an entry that may become the executable. -/
structure Executable (content : Reading) : Prop where
  whole : content.failure = none
  nonempty : 0 < content.bytes.length
  fits : content.bytes.length ≤ maxDownload

lemma copied_eq_ok {reader : Reading} {limit : ℕ} (h : reader.copied limit = .ok ())
    (hfits : (reader.bytes.take limit).length < limit) : reader.failure = none := by
  unfold Reading.copied at h
  split at h
  · have hlimit := ensure_eq_ok.mp h
    rw [List.length_take] at hfits
    simp only [decide_eq_true_eq] at hlimit
    omega
  · assumption

/-- `write_candidate` writes a new file, with all the bytes of the entry if it succeeds. -/
lemma ends_writeCandidate (reader : Reading) (output : Path) (w : World) :
    Ends (U.writeCandidate reader output) w
      (fun _ w' => Executable reader ∧
        w' = { w with files := Function.update w.files output (some reader.bytes) })
      (fun _ w' => Spares output w w') := by
  unfold writeCandidate
  simp only [ends_bind, ends_get, ends_lift, ends_ensure, ends_set]
  have hspares (content : Option (List UInt8)) :
      Spares output w { w with files := Function.update w.files output content } :=
    ⟨fun path hpath => Function.update_of_ne hpath _ _, rfl⟩
  refine ⟨fun _ _ =>
    ⟨fun _ => ⟨fun _ hcopied => ⟨fun hsize => ⟨fun _ _ => ?_, ?_⟩, ?_⟩, ?_⟩, ?_⟩, ?_⟩
  · simp only [Bool.and_eq_true, decide_eq_true_eq] at hsize
    have hwhole := copied_eq_ok hcopied (by omega)
    have hlength : reader.bytes.length ≤ maxDownload := by
      have htake := hsize.2
      rw [List.length_take] at htake
      omega
    have htake : reader.bytes.take (maxDownload + 1) = reader.bytes :=
      List.take_of_length_le (by omega)
    rw [htake] at hsize ⊢
    exact ⟨⟨hwhole, hsize.1, hlength⟩, rfl⟩
  all_goals intros
  · exact hspares _
  · exact hspares _
  · exact hspares _
  · exact .refl output w
  · exact .refl output w

/-- What the loop over the entries has done after the entries `done`: they could all be read; if the
executable was found it is the only entry of its name, a regular file, and it is in `output`. -/
structure Unpacked (output : Path) (w : World) (done : List (Except String Presented))
    (found : Bool) (w' : World) : Prop where
  spares : Spares output w w'
  read : ∃ entries : List Presented, done = entries.map .ok ∧
    (found = false → entries.filter (·.named) = []) ∧
    (found = true → ∃ entry, entries.filter (·.named) = [entry] ∧ entry.regular = true ∧
      Executable entry.content ∧ w'.files output = some entry.content.bytes)

lemma unpacked_nil (output : Path) (w : World) : Unpacked output w [] false w :=
  ⟨.refl output w, [], rfl, fun _ => rfl, by simp⟩

/-- One iteration keeps the invariant. -/
lemma ends_unpackEntry {output : Path} {w w' : World} {done : List (Except String Presented)}
    {found : Bool} (h : Unpacked output w done found w') (entry : Except String Presented) :
    Ends (U.unpackEntry output found entry) w' (Unpacked output w (done ++ [entry]))
      (fun _ w'' => Spares output w w'') := by
  obtain ⟨hspares, entries, rfl, habsent, hpresent⟩ := h
  unfold unpackEntry
  simp only [ends_bind, ends_lift]
  refine ⟨?_, fun _ _ => hspares⟩
  rintro entry rfl
  cases hnamed : entry.named with
  | false =>
    refine ⟨hspares, entries ++ [entry], by simp, fun hfound => ?_, fun hfound => ?_⟩
    · simp [hnamed, habsent hfound]
    · obtain ⟨found, hfilter, hrest⟩ := hpresent hfound
      exact ⟨found, by simp [hnamed, hfilter], hrest⟩
  | true =>
    simp only [if_true, ends_bind, ends_ensure, ends_pure]
    refine ⟨fun hregular => ⟨fun hfound => ?_, fun _ => hspares⟩, fun _ => hspares⟩
    refine (ends_writeCandidate entry.content output w').mono ?_ fun _ _ h => hspares.trans h
    rintro _ _ ⟨hexecutable, rfl⟩
    refine ⟨hspares.trans ⟨fun path hpath => Function.update_of_ne hpath _ _, rfl⟩,
      entries ++ [entry], by simp, by simp, fun _ => ⟨entry, ?_, hregular, hexecutable, ?_⟩⟩
    · simp [hnamed, habsent (by simpa using hfound)]
    · exact Function.update_self _ _ _

/-- The archive is read to its end, and one of its entries has the name of the executable: a regular
file with this content. -/
def Contains (U : Updater V) (bytes : List UInt8) (windows : Bool) (content : List UInt8) : Prop :=
  match windows with
  | true => ∃ entries entry, U.zipEntries bytes = .ok (entries.map .ok) ∧
    Only (fun entry => entry.name = "ovpnlane.exe") entries entry ∧ entry.isFile = true ∧
    (∀ mode, entry.unixMode = some mode → mode &&& 0o170000 = 0 ∨ mode &&& 0o170000 = 0o100000) ∧
    Executable entry.content ∧ entry.content.bytes = content
  | false => ∃ entries entry, U.tarEntries bytes maxUnpacked = .ok (entries.map .ok) ∧
    Only (fun entry => entry.pathBytes = "ovpnlane".toUTF8.data.toList) entries entry ∧
    entry.isFile = true ∧ Executable entry.content ∧ entry.content.bytes = content

lemma contains_iff {bytes : List UInt8} {windows : Bool} {content : List UInt8} :
    U.Contains bytes windows content ↔ ∃ entries : List Presented,
      U.entries bytes windows = .ok (entries.map .ok) ∧ ∃ entry,
        entries.filter (·.named) = [entry] ∧ entry.regular = true ∧ Executable entry.content ∧
          entry.content.bytes = content := by
  cases windows with
  | true =>
    have hnamed := fun entry : ZipEntry => @ZipEntry.named_iff entry (binaryName true)
    rw [Contains, Updater.entries, if_pos rfl]
    constructor
    · rintro ⟨entries, entry, hlisted, honly, hfile, hmode, hcontent⟩
      refine ⟨_, map_presented.mpr ⟨entries, hlisted, rfl⟩, _,
        (filter_presented hnamed).mpr ⟨entry, honly, rfl⟩, ?_, hcontent⟩
      exact ZipEntry.regular_iff.mpr ⟨hfile, hmode⟩
    · rintro ⟨presented, hpresented, _, hone, hregular, hcontent⟩
      obtain ⟨entries, hlisted, rfl⟩ := map_presented.mp hpresented
      obtain ⟨entry, honly, rfl⟩ := (filter_presented hnamed).mp hone
      obtain ⟨hfile, hmode⟩ := ZipEntry.regular_iff.mp hregular
      exact ⟨entries, entry, hlisted, honly, hfile, hmode, hcontent⟩
  | false =>
    have hnamed := fun entry : TarEntry => @TarEntry.named_iff entry (binaryName false)
    rw [Contains, Updater.entries, if_neg Bool.false_ne_true]
    constructor
    · rintro ⟨entries, entry, hlisted, honly, hfile, hcontent⟩
      exact ⟨_, map_presented.mpr ⟨entries, hlisted, rfl⟩, _,
        (filter_presented hnamed).mpr ⟨entry, honly, rfl⟩, hfile, hcontent⟩
    · rintro ⟨presented, hpresented, _, hone, hregular, hcontent⟩
      obtain ⟨entries, hlisted, rfl⟩ := map_presented.mp hpresented
      obtain ⟨entry, honly, rfl⟩ := (filter_presented hnamed).mp hone
      exact ⟨entries, entry, hlisted, honly, hregular, hcontent⟩

/-- `unpack_binary` leaves the one executable of the archive in the destination, and writes nothing
else. -/
lemma ends_unpackBinary (bytes : List UInt8) (windows : Bool) (destination : Path) (w : World) :
    Ends (U.unpackBinary bytes windows destination) w
      (fun candidate w' => candidate = destination ++ [binaryName windows] ∧
        Spares candidate w w' ∧ ∃ content, w'.files candidate = some content ∧
          U.Contains bytes windows content)
      (fun _ w' => Spares (destination ++ [binaryName windows]) w w') := by
  unfold unpackBinary
  simp only [ends_bind, ends_lift]
  refine ⟨fun entries hentries => ?_, fun _ _ => .refl _ w⟩
  have hloop : Ends (entries.foldlM (U.unpackEntry (destination ++ [binaryName windows])) false) w
      (Unpacked (destination ++ [binaryName windows]) w ([] ++ entries))
      (fun _ w' => Spares (destination ++ [binaryName windows]) w w') :=
    ends_foldlM (I := Unpacked (destination ++ [binaryName windows]) w)
      (fun _ _ entry _ h => ends_unpackEntry h entry) (unpacked_nil _ w)
  rw [List.nil_append] at hloop
  refine hloop.mono (fun found w' hunpacked => ?_) fun _ _ h => h
  obtain ⟨hspares, read, rfl, -, hpresent⟩ := hunpacked
  simp only [ends_ensure, ends_pure]
  refine ⟨fun hfound => ⟨fun _ _ => ⟨trivial, hspares, ?_⟩, fun _ _ => hspares⟩, fun _ => hspares⟩
  obtain ⟨entry, hfilter, hregular, hexecutable, hfile⟩ := hpresent hfound
  exact ⟨_, hfile, contains_iff.mpr ⟨read, hentries, entry, hfilter, hregular, hexecutable, rfl⟩⟩

/-! ## The gates -/

/-- What is documented of the crates that touch the file system: a temporary directory is new among
the files there are, and is removed with all that is in it when it goes out of scope; `self_replace`
puts a copy of the candidate in place of the executable or leaves everything alone.  On Windows it
renames the running program first, and deletes it when that has ended: there the last two are about
the other files, and assume that nothing fails after the renaming. -/
structure Contract (U : Updater V) (existing : Files) : Prop where
  fresh : ∀ directory name, U.tempdirIn directory existing = .ok name →
    ∀ path, directory ++ [name] <+: path → existing path = none
  removes : ∀ directory files path,
    U.removeDir directory files path = if directory <+: path then none else files path
  replaces : ∀ executable candidate files, U.currentExe = .ok executable →
    (U.selfReplace candidate files).1 = .ok () →
      (U.selfReplace candidate files).2 = Function.update files executable (files candidate)
  keeps : ∀ candidate files error, (U.selfReplace candidate files).1 = .error error →
    (U.selfReplace candidate files).2 = files

/-- `--yes` or an interactive `y` or `yes`. -/
def Confirmed (U : Updater V) (args : UpdateArgs) : Prop :=
  args.yes = true ∨ U.isTerminal = true ∧ ∃ answer, U.readLine = .ok answer ∧
    toAsciiLowercase (trim answer) ∈ ["y", "yes"]

/-- The downloads of a release hold this executable for this platform, under a checksum that names
the archive. -/
def Downloaded (U : Updater V) (release : Release) (version : V) (platform : String)
    (content : List UInt8) : Prop :=
  let url := downloads ++ "/" ++ release.tagName ++ "/" ++ U.archiveName version platform
  ∃ bytes manifest, U.download url maxDownload = .ok bytes ∧
    U.download (url ++ ".sha256") 4096 = .ok manifest ∧
    U.Vouches manifest bytes (U.archiveName version platform) ∧
    U.Contains bytes (startsWith platform "windows-") content

/-- The candidate reports the version. -/
def Reports (U : Updater V) (content : List UInt8) (version : V) : Prop :=
  ∃ output, U.execute content = .ok output ∧ output.success = true ∧
    trim output.stdout = "ovpnlane " ++ U.semver.display version

/-- Everything that must hold before the executable is replaced by `content`. -/
structure Gates [LinearOrder V] (U : Updater V) (args : UpdateArgs) (content : List UInt8) :
    Prop where
  installs : args.check = false ∧ args.dryRun = false
  confirmed : U.Confirmed args
  released : ∃ platform requested release version, U.platform = .ok platform ∧
    U.requested args = .ok requested ∧ U.release requested = .ok release ∧
    U.Published release requested version platform ∧
    (requested = none → ∃ current, U.semver.parse U.packageVersion = .ok current ∧
      current < version) ∧
    U.Downloaded release version platform content ∧ U.Reports content version

/-- From one world to a later one: no file was touched, and nothing was replaced. -/
structure Same (w w' : World) : Prop where
  files : w'.files = w.files
  replacements : w'.replacements = w.replacements

lemma Same.refl (w : World) : Same w w := ⟨rfl, rfl⟩

lemma same_print (w : World) (line : String) :
    Same w { w with printed := w.printed ++ [line] } := ⟨rfl, rfl⟩

@[simp] lemma ends_print {line : String} {w : World} {ok : Unit → World → Prop}
    {error : String → World → Prop} :
    Ends (print line) w ok error ↔ ok () { w with printed := w.printed ++ [line] } := Iff.rfl

lemma ends_confirm (args : UpdateArgs) (w : World) :
    Ends (U.confirm args) w (fun confirmed w' => Same w w' ∧ (confirmed = true → U.Confirmed args))
      (fun _ w' => Same w w') := by
  unfold confirm
  cases hyes : args.yes with
  | true => exact ⟨.refl w, fun _ => .inl hyes⟩
  | false =>
    simp only [Bool.false_eq_true, if_false, ends_bind, ends_lift, ends_ensure, ends_pure,
      ends_print]
    refine ⟨fun hterminal => ⟨fun _ _ =>
      ⟨fun answer hanswer => ⟨same_print w _, fun hcontains => ?_⟩,
      fun _ _ => same_print w _⟩, fun _ _ => same_print w _⟩, fun _ => .refl w⟩
    exact .inr ⟨hterminal, answer, hanswer, by simpa using hcontains⟩

lemma ends_runCandidate (candidate : Path) (available : V) (w : World) :
    Ends (U.runCandidate candidate available) w
      (fun _ w' => w' = w ∧ ∃ content, w.files candidate = some content ∧
        U.Reports content available)
      (fun _ w' => w' = w) := by
  unfold runCandidate
  simp only [ends_bind, ends_get, ends_lift, ends_ensure]
  refine ⟨fun content hcontent => ⟨fun output houtput => ⟨fun hreports => ?_, fun _ => trivial⟩,
    fun _ _ => trivial⟩, fun _ _ => trivial⟩
  simp only [Bool.and_eq_true, beq_iff_eq] at hreports
  exact ⟨trivial, content, context_eq_ok.mp hcontent, output,
    withContext_eq_ok.mp houtput, hreports⟩

/-- `self_replace` is called for the content of the candidate. -/
lemma ends_replace {existing : Files} (C : U.Contract existing) {executable candidate : Path}
    {content : List UInt8} {w : World}
    (hexecutable : U.currentExe = .ok executable) (hcontent : w.files candidate = some content) :
    Ends (U.replace candidate) w
      (fun _ w' => w'.files = Function.update w.files executable (some content) ∧
        w'.replacements = w.replacements ++ [content])
      (fun _ w' => w'.files = w.files ∧ w'.replacements = w.replacements ++ [content]) := by
  unfold replace
  simp only [ends_bind, ends_get, ends_set, ends_lift, hcontent, Option.toList_some, and_true]
  constructor
  · intro _ hok
    rw [C.replaces executable candidate w.files hexecutable (withContext_eq_ok.mp hok), hcontent]
  · intro error herror
    cases hresult : (U.selfReplace candidate w.files).1 with
    | ok _ => simp [hresult, withContext, Except.mapError] at herror
    | error text => exact C.keeps candidate w.files text hresult

/-- A candidate that may replace the executable. -/
def Admitted (U : Updater V) (release : Release) (version : V) (platform : String)
    (content : List UInt8) : Prop :=
  U.Downloaded release version platform content ∧ U.Reports content version

/-- The staging directory gets the candidate; the executable is replaced by an admitted one. -/
lemma ends_installIn {existing : Files} (C : U.Contract existing) {executable : Path}
    (hexecutable : U.currentExe = .ok executable) (staging : Path) (release : Release) (version : V)
    (platform : String) (w : World) :
    Ends (U.installIn staging release version (U.archiveName version platform) platform) w
      (fun _ w' => ∃ content, U.Admitted release version platform content ∧
        w'.replacements = w.replacements ++ [content] ∧ w'.files executable = some content ∧
        ∀ path, path ≠ executable → ¬ staging <+: path → w'.files path = w.files path)
      (fun _ w' => (w'.replacements = w.replacements ∨ ∃ content,
          U.Admitted release version platform content ∧
            w'.replacements = w.replacements ++ [content]) ∧
        ∀ path, ¬ staging <+: path → w'.files path = w.files path) := by
  have hspared {candidate : Path} {w' : World}
      (hcandidate : candidate = staging ++ [binaryName (startsWith platform "windows-")])
      (hspares : Spares candidate w w') (path : Path) (hpath : ¬ staging <+: path) :
      w'.files path = w.files path := by
    apply hspares.files path
    rintro rfl
    exact hpath (hcandidate ▸ List.prefix_append _ _)
  unfold installIn
  simp only [ends_bind, ends_lift]
  refine ⟨fun bytes hbytes => ⟨fun manifest hmanifest => ⟨fun _ hchecksum => ?_, ?_⟩, ?_⟩, ?_⟩
  · have hvouches := verifyChecksum_eq_ok hchecksum
    refine (ends_unpackBinary bytes _ staging w).mono ?_
      fun _ w' hspares => ⟨.inl hspares.replacements, hspared rfl hspares⟩
    rintro candidate w₁ ⟨hcandidate, hspares, content, hcontent, hcontains⟩
    have hdownloaded : U.Downloaded release version platform content :=
      ⟨bytes, manifest, hbytes, hmanifest, hvouches, hcontains⟩
    refine (ends_runCandidate candidate version w₁).mono ?_ ?_
    · rintro _ _ ⟨rfl, content', hcontent', hreports⟩
      obtain rfl : content = content' := Option.some.inj (hcontent.symm.trans hcontent')
      refine (ends_replace C hexecutable hcontent).mono ?_ ?_
      · rintro _ w' ⟨hfiles, hreplacements⟩
        refine ⟨content, ⟨hdownloaded, hreports⟩, ?_, ?_, fun path hne hpath => ?_⟩
        · rw [hreplacements, hspares.replacements]
        · rw [hfiles, Function.update_self]
        · rw [hfiles, Function.update_of_ne hne, hspared hcandidate hspares path hpath]
      · rintro _ w' ⟨hfiles, hreplacements⟩
        refine ⟨.inr ⟨content, ⟨hdownloaded, hreports⟩, ?_⟩, fun path hpath => ?_⟩
        · rw [hreplacements, hspares.replacements]
        · rw [hfiles, hspared hcandidate hspares path hpath]
    · rintro _ _ rfl
      exact ⟨.inl hspares.replacements, hspared hcandidate hspares⟩
  all_goals exact fun _ _ => ⟨.inl trivial, fun _ _ => trivial⟩

/-- From one world to a later one: the executable was replaced, and no other file was touched. -/
structure Replaced (executable : Path) (content : List UInt8) (w w' : World) : Prop where
  replacements : w'.replacements = w.replacements ++ [content]
  installed : w.files executable ≠ none → w'.files executable = some content
  others : ∀ path, path ≠ executable → w'.files path = w.files path

/-- The staging directory is new, and nothing is left of it. -/
lemma ends_install {w : World} (C : U.Contract w.files) {executable : Path}
    (hexecutable : U.currentExe = .ok executable) (release : Release) (version : V)
    (platform : String) :
    Ends (U.install executable release version (U.archiveName version platform) platform) w
      (fun _ w' => ∃ content, U.Admitted release version platform content ∧
        Replaced executable content w w')
      (fun _ w' => w'.files = w.files ∧ (w'.replacements = w.replacements ∨ ∃ content,
          U.Admitted release version platform content ∧
            w'.replacements = w.replacements ++ [content])) := by
  unfold install
  simp only [ends_bind, ends_lift, ends_get, ends_clearing]
  refine ⟨fun directory _ => ⟨fun name hname => ?_, fun _ _ => ⟨trivial, .inl trivial⟩⟩,
    fun _ _ => ⟨trivial, .inl trivial⟩⟩
  have hfresh := C.fresh directory name (withContext_eq_ok.mp hname)
  refine (ends_installIn C hexecutable (directory ++ [name]) release version platform w).mono ?_ ?_
  · rintro _ w' ⟨content, hadmitted, hreplacements, hinstalled, hothers⟩
    refine ⟨content, hadmitted, hreplacements, fun hexists => ?_, fun path hne => ?_⟩
    · have houtside : ¬ directory ++ [name] <+: executable := fun hstaged =>
        hexists (hfresh executable hstaged)
      simp only [C.removes, if_neg houtside, hinstalled]
    · by_cases hstaged : directory ++ [name] <+: path
      · simp only [C.removes, if_pos hstaged, hfresh path hstaged]
      · simp only [C.removes, if_neg hstaged, hothers path hne hstaged]
  · rintro _ w' ⟨hreplacements, hothers⟩
    refine ⟨funext fun path => ?_, hreplacements⟩
    by_cases hstaged : directory ++ [name] <+: path
    · simp only [C.removes, if_pos hstaged, hfresh path hstaged]
    · simp only [C.removes, if_neg hstaged, hothers path hstaged]

/-- What a run that returns has done: nothing, or the executable was replaced through the gates. -/
def Completed [LinearOrder V] (U : Updater V) (args : UpdateArgs) (w w' : World) : Prop :=
  Same w w' ∨ ∃ executable content, U.currentExe = .ok executable ∧ U.Gates args content ∧
    Replaced executable content w w'

/-- What a run that fails has done: every file is as it was, even if `self_replace` was called, and
that happens only through the gates. -/
def Failed [LinearOrder V] (U : Updater V) (args : UpdateArgs) (w w' : World) : Prop :=
  w'.files = w.files ∧ (w'.replacements = w.replacements ∨ ∃ content, U.Gates args content ∧
    w'.replacements = w.replacements ++ [content])

lemma Same.failed [LinearOrder V] {args : UpdateArgs} {w w' : World} (h : Same w w') :
    U.Failed args w w' := ⟨h.files, .inl h.replacements⟩

/-- The executable is replaced only through all the gates, and a run that does not replace it, or
that fails, leaves every file as it was. -/
theorem replaced_through_gates [LinearOrder V] {w : World} (C : U.Contract w.files)
    (args : UpdateArgs) :
    Ends (U.run args) w (fun _ => U.Completed args w) (fun _ => U.Failed args w) := by
  unfold run
  simp only [ends_bind, ends_lift]
  refine ⟨fun platform hplatform => ⟨fun requested hrequested => ⟨fun release hrelease =>
    ⟨fun selected hselected => ?_, fun _ _ => (Same.refl w).failed⟩,
    fun _ _ => (Same.refl w).failed⟩, fun _ _ => (Same.refl w).failed⟩,
    fun _ _ => (Same.refl w).failed⟩
  obtain ⟨version, archive⟩ := selected
  obtain ⟨hpublished, rfl⟩ := validateRelease_eq_ok hselected
  simp only [ends_print]
  refine ⟨fun current hcurrent => ?_, fun _ _ => (Same.refl w).failed⟩
  cases hcheck : args.check with
  | true => exact .inl ⟨rfl, rfl⟩
  | false =>
    simp only [Bool.false_eq_true, if_false]
    split
    · exact .inl ⟨rfl, rfl⟩
    · rename_i hnewer
      simp only [ends_bind, ends_lift, ends_print]
      refine ⟨fun executable hexecutable => ?_, fun _ _ => Same.failed ⟨rfl, rfl⟩⟩
      cases hdry : args.dryRun with
      | true => exact .inl ⟨rfl, rfl⟩
      | false =>
        have hexe : U.currentExe = .ok executable := withContext_eq_ok.mp hexecutable
        have hgates {content : List UInt8} (hconfirmed : U.Confirmed args)
            (hadmitted : U.Admitted release version platform content) : U.Gates args content := by
          refine ⟨⟨hcheck, hdry⟩, hconfirmed, platform, requested, release, version, hplatform,
            hrequested, hrelease, hpublished, fun hnone => ⟨current, hcurrent, ?_⟩, hadmitted⟩
          simpa [hnone] using hnewer
        simp only [Bool.false_eq_true, if_false, ends_bind]
        refine (ends_confirm args _).mono ?_ fun _ w' hsame =>
          Same.failed ⟨hsame.files, hsame.replacements⟩
        rintro confirmed w' ⟨⟨hfiles, hreplacements⟩, hconfirmed⟩
        cases confirmed with
        | false => exact .inl ⟨hfiles, hreplacements⟩
        | true =>
          simp only [if_true, ends_bind, ends_print]
          dsimp only at hfiles hreplacements
          have hcontract : U.Contract w'.files := hfiles ▸ C
          refine (ends_install hcontract hexe release version platform).mono ?_ ?_
          · rintro _ w'' ⟨content, hadmitted, hreplaced⟩
            refine .inr ⟨executable, content, hexe, hgates (hconfirmed rfl) hadmitted, ?_⟩
            obtain ⟨hlog, hinstalled, hothers⟩ := hreplaced
            rw [hreplacements] at hlog
            rw [hfiles] at hinstalled hothers
            exact ⟨hlog, hinstalled, hothers⟩
          · rintro _ w'' ⟨hsame, hlog⟩
            rw [hreplacements] at hlog
            refine ⟨hsame.trans hfiles, hlog.imp_right ?_⟩
            rintro ⟨content, hadmitted, hcalled⟩
            exact ⟨content, hgates (hconfirmed rfl) hadmitted, hcalled⟩

end Updater

/-! ## An update -/

namespace NextRelease

def archive : List UInt8 :=
  [31, 139, 8, 0, 0, 0, 0, 0, 2, 255, 203, 47, 43, 200, 203, 73, 204, 75, 101, 160, 33, 48, 0, 2,
    115, 83, 83, 48, 13, 4, 232, 52, 16, 152, 33, 177, 65, 226, 230, 166, 134, 134, 12, 10, 6, 12,
    116, 0, 165, 197, 37, 137, 69, 64, 43, 25, 70, 38, 72, 202, 204, 75, 44, 170, 100, 24, 5, 163,
    96, 20, 140, 130, 81, 48, 194, 0, 0, 232, 175, 250, 16, 0, 8, 0, 0]

def digest : List UInt8 :=
  [99, 48, 175, 225, 151, 43, 89, 94, 93, 57, 1, 56, 95, 57, 144, 238, 142, 102, 53, 246, 44, 234,
    203, 24, 100, 150, 62, 91, 229, 159, 136, 80]

/-- An archive with the documents, which are empty. -/
def packed : List UInt8 :=
  [31, 139, 8, 0, 0, 0, 0, 0, 2, 255, 237, 213, 193, 10, 130, 48, 28, 6, 240, 61, 74, 79, 32, 155,
    184, 237, 44, 58, 84, 48, 11, 245, 210, 73, 140, 58, 4, 101, 97, 22, 245, 246, 173, 232, 16,
    30, 130, 69, 219, 197, 239, 231, 97, 67, 6, 59, 124, 252, 191, 29, 175, 167, 110, 223, 118, 91,
    98, 17, 213, 36, 231, 175, 85, 27, 175, 154, 248, 216, 63, 255, 75, 206, 24, 153, 81, 226, 192,
    229, 60, 180, 189, 190, 146, 76, 211, 122, 215, 181, 253, 157, 192, 68, 213, 105, 86, 198, 205,
    50, 44, 235, 85, 147, 103, 145, 42, 42, 85, 121, 195, 109, 248, 247, 252, 139, 32, 248, 50,
    255, 163, 61, 99, 130, 249, 152, 127, 23, 74, 21, 198, 115, 229, 29, 54, 150, 251, 223, 40,
    127, 42, 125, 228, 239, 198, 123, 230, 173, 222, 97, 158, 191, 144, 1, 69, 254, 142, 251, 223,
    90, 9, 152, 247, 191, 254, 4, 242, 119, 33, 74, 195, 34, 81, 249, 34, 177, 248, 4, 252, 208,
    255, 92, 31, 71, 254, 0, 0, 0, 0, 0, 0, 0, 0, 0, 0, 0, 0, 0, 134, 30, 240, 75, 112, 57, 0, 40,
    0, 0]

def packedDigest : List UInt8 :=
  [250, 155, 182, 135, 183, 222, 188, 91, 213, 51, 40, 162, 86, 108, 20, 74, 165, 183, 55, 122,
    194, 170, 84, 160, 217, 116, 181, 242, 6, 236, 230, 137]

/-- A zip archive with `ovpnlane.exe` and one document. -/
def zipped : List UInt8 :=
  [80, 75, 3, 4, 20, 0, 0, 0, 8, 0, 0, 0, 33, 0, 5, 233, 224, 198, 8, 0, 0, 0, 6, 0, 0, 0, 12, 0,
    0, 0, 111, 118, 112, 110, 108, 97, 110, 101, 46, 101, 120, 101, 75, 202, 204, 75, 44, 170, 4,
    0, 80, 75, 3, 4, 20, 0, 0, 0, 8, 0, 0, 0, 33, 0, 0, 0, 0, 0, 2, 0, 0, 0, 0, 0, 0, 0, 9, 0, 0,
    0, 82, 69, 65, 68, 77, 69, 46, 109, 100, 3, 0, 80, 75, 1, 2, 20, 3, 20, 0, 0, 0, 8, 0, 0, 0,
    33, 0, 5, 233, 224, 198, 8, 0, 0, 0, 6, 0, 0, 0, 12, 0, 0, 0, 0, 0, 0, 0, 0, 0, 0, 0, 237, 129,
    0, 0, 0, 0, 111, 118, 112, 110, 108, 97, 110, 101, 46, 101, 120, 101, 80, 75, 1, 2, 20, 3, 20,
    0, 0, 0, 8, 0, 0, 0, 33, 0, 0, 0, 0, 0, 2, 0, 0, 0, 0, 0, 0, 0, 9, 0, 0, 0, 0, 0, 0, 0, 0, 0,
    0, 0, 164, 129, 50, 0, 0, 0, 82, 69, 65, 68, 77, 69, 46, 109, 100, 80, 75, 5, 6, 0, 0, 0, 0, 2,
    0, 2, 0, 113, 0, 0, 0, 91, 0, 0, 0, 0, 0]

def name : String := "ovpnlane-0.0.5-linux-x86_64.tar.gz"

/-- What `sha256sum` prints for the archive. -/
def manifest : List UInt8 :=
  ("6330afe1972b595e5d3901385f3990ee8e6635f62ceacb1864963e5be59f8850  " ++ name ++ "\n").toList.map
    fun c => .ofNat c.toNat

/-- The file `ovpnlane` of the archive. -/
def binary : List UInt8 := [98, 105, 110, 97, 114, 121]

def packedEntries : List TarEntry :=
  ⟨"ovpnlane".toUTF8.data.toList, true, ⟨binary, none⟩⟩ ::
    ["THIRD_PARTY_LICENSES.txt", "README.md", "LICENSE", "THIRD_PARTY.md", "CHANGELOG.md"].map
      fun name => ⟨name.toUTF8.data.toList, true, ⟨[], none⟩⟩

def executable : Path := ["home", "alice", "bin", "ovpnlane"]

def url : String := downloads ++ "/v0.0.5/" ++ name

/-- Version 0.0.4 is installed, and 0.0.5 is the latest release. -/
def updater : Updater (ℕ ×ₗ ℕ ×ₗ ℕ) where
  semver :=
    { parse := fun text =>
        if text = "0.0.4" then .ok (toLex (0, toLex (0, 4)))
        else if text = "0.0.5" then .ok (toLex (0, toLex (0, 5)))
        else .error "unexpected character"
      display := fun version => toString version.1 ++ "." ++ toString version.2.1 ++ "." ++
        toString version.2.2
      preIsEmpty := fun _ => true
      buildIsEmpty := fun _ => true }
  os := "linux"
  arch := "x86_64"
  targetEnv := "gnu"
  packageVersion := "0.0.4"
  fetchRelease := fun address _ =>
    if address = api ++ "/latest" then
      .ok (.ok ⟨"v0.0.5", false, false, [⟨name⟩, ⟨name ++ ".sha256"⟩]⟩)
    else .error "not found"
  fetch := fun address _ =>
    if address = url then .ok (.ok archive)
    else if address = url ++ ".sha256" then .ok (.ok manifest)
    else .error "not found"
  sha256 := fun bytes => if bytes = archive then digest else []
  zipEntries := fun bytes =>
    if bytes = zipped then
      .ok [.ok ⟨"ovpnlane.exe", some 0o100755, true, ⟨binary, none⟩⟩,
        .ok ⟨"README.md", some 0o100644, true, ⟨[], none⟩⟩]
    else .error "invalid Zip archive"
  tarEntries := fun bytes _ =>
    if bytes = archive then .ok [.ok ⟨"ovpnlane".toUTF8.data.toList, true, ⟨binary, none⟩⟩]
    else if bytes = packed then .ok (packedEntries.map .ok)
    else .error "invalid gzip header"
  currentExe := .ok executable
  displayPath := fun path => "/" ++ "/".intercalate path
  isTerminal := false
  flush := .ok ()
  readLine := .ok ""
  tempdirIn := fun _ _ => .ok ".ovpnlane-update-x7Qp2a"
  removeDir := fun directory files path => if directory <+: path then none else files path
  openNew := fun _ => .ok ()
  syncAll := fun _ => .ok ()
  setPermissions := fun _ => .ok ()
  execute := fun content =>
    if content = binary then .ok ⟨true, "ovpnlane 0.0.5\n"⟩ else .error "exec format error"
  selfReplace := fun candidate files =>
    (.ok (), Function.update files executable (files candidate))

def start : World := ⟨fun path => if path = executable then some [111, 108, 100] else none, [], []⟩

lemma contract : updater.Contract start.files where
  fresh := by
    intro directory name hname path hpath
    obtain rfl := Except.ok.inj hname
    have hmem : ".ovpnlane-update-x7Qp2a" ∈ path := hpath.subset (by simp)
    have hne : path ≠ executable := by
      rintro rfl
      revert hmem
      decide
    exact if_neg hne
  removes := fun _ _ _ => rfl
  replaces := by
    intro exe candidate files hexe _
    obtain rfl := Except.ok.inj hexe
    rfl
  keeps := by
    intro _ _ _ herror
    cases herror

end NextRelease

set_option maxRecDepth 8000 in
open NextRelease in
/-- `ovpnlane update --yes`. -/
theorem replaced_through_gates_yes :
    ∃ w', updater.run ⟨false, false, true, none⟩ start = .ok () w' ∧
    w'.files executable = some binary ∧
    updater.Completed ⟨false, false, true, none⟩ start w' :=
  ⟨_, rfl, rfl, Updater.replaced_through_gates contract ⟨false, false, true, none⟩⟩

end Ovpnlane
