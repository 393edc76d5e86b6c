import Ovpnlane.Construction.Connect
import Mathlib.Data.List.Forall2
import Mathlib.Data.List.Nodup

/-!
# The profiles of a directory

What `discover_in` makes of a directory listing, and what `select` finds in the result.

* `discoverIn_eq_ok`: a discovery that succeeds returns one profile for every listed file, in some
  order.
* `selectable_iff`: the IDs are distinct, and every profile is selected by its ID, exactly when no
  two listed files have the same stem.  The extension is compared ignoring case while the ID is the
  bare stem, so on a case-sensitive volume `a.ovpn` and `a.OVPN` share an ID.
-/

namespace Ovpnlane

namespace Connect

/-! ## File names -/

lemma toStr_inj {a b : OsString} {s : String} (ha : toStr a = some s) (hb : toStr b = some s) :
    a = b :=
  (toStr_eq_some.mp ha).trans (toStr_eq_some.mp hb).symm

/-- The last dot of a name, if there is something before it, ends the stem. -/
lemma splitFileName_of_dot {stem ext : OsString} (hstem : stem ≠ []) (hext : 46 ∉ ext)
    (hdots : stem ++ 46 :: ext ≠ [46, 46]) :
    splitFileName (stem ++ 46 :: ext) = (stem, some ext) := by
  have hreverse : (stem ++ 46 :: ext).reverse = ext.reverse ++ 46 :: stem.reverse := by simp
  have hno : ∀ byte ∈ ext.reverse, (byte != 46) = true := by
    intro byte hbyte
    simpa using fun heq : byte = 46 => hext (heq ▸ List.mem_reverse.mp hbyte)
  obtain ⟨last, init, hinit⟩ := List.exists_cons_of_ne_nil (List.reverse_ne_nil_iff.mpr hstem)
  rw [splitFileName, if_neg hdots, hreverse, List.dropWhile_append_of_pos hno,
    List.takeWhile_append_of_pos hno, hinit]
  have hback : (last :: init).reverse = stem := by rw [← hinit, List.reverse_reverse]
  simpa using hback

/-- An extension comes after the last dot, which has something before it. -/
lemma extension_eq_some {name ext : OsString} (h : extension name = some ext) :
    ∃ stem, name = stem ++ 46 :: ext ∧ stem ≠ [] ∧ 46 ∉ ext := by
  unfold extension splitFileName at h
  split_ifs at h
  split at h
  · simp at h
  · simp at h
  · next dot stem hstem hdrop =>
    obtain rfl := Option.some.inj h
    have hsplit := List.takeWhile_append_dropWhile (p := (· != 46)) (l := name.reverse)
    have hdot : dot = 46 := by
      have hhead := List.head?_dropWhile_not (· != 46) name.reverse
      simpa [hdrop] using hhead
    refine ⟨stem.reverse, ?_, by simpa using hstem, fun hmem => ?_⟩
    · have hname := congrArg List.reverse hsplit
      rw [hdrop, hdot, List.reverse_append, List.reverse_reverse] at hname
      apply hname.symm.trans
      simp
    · simpa using List.all_eq_true.mp List.all_takeWhile 46 (List.mem_reverse.mp hmem)

lemma ne_dots_of_ovpn {stem : OsString} {ext : String} (hstem : stem ≠ [])
    (h : Text.eqIgnoreAsciiCase ext "ovpn" = true) : stem ++ 46 :: osString ext ≠ [46, 46] := by
  have hext : osString ext ≠ [] := by
    intro hnil
    have hempty : toStr [] = some ext := toStr_eq_some.mpr hnil.symm
    rw [toStr_eq_some.mpr (by decide +kernel : [] = osString ""), Option.some.injEq] at hempty
    rw [← hempty] at h
    revert h
    decide +kernel
  have hstem' := List.length_pos_iff.mpr hstem
  have hext' := List.length_pos_iff.mpr hext
  intro hdots
  have hlength := congrArg List.length hdots
  simp only [List.length_append, List.length_cons, List.length_nil] at hlength
  omega

/-- **When a file counts as a profile**: after the last dot of its name, which has something before
it, comes `ovpn` in any case. -/
lemma hasOvpnExtension_iff {name : OsString} : hasOvpnExtension name = true ↔
    ∃ stem ext, name = stem ++ 46 :: osString ext ∧ stem ≠ [] ∧ 46 ∉ osString ext ∧
      Text.eqIgnoreAsciiCase ext "ovpn" = true := by
  simp only [hasOvpnExtension, Option.any_eq_true, Option.bind_eq_some_iff]
  constructor
  · rintro ⟨ext, ⟨bytes, hbytes, hext⟩, hovpn⟩
    obtain rfl := toStr_eq_some.mp hext
    obtain ⟨stem, hname, hstem, hdot⟩ := extension_eq_some hbytes
    exact ⟨stem, ext, hname, hstem, hdot, hovpn⟩
  · rintro ⟨stem, ext, rfl, hstem, hdot, hovpn⟩
    refine ⟨ext, ⟨osString ext, ?_, toStr_eq_some.mpr rfl⟩, hovpn⟩
    rw [extension, splitFileName_of_dot hstem hdot (ne_dots_of_ovpn hstem hovpn)]

/-! ## The listing -/

/-- The file is listed: a regular file with the extension `ovpn`, in any case. -/
def DirEntry.listed (entry : DirEntry) : Bool :=
  entry.isFile.toOption == some true && hasOvpnExtension entry.fileName

/-- The entries of a directory, as far as they can be read. -/
def directory (D : Disk) (path : OsPath) : List DirEntry :=
  match D.readDir path with
  | .ok entries => entries.filterMap Except.toOption
  | .error _ => []

/-- The listed files. -/
def files (D : Disk) (root : OsPath) : List DirEntry :=
  (directory D (profilesDirectory root)).filter DirEntry.listed

/-- The file is a profile with this stem. -/
def DirEntry.Stem (entry : DirEntry) (stem : OsString) : Prop :=
  entry.isFile = .ok true ∧ ∃ ext, entry.fileName = stem ++ 46 :: osString ext ∧ stem ≠ [] ∧
    46 ∉ osString ext ∧ Text.eqIgnoreAsciiCase ext "ovpn" = true

/-- The listed files are the profiles, and `file_stem` is what they are named before the last
dot. -/
lemma listed_iff {entry : DirEntry} : entry.listed = true ↔ ∃ stem, entry.Stem stem := by
  have hfile : (entry.isFile.toOption == some true) = true ↔ entry.isFile = .ok true := by
    cases entry.isFile <;> simp [Except.toOption]
  rw [DirEntry.listed, Bool.and_eq_true, hfile, hasOvpnExtension_iff]
  constructor
  · rintro ⟨hregular, stem, ext, hname⟩
    exact ⟨stem, hregular, ext, hname⟩
  · rintro ⟨stem, hregular, ext, hname⟩
    exact ⟨hregular, stem, ext, hname⟩

lemma DirEntry.Stem.fileStem_eq {entry : DirEntry} {stem : OsString} (h : entry.Stem stem) :
    fileStem entry.fileName = stem := by
  obtain ⟨-, ext, hname, hstem, hdot, hovpn⟩ := h
  have hdots : stem ++ 46 :: osString ext ≠ [46, 46] := ne_dots_of_ovpn hstem hovpn
  rw [hname, fileStem, splitFileName_of_dot hstem hdot hdots]

lemma profileOf_eq_ok {path : OsPath} {metadata : Value} {entry : DirEntry}
    {profile : Option Profile} (h : profileOf path metadata entry = .ok profile) :
    (entry.listed = false ∧ profile = none) ∨
      entry.listed = true ∧ ∃ p, profile = some p ∧ toStr (fileStem entry.fileName) = some p.id ∧
        p.path = path ++ [entry.fileName] := by
  obtain ⟨isFile, hfile, h⟩ := bind_eq_ok.mp h
  have hlisted : entry.listed = (isFile && hasOvpnExtension entry.fileName) := by
    cases isFile <;> simp [DirEntry.listed, hfile, Except.toOption]
  rw [hlisted]
  split_ifs at h with hskip
  · left
    refine ⟨?_, (Except.ok.inj h).symm⟩
    rwa [← Bool.not_and, Bool.not_eq_true'] at hskip
  · right
    rw [← Bool.not_and, Bool.not_eq_true, Bool.not_eq_false'] at hskip
    refine ⟨hskip, ?_⟩
    obtain ⟨id, hid, h⟩ := bind_eq_ok.mp h
    exact ⟨_, (Except.ok.inj h).symm, context_eq_ok.mp hid, rfl⟩

/-- The profile that a listed file becomes. -/
def Becomes (path : OsPath) (entry : DirEntry) (profile : Profile) : Prop :=
  toStr (fileStem entry.fileName) = some profile.id ∧ profile.path = path ++ [entry.fileName]

/-- The loop over the directory appends one profile for every listed file. -/
lemma foldlM_addEntry {path : OsPath} {metadata : Value} {entries : List (Except String DirEntry)}
    {profiles result : List Profile}
    (h : entries.foldlM (addEntry path metadata) profiles = .ok result) :
    ∃ found, result = profiles ++ found ∧ List.Forall₂ (Becomes path)
      ((entries.filterMap Except.toOption).filter DirEntry.listed) found := by
  induction entries generalizing profiles with
  | nil =>
    obtain rfl := Except.ok.inj h
    exact ⟨[], by simp, .nil⟩
  | cons entry entries ih =>
    rw [List.foldlM_cons] at h
    obtain ⟨profiles', hentry, hrest⟩ := bind_eq_ok.mp h
    obtain ⟨entry, hread, hentry⟩ := bind_eq_ok.mp hentry
    obtain ⟨profile, hprofile, hentry⟩ := bind_eq_ok.mp hentry
    obtain rfl := Except.ok.inj hentry
    obtain rfl := withContext_eq_ok.mp hread
    obtain ⟨found, rfl, hfound⟩ := ih hrest
    rcases profileOf_eq_ok hprofile with ⟨hlisted, rfl⟩ | ⟨hlisted, p, rfl, hid, hpath⟩
    · refine ⟨found, by simp, ?_⟩
      simpa [Except.toOption, hlisted] using hfound
    · refine ⟨p :: found, by simp, ?_⟩
      simpa [Except.toOption, hlisted] using ⟨⟨hid, hpath⟩, hfound⟩

/-- **What a discovery returns**: one profile for every listed file, sorted. -/
theorem discoverIn_eq_ok {D : Disk} {root : OsPath} {profiles : List Profile}
    (h : discoverIn D root = .ok profiles) : ∃ found, profiles = sortProfiles found ∧
      List.Forall₂ (Becomes (profilesDirectory root)) (files D root) found := by
  obtain ⟨entries, hentries, h⟩ := bind_eq_ok.mp h
  obtain ⟨metadata, -, h⟩ := bind_eq_ok.mp h
  obtain ⟨found, hloop, h⟩ := bind_eq_ok.mp h
  obtain ⟨_, -, h⟩ := bind_eq_ok.mp h
  obtain ⟨listed, hresult, hfound⟩ := foldlM_addEntry hloop
  rw [List.nil_append] at hresult
  refine ⟨listed, hresult ▸ (Except.ok.inj h).symm, ?_⟩
  rw [files, directory, withContext_eq_ok.mp hentries]
  exact hfound

/-! ## Selection -/

/-- The IDs are distinct, and every profile is selected by its ID. -/
structure Selectable (profiles : List Profile) : Prop where
  distinct : (profiles.map (·.id)).Nodup
  selects : ∀ p ∈ profiles, select profiles p.id = .ok p

lemma find?_id {profiles : List Profile} (h : (profiles.map (·.id)).Nodup) {p : Profile}
    (hp : p ∈ profiles) : profiles.find? (fun q => q.id == p.id) = some p := by
  induction profiles with
  | nil => simp at hp
  | cons q profiles ih =>
    rw [List.map_cons, List.nodup_cons] at h
    rcases List.mem_cons.mp hp with rfl | hp
    · simp
    · have hne : q.id ≠ p.id := fun heq => h.1 (heq ▸ List.mem_map_of_mem hp)
      rw [List.find?_cons_of_neg (by simpa using hne)]
      exact ih h.2 hp

lemma selectable_of_nodup {profiles : List Profile} (h : (profiles.map (·.id)).Nodup) :
    Selectable profiles where
  distinct := h
  selects := fun p hp => by rw [select, find?_id h hp]

/-- The stems of the listed files are the IDs. -/
lemma Becomes.map_id {path : OsPath} {entries : List DirEntry} {found : List Profile}
    (h : List.Forall₂ (Becomes path) entries found) :
    entries.map (fun entry => toStr (fileStem entry.fileName)) = found.map (some ·.id) := by
  induction h with
  | nil => rfl
  | cons hhead _ ih => rw [List.map_cons, List.map_cons, ih, hhead.1]

/-- **Every profile is selected by its ID exactly when no two listed files share a stem.** -/
theorem selectable_iff {D : Disk} {root : OsPath} {profiles : List Profile}
    (hnames : ((directory D (profilesDirectory root)).map (·.fileName)).Nodup)
    (h : discoverIn D root = .ok profiles) :
    Selectable profiles ↔ ∀ a ∈ files D root, ∀ b ∈ files D root,
      fileStem a.fileName = fileStem b.fileName → a.fileName = b.fileName := by
  obtain ⟨found, rfl, hfound⟩ := discoverIn_eq_ok h
  have hfiles : ((files D root).map (·.fileName)).Nodup :=
    hnames.sublist (List.filter_sublist.map _)
  have hperm : ((sortProfiles found).map (·.id)).Perm (found.map (·.id)) :=
    (List.perm_insertionSort _ found).map _
  have hids : ((sortProfiles found).map (·.id)).Nodup ↔ ∀ a ∈ files D root, ∀ b ∈ files D root,
      toStr (fileStem a.fileName) = toStr (fileStem b.fileName) → a = b := by
    rw [hperm.nodup_iff, ← List.nodup_map_iff_inj_on (List.Nodup.of_map _ hfiles),
      Becomes.map_id hfound, ← List.nodup_map_iff (Option.some_injective String), List.map_map]
    rfl
  constructor
  · intro hselectable a ha b hb hstem
    rw [hids.mp hselectable.distinct a ha b hb (congrArg toStr hstem)]
  · intro hstems
    apply selectable_of_nodup
    rw [hids]
    intro a ha b hb hstr
    have hmem : toStr (fileStem a.fileName) ∈ found.map (some ·.id) :=
      Becomes.map_id hfound ▸ List.mem_map_of_mem ha
    obtain ⟨p, -, hid⟩ := List.mem_map.mp hmem
    have hstem := toStr_inj hid.symm (hstr.symm.trans hid.symm)
    exact List.inj_on_of_nodup_map hfiles ha hb (hstems a ha b hb hstem)

/-! ## Two directories without metadata -/

/-- A directory of files with these names, without a `config.json`. -/
def bareDisk (names : List String) : Disk where
  readDir := fun _ => .ok (names.map fun name => .ok ⟨osString name, .ok true⟩)
  openFile := fun _ => .error .notFound
  parseSlice := fun _ => none
  parseStr := fun _ => none
  display := fun _ => "profiles"

def bareProfile (id file : String) : Profile :=
  ⟨id, id, [osString "profiles", osString file], none, false⟩

theorem selectable_two : Selectable [bareProfile "100" "100.ovpn", bareProfile "200" "200.OVPN"] :=
  (selectable_iff (by decide +kernel)
    (show discoverIn (bareDisk ["200.OVPN", "100.ovpn"]) [] = _ by decide +kernel)).mpr
    (by decide +kernel)

/-- On a case-sensitive volume two profiles can share an ID; the second is then never selected by
its ID. -/
theorem shared_id :
    ((directory (bareDisk ["100.ovpn", "100.OVPN"]) (profilesDirectory [])).map
        (·.fileName)).Nodup ∧
      discoverIn (bareDisk ["100.ovpn", "100.OVPN"]) [] =
        .ok [bareProfile "100" "100.ovpn", bareProfile "100" "100.OVPN"] ∧
      select [bareProfile "100" "100.ovpn", bareProfile "100" "100.OVPN"] "100" =
        .ok (bareProfile "100" "100.ovpn") ∧
      ¬ Selectable [bareProfile "100" "100.ovpn", bareProfile "100" "100.OVPN"] := by
  refine ⟨by decide +kernel, by decide +kernel, by decide +kernel, fun h => ?_⟩
  have hdistinct := h.distinct
  revert hdistinct
  decide +kernel

end Connect

end Ovpnlane
