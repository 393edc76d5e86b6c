import Ovpnlane.Properties.Profiles
import Mathlib.Data.Multiset.Basic
import Mathlib.Data.Prod.Lex
import Mathlib.Data.String.Basic

/-!
# What the metadata of a discovery can change

The directory decides which profiles there are, and `config.json` only how they are shown.

* `isLE_cmp_iff`: the order of the list is the lexicographic one of the names and the IDs, so a
  discovery is sorted by them (`sortedLE_sortProfiles`).
* `discoverIn_ok_iff`: a discovery succeeds exactly when the directory, its entries and the metadata
  can be read, every listed file has a stem in UTF-8, and there is one (`Discoverable`).
* `map_found_discoverWith`: two metadata documents that can be read find the same files, or fail
  with the same text.
* `profilesOf_form`: the four ways in which `persist:root` and `status` are stored are read as one
  document.

`discoverIn_profiles` puts them together.
-/

namespace Ovpnlane

open Text

/-! ## The order of texts -/

namespace Text

lemma cmpChars_eq_lt {cs cs' : List Char} : cmpChars cs cs' = .lt ↔ cs < cs' := by
  induction cs generalizing cs' with
  | nil => cases cs' <;> simp [cmpChars]
  | cons c cs ih =>
    cases cs' with
    | nil => simp [cmpChars]
    | cons c' cs' =>
      have hchar : c < c' ↔ c.toNat < c'.toNat := Iff.rfl
      rw [cmpChars, List.cons_lt_cons_iff, hchar, ← Char.toNat_inj, ← ih]
      split_ifs with hlt hgt
      · simp [hlt]
      · simp [hlt, hgt.ne']
      · simp [Nat.le_antisymm (Nat.not_lt.mp hgt) (Nat.not_lt.mp hlt)]

lemma cmpChars_eq_eq {cs cs' : List Char} : cmpChars cs cs' = .eq ↔ cs = cs' := by
  induction cs generalizing cs' with
  | nil => cases cs' <;> simp [cmpChars]
  | cons c cs ih =>
    cases cs' with
    | nil => simp [cmpChars]
    | cons c' cs' =>
      rw [cmpChars, List.cons_eq_cons, ← Char.toNat_inj, ← ih]
      split_ifs with hlt hgt
      · simp [hlt.ne]
      · simp [hgt.ne']
      · simp [Nat.le_antisymm (Nat.not_lt.mp hgt) (Nat.not_lt.mp hlt)]

lemma cmp_eq_lt {s t : String} : cmp s t = .lt ↔ s < t :=
  cmpChars_eq_lt.trans String.lt_iff_toList_lt.symm

lemma cmp_eq_eq {s t : String} : cmp s t = .eq ↔ s = t :=
  cmpChars_eq_eq.trans String.toList_inj

end Text

namespace Connect

/-! ## The order of the list -/

/-- What the list is sorted by. -/
def sortKey (p : Profile) : String ×ₗ String := toLex (p.name, p.id)

lemma isLE_cmp_iff {a b : Profile} : (a.cmp b).isLE = true ↔ sortKey a ≤ sortKey b := by
  rw [sortKey, sortKey, Prod.Lex.toLex_le_toLex, ← cmp_eq_lt, ← cmp_eq_eq, le_iff_lt_or_eq,
    ← cmp_eq_lt, ← cmp_eq_eq, Profile.cmp]
  cases Text.cmp a.name b.name <;> cases Text.cmp a.id b.id <;> decide

/-- A sorted list is in the lexicographic order of the names and the IDs. -/
lemma sortedLE_sortProfiles (profiles : List Profile) :
    ((sortProfiles profiles).map sortKey).SortedLE := by
  rw [sortProfiles, List.map_insertionSort (fun a b => (a.cmp b).isLE = true) (· ≤ ·) sortKey
    profiles fun a _ b _ => isLE_cmp_iff]
  exact List.sortedLE_insertionSort

/-! ## Success -/

/-- What a discovery needs to succeed. -/
structure Discoverable (D : Disk) (root : OsPath) : Prop where
  /-- The directory can be read, every entry of it, and the type of every entry. -/
  entries : ∃ entries, D.readDir (profilesDirectory root) = .ok entries ∧
    ∀ e ∈ entries, ∃ entry isFile, e = .ok entry ∧ entry.isFile = .ok isFile
  metadata : ∃ metadata, D.readMetadata (root ++ [osString "config.json"]) = .ok metadata
  stems : ∀ entry ∈ files D root, ∃ id, toStr (fileStem entry.fileName) = some id
  listed : files D root ≠ []

lemma profileOf_ok_iff {path : OsPath} {metadata : Value} {entry : DirEntry} :
    (∃ profile, profileOf path metadata entry = .ok profile) ↔
      (∃ isFile, entry.isFile = .ok isFile) ∧
        (entry.listed = true → ∃ id, toStr (fileStem entry.fileName) = some id) := by
  constructor
  · rintro ⟨profile, h⟩
    obtain ⟨isFile, hfile, -⟩ := bind_eq_ok.mp h
    refine ⟨⟨isFile, hfile⟩, fun hlisted => ?_⟩
    rcases profileOf_eq_ok h with ⟨hnot, -⟩ | ⟨-, p, -, hid, -⟩
    · simp [hlisted] at hnot
    · exact ⟨p.id, hid⟩
  · rintro ⟨⟨isFile, hfile⟩, hstem⟩
    have hlisted : entry.listed = (isFile && hasOvpnExtension entry.fileName) := by
      cases isFile <;> simp [DirEntry.listed, hfile, Except.toOption]
    rw [profileOf, hfile, except_ok_bind]
    split_ifs with hskip
    · exact ⟨none, rfl⟩
    · rw [← Bool.not_and, Bool.not_eq_true, Bool.not_eq_false', ← hlisted] at hskip
      obtain ⟨id, hid⟩ := hstem hskip
      rw [context_eq_ok.mpr hid]
      exact ⟨_, rfl⟩

/-- The loop over the directory goes through exactly when every iteration does. -/
lemma foldlM_addEntry_ok_iff {path : OsPath} {metadata : Value}
    {entries : List (Except String DirEntry)} {profiles : List Profile} :
    (∃ result, entries.foldlM (addEntry path metadata) profiles = .ok result) ↔
      (∀ e ∈ entries, ∃ entry isFile, e = .ok entry ∧ entry.isFile = .ok isFile) ∧
        ∀ entry ∈ (entries.filterMap Except.toOption).filter DirEntry.listed,
          ∃ id, toStr (fileStem entry.fileName) = some id := by
  induction entries generalizing profiles with
  | nil => simp [pure, Except.pure]
  | cons e entries ih =>
    rw [List.foldlM_cons]
    constructor
    · rintro ⟨result, h⟩
      obtain ⟨profiles', hadd, hrest⟩ := bind_eq_ok.mp h
      obtain ⟨entry, hread, hadd⟩ := bind_eq_ok.mp hadd
      obtain ⟨profile, hprofile, -⟩ := bind_eq_ok.mp hadd
      obtain rfl := withContext_eq_ok.mp hread
      obtain ⟨⟨isFile, hfile⟩, hstem⟩ := profileOf_ok_iff.mp ⟨profile, hprofile⟩
      obtain ⟨hentries, hstems⟩ := ih.mp ⟨result, hrest⟩
      refine ⟨List.forall_mem_cons.mpr ⟨⟨entry, isFile, rfl, hfile⟩, hentries⟩, ?_⟩
      have hcons : (Except.ok entry :: entries).filterMap Except.toOption =
        entry :: entries.filterMap Except.toOption := rfl
      rw [hcons, List.filter_cons]
      split_ifs with hlisted
      · exact List.forall_mem_cons.mpr ⟨hstem hlisted, hstems⟩
      · exact hstems
    · rintro ⟨hentries, hstems⟩
      obtain ⟨⟨entry, isFile, rfl, hfile⟩, hrest⟩ := List.forall_mem_cons.mp hentries
      have hcons : (Except.ok entry :: entries).filterMap Except.toOption =
        entry :: entries.filterMap Except.toOption := rfl
      rw [hcons] at hstems
      obtain ⟨profile, hprofile⟩ := (@profileOf_ok_iff path metadata entry).mpr
        ⟨⟨isFile, hfile⟩, fun hlisted => hstems entry (by simp [hlisted])⟩
      have hadd : addEntry path metadata profiles (.ok entry) =
          .ok (profiles ++ profile.toList) := by
        rw [addEntry, withContext_eq_ok.mpr rfl, except_ok_bind, hprofile]
        rfl
      rw [hadd, except_ok_bind]
      refine ih.mpr ⟨hrest, fun entry' hmem => hstems entry' ?_⟩
      rw [List.filter_cons]
      split_ifs
      · exact List.mem_cons_of_mem _ hmem
      · exact hmem

lemma sortProfiles_eq_nil {profiles : List Profile} :
    sortProfiles profiles = [] ↔ profiles = [] := by
  rw [← List.length_eq_zero_iff, sortProfiles, List.length_insertionSort, List.length_eq_zero_iff]

/-- **When a discovery succeeds.** -/
lemma discoverIn_ok_iff {D : Disk} {root : OsPath} :
    (∃ profiles, discoverIn D root = .ok profiles) ↔ Discoverable D root := by
  constructor
  · rintro ⟨profiles, h⟩
    obtain ⟨entries, hread, h⟩ := bind_eq_ok.mp h
    obtain ⟨metadata, hmetadata, h⟩ := bind_eq_ok.mp h
    obtain ⟨listed, hloop, h⟩ := bind_eq_ok.mp h
    obtain ⟨_, hensure, -⟩ := bind_eq_ok.mp h
    have hread := withContext_eq_ok.mp hread
    have hfiles : files D root = (entries.filterMap Except.toOption).filter DirEntry.listed := by
      rw [files, directory, hread]
    obtain ⟨hentries, hstems⟩ := foldlM_addEntry_ok_iff.mp ⟨listed, hloop⟩
    obtain ⟨found, hfound, hbecomes⟩ := foldlM_addEntry hloop
    rw [List.nil_append] at hfound
    refine ⟨⟨entries, hread, hentries⟩, ⟨metadata, hmetadata⟩, hfiles ▸ hstems, fun hnil => ?_⟩
    rw [← hfiles, hnil] at hbecomes
    obtain rfl := List.forall₂_nil_left_iff.mp hbecomes
    have hempty : sortProfiles listed = [] := sortProfiles_eq_nil.mpr hfound
    have hensure := ensure_eq_ok.mp hensure
    simp [hempty] at hensure
  · rintro ⟨⟨entries, hread, hentries⟩, ⟨metadata, hmetadata⟩, hstems, hlisted⟩
    have hfiles : files D root = (entries.filterMap Except.toOption).filter DirEntry.listed := by
      rw [files, directory, hread]
    rw [hfiles] at hstems hlisted
    obtain ⟨listed, hloop⟩ := (@foldlM_addEntry_ok_iff (profilesDirectory root) metadata entries
      []).mpr ⟨hentries, hstems⟩
    obtain ⟨found, hfound, hbecomes⟩ := foldlM_addEntry hloop
    rw [List.nil_append] at hfound
    have hne : sortProfiles listed ≠ [] := by
      rw [Ne, sortProfiles_eq_nil, hfound]
      rintro rfl
      exact hlisted (List.forall₂_nil_right_iff.mp hbecomes)
    refine ⟨sortProfiles listed, ?_⟩
    rw [discoverIn, withContext_eq_ok.mpr hread, except_ok_bind, hmetadata, except_ok_bind, hloop,
      except_ok_bind]
    exact bind_eq_ok.mpr ⟨(), ensure_eq_ok.mpr (by simpa using hne), rfl⟩

/-! ## Another metadata document -/

/-- The ID and the file of a profile. -/
def idPath (p : Profile) : String × OsPath := (p.id, p.path)

lemma profileOf_idPath (path : OsPath) (metadata metadata' : Value) (entry : DirEntry) :
    (profileOf path metadata entry).map (Option.map idPath) =
      (profileOf path metadata' entry).map (Option.map idPath) := by
  unfold profileOf
  cases entry.isFile with
  | error text => rfl
  | ok isFile =>
    simp only [except_ok_bind]
    split_ifs
    · rfl
    · cases toStr (fileStem entry.fileName) <;> rfl

/-- One iteration of the loop finds the same file, or fails in the same way. -/
lemma addEntry_idPath (path : OsPath) (metadata metadata' : Value)
    {profiles profiles' : List Profile}
    (h : profiles.map idPath = profiles'.map idPath) (entry : Except String DirEntry) :
    (addEntry path metadata profiles entry).map (List.map idPath) =
      (addEntry path metadata' profiles' entry).map (List.map idPath) := by
  cases entry with
  | error text => rfl
  | ok entry =>
    have hprofile := profileOf_idPath path metadata metadata' entry
    have hadd : ∀ (metadata : Value) (profiles : List Profile),
        (addEntry path metadata profiles (.ok entry)).map (List.map idPath) =
          ((profileOf path metadata entry).map (Option.map idPath)).map
            (profiles.map idPath ++ ·.toList) := by
      intro metadata profiles
      rw [addEntry]
      change (profileOf path metadata entry >>= _).map _ = _
      cases profileOf path metadata entry with
      | error text => rfl
      | ok profile => cases profile <;> simp [Except.map, pure, Except.pure]
    rw [hadd, hadd, hprofile, h]

/-- The loop finds the same files, or fails in the same way. -/
lemma foldlM_idPath (path : OsPath) (metadata metadata' : Value)
    (entries : List (Except String DirEntry)) {profiles profiles' : List Profile}
    (h : profiles.map idPath = profiles'.map idPath) :
    (entries.foldlM (addEntry path metadata) profiles).map (List.map idPath) =
      (entries.foldlM (addEntry path metadata') profiles').map (List.map idPath) := by
  induction entries generalizing profiles profiles' with
  | nil => exact congrArg Except.ok h
  | cons entry entries ih =>
    have hentry := addEntry_idPath path metadata metadata' h entry
    rw [List.foldlM_cons, List.foldlM_cons]
    cases hadd : addEntry path metadata profiles entry <;>
      cases hadd' : addEntry path metadata' profiles' entry <;>
      simp only [hadd, hadd', Except.map, reduceCtorEq, Except.ok.injEq,
        Except.error.injEq] at hentry
    · rw [hentry]
      rfl
    · exact ih hentry

/-- The IDs and files of a list, in any order. -/
def found (profiles : List Profile) : Multiset (String × OsPath) := ↑(profiles.map idPath)

lemma found_sortProfiles (profiles : List Profile) :
    found (sortProfiles profiles) = found profiles :=
  Multiset.coe_eq_coe.mpr ((List.perm_insertionSort _ profiles).map idPath)

/-- The path of the metadata. -/
def metadataPath (root : OsPath) : OsPath := root ++ [osString "config.json"]

/-- `discover_in` once the metadata has been read. -/
def discoverWith (D : Disk) (root : OsPath) (metadata : Value) : Except String (List Profile) := do
  let entries ← withContext (D.readDir (profilesDirectory root))
    ("could not read OpenVPN Connect profiles in " ++ D.display (profilesDirectory root) ++
      "; import a profile in Connect or use --config PATH")
  let profiles ← entries.foldlM (addEntry (profilesDirectory root) metadata) []
  ensure (!(sortProfiles profiles).isEmpty) ("no .ovpn profiles found in " ++
    D.display (profilesDirectory root) ++
    "; import a profile in OpenVPN Connect or use --config PATH")
  return sortProfiles profiles

lemma discoverIn_of_readMetadata {D : Disk} {root : OsPath} {metadata : Value}
    (h : D.readMetadata (metadataPath root) = .ok metadata) :
    discoverIn D root = discoverWith D root metadata := by
  rw [metadataPath] at h
  rw [discoverIn, discoverWith, h]
  rfl

/-- What is found does not depend on the metadata, nor does the text of an error. -/
lemma map_found_discoverWith (D : Disk) (root : OsPath) (metadata metadata' : Value) :
    (discoverWith D root metadata).map found = (discoverWith D root metadata').map found := by
  unfold discoverWith
  cases D.readDir (profilesDirectory root) with
  | error text => rfl
  | ok entries =>
    have hloop := foldlM_idPath (profilesDirectory root) metadata metadata' entries
      (rfl : ([] : List Profile).map idPath = [].map idPath)
    simp only [withContext, Except.mapError, except_ok_bind]
    cases hfold : entries.foldlM (addEntry (profilesDirectory root) metadata) [] <;>
      cases hfold' : entries.foldlM (addEntry (profilesDirectory root) metadata') [] <;>
      simp only [hfold, hfold', Except.map, reduceCtorEq, Except.ok.injEq, Except.error.injEq]
        at hloop
    · rw [hloop]
    · next profiles profiles' =>
      have hfound : found (sortProfiles profiles) = found (sortProfiles profiles') := by
        rw [found_sortProfiles, found_sortProfiles, found, found, hloop]
      have hempty : (sortProfiles profiles).isEmpty = (sortProfiles profiles').isEmpty := by
        have hlen := congrArg Multiset.card hfound
        simp only [found, Multiset.coe_card, List.length_map] at hlen
        rw [Bool.eq_iff_iff, List.isEmpty_iff_length_eq_zero, List.isEmpty_iff_length_eq_zero, hlen]
      rw [except_ok_bind, except_ok_bind, hempty]
      cases (sortProfiles profiles').isEmpty with
      | true => rfl
      | false => exact congrArg Except.ok hfound

/-! ## The storage forms -/

/-- An object with a place for the value of a key. -/
structure Slot (key : String) where
  before : List (String × Value)
  after : List (String × Value)
  fresh : before.lookup key = none

def Slot.fill {key : String} (slot : Slot key) (value : Value) : Value :=
  .object (slot.before ++ (key, value) :: slot.after)

lemma Slot.get_fill {key : String} (slot : Slot key) (value : Value) :
    (slot.fill value).get key = some value := by
  rw [fill, Value.get, List.lookup_append, slot.fresh, Option.none_or, List.lookup_cons_self]

/-- An object, or the text of it. -/
def stored (write : Value → String) (asText : Bool) (value : Value) : Value :=
  if asText then .string (write value) else value

lemma decode_stored {D : Disk} {write : Value → String} {value : Value}
    (hobject : value.isObject = true) (hwrite : D.parseStr (write value) = some value)
    (asText : Bool) : D.decode (stored write asText value) = .ok value := by
  cases asText with
  | true => exact context_eq_ok.mpr hwrite
  | false =>
    cases value with
    | object fields => rfl
    | _ => cases hobject

/-- The content of a `config.json`: the status, and what it is kept in. -/
structure Persisted where
  status : List (String × Value)
  root : Slot "status"
  document : Slot "persist:root"

namespace Persisted

variable (content : Persisted) (write : Value → String)

/-- The object under `persist:root`. -/
def rootObject (statusText : Bool) : Value :=
  content.root.fill (stored write statusText (.object content.status))

/-- The document, with the root and the status stored as objects or as texts. -/
def form (rootText statusText : Bool) : Value :=
  content.document.fill (stored write rootText (content.rootObject write statusText))

/-- Every form is read as the profiles of the status. -/
lemma profilesOf_form {D : Disk} {content : Persisted} {write : Value → String}
    (hstatus : D.parseStr (write (.object content.status)) = some (.object content.status))
    (hroot : ∀ statusText, D.parseStr (write (content.rootObject write statusText)) =
      some (content.rootObject write statusText)) (rootText statusText : Bool) :
    D.profilesOf (content.form write rootText statusText) =
      context (((Value.object content.status).get "profiles").filter Value.isObject)
        metadataError := by
  rw [Disk.profilesOf, form, Slot.get_fill, Option.getD_some,
    decode_stored rfl (hroot statusText) rootText, except_ok_bind, rootObject, Slot.get_fill]
  change D.decode (stored write statusText (.object content.status)) >>= _ = _
  rw [decode_stored rfl hstatus]
  rfl

end Persisted

/-- The disk with these bytes in `config.json`. -/
def Disk.withConfig (D : Disk) (bytes : List UInt8) : Disk :=
  { D with openFile := fun _ => .ok fun n => .ok (bytes.take n) }

lemma readMetadata_withConfig {D : Disk} {bytes : List UInt8} {document : Value}
    (hfits : bytes.length ≤ maxMetadata) (hparse : D.parseSlice bytes = some document)
    (path : OsPath) : (D.withConfig bytes).readMetadata path = D.profilesOf document := by
  have htake : bytes.take (maxMetadata + 1) = bytes := List.take_of_length_le (by omega)
  have hparse : context ((D.withConfig bytes).parseSlice bytes) metadataError = .ok document :=
    context_eq_ok.mpr hparse
  rw [Disk.readMetadata]
  change (withContext (.ok (bytes.take (maxMetadata + 1)) : Except String (List UInt8))
    "could not read OpenVPN Connect metadata" >>= _) = _
  rw [htake, withContext_eq_ok.mpr rfl, except_ok_bind, ensure, decide_eq_true hfits, if_pos rfl,
    pure_bind, hparse]
  rfl

lemma discoverIn_withConfig {D : Disk} {root : OsPath} {bytes bytes' : List UInt8}
    (h : (D.withConfig bytes).readMetadata (metadataPath root) =
      (D.withConfig bytes').readMetadata (metadataPath root)) :
    discoverIn (D.withConfig bytes) root = discoverIn (D.withConfig bytes') root := by
  rw [metadataPath] at h
  rw [discoverIn, discoverIn, h]
  rfl

/-! ## The result -/

/-- **What a discovery finds, and what the metadata has to do with it.**  It succeeds exactly on a
directory that is `Discoverable`.  The result has one profile for every listed file, with its path
and its stem, sorted by names and IDs.  Two metadata documents that can be read find the same IDs
and paths, or fail in the same way.  The storage form of a document makes no difference. -/
theorem discoverIn_profiles (D : Disk) (root : OsPath) :
    ((∃ profiles, discoverIn D root = .ok profiles) ↔ Discoverable D root) ∧
      (∀ entry ∈ directory D (profilesDirectory root),
        (entry ∈ files D root ↔ ∃ stem, entry.Stem stem) ∧
          ∀ stem, entry.Stem stem → fileStem entry.fileName = stem) ∧
      (∀ profiles, discoverIn D root = .ok profiles →
        (profiles.map fun p => toLex (p.name, p.id)).SortedLE ∧
          ∃ listed, profiles.Perm listed ∧
            List.Forall₂ (Becomes (profilesDirectory root)) (files D root) listed) ∧
      (∀ openFile metadata metadata', D.readMetadata (metadataPath root) = .ok metadata →
        { D with openFile := openFile }.readMetadata (metadataPath root) = .ok metadata' →
        (discoverIn { D with openFile := openFile } root).map found =
          (discoverIn D root).map found) ∧
      ∀ (write : Value → String) (content : Persisted),
        D.parseStr (write (.object content.status)) = some (.object content.status) →
        (∀ statusText, D.parseStr (write (content.rootObject write statusText)) =
          some (content.rootObject write statusText)) →
        ∀ (rootText statusText rootText' statusText' : Bool) (bytes bytes' : List UInt8),
          bytes.length ≤ maxMetadata → bytes'.length ≤ maxMetadata →
          D.parseSlice bytes = some (content.form write rootText statusText) →
          D.parseSlice bytes' = some (content.form write rootText' statusText') →
          discoverIn (D.withConfig bytes) root = discoverIn (D.withConfig bytes') root := by
  refine ⟨discoverIn_ok_iff, fun entry hentry => ⟨?_, fun stem => DirEntry.Stem.fileStem_eq⟩,
    fun profiles h => ?_, fun openFile metadata metadata' h h' => ?_, ?_⟩
  · rw [files, List.mem_filter, and_iff_right hentry, listed_iff]
  · obtain ⟨listed, rfl, hlisted⟩ := discoverIn_eq_ok h
    exact ⟨sortedLE_sortProfiles listed, listed, List.perm_insertionSort _ listed, hlisted⟩
  · rw [discoverIn_of_readMetadata h, discoverIn_of_readMetadata h']
    exact map_found_discoverWith D root metadata' metadata
  · intro write content hstatus hroot rootText statusText rootText' statusText' bytes bytes' hfits
      hfits' hparse hparse'
    apply discoverIn_withConfig
    rw [readMetadata_withConfig hfits hparse, readMetadata_withConfig hfits' hparse',
      Persisted.profilesOf_form hstatus hroot, Persisted.profilesOf_form hstatus hroot]

/-! ## Two files and their metadata -/

/-- The text of a string, without characters other than quotes and backslashes to escape. -/
def quoted (text : String) : String :=
  "\"" ++ String.ofList (text.toList.flatMap fun c =>
    if c = '\x22' ∨ c = '\x5c' then ['\x5c', c] else [c]) ++ "\""

/-- The text of an object with one field. -/
def oneField (key value : String) : String := "\x7b" ++ quoted key ++ ":" ++ value ++ "\x7d"

/-- The metadata names one of the profiles. -/
def workContent : Persisted where
  status := [("profiles", .object [("100", .object [("name", .string "Work VPN")])])]
  root := ⟨[], [], rfl⟩
  document := ⟨[], [], rfl⟩

def workStatus : String :=
  oneField "profiles" (oneField "100" (oneField "name" (quoted "Work VPN")))

def workRoot (statusText : Bool) : String :=
  oneField "status" (if statusText then quoted workStatus else workStatus)

/-- What `serde_json` makes of the objects of the metadata. -/
def workWrite : Value → String
  | .object [("status", .string _)] => workRoot true
  | .object [("status", _)] => workRoot false
  | _ => workStatus

def workDocument (rootText statusText : Bool) : List UInt8 :=
  osString (oneField "persist:root"
    (if rootText then quoted (workRoot statusText) else workRoot statusText))

def workParse (text : String) : Option Value :=
  if text = workStatus then some (.object workContent.status)
  else if text = workRoot true then some (workContent.rootObject workWrite true)
  else if text = workRoot false then some (workContent.rootObject workWrite false)
  else none

def workParseDocument (bytes : List UInt8) : Option Value :=
  if bytes = workDocument true true then some (workContent.form workWrite true true)
  else if bytes = workDocument false false then some (workContent.form workWrite false false)
  else none

/-- A directory of two profiles, and the parser on these texts. -/
def workDisk : Disk :=
  { bareDisk ["200.OVPN", "100.ovpn"] with
    parseSlice := workParseDocument
    parseStr := workParse }

lemma workParse_root (statusText : Bool) :
    workParse (workWrite (workContent.rootObject workWrite statusText)) =
      some (workContent.rootObject workWrite statusText) := by
  have hstatus : ∀ statusText, workRoot statusText ≠ workStatus := by decide +kernel
  have hroot : workRoot false ≠ workRoot true := by decide +kernel
  cases statusText with
  | true =>
    change workParse (workRoot true) = _
    rw [workParse, if_neg (hstatus true), if_pos rfl]
  | false =>
    change workParse (workRoot false) = _
    rw [workParse, if_neg (hstatus false), if_neg hroot, if_pos rfl]

/-- What is found with the metadata: one of the two profiles has a name. -/
def workProfiles : List Profile :=
  [bareProfile "200" "200.OVPN", { bareProfile "100" "100.ovpn" with name := "Work VPN" }]

/-- As texts or as objects, the metadata names one of the two profiles that are there without it. -/
theorem work_profiles :
    discoverIn (workDisk.withConfig (workDocument true true)) [] = .ok workProfiles ∧
      discoverIn (workDisk.withConfig (workDocument false false)) [] = .ok workProfiles ∧
      discoverIn workDisk [] =
        .ok [bareProfile "100" "100.ovpn", bareProfile "200" "200.OVPN"] ∧
      found workProfiles = found [bareProfile "100" "100.ovpn", bareProfile "200" "200.OVPN"] ∧
      (workProfiles.map fun p => toLex (p.name, p.id)).SortedLE := by
  have hstatus : workParse (workWrite (.object workContent.status)) =
      some (.object workContent.status) := by
    change workParse workStatus = _
    rw [workParse, if_pos rfl]
  have htexts : workParseDocument (workDocument true true) =
      some (workContent.form workWrite true true) := by
    rw [workParseDocument, if_pos rfl]
  have hobjects : workParseDocument (workDocument false false) =
      some (workContent.form workWrite false false) := by
    rw [workParseDocument, if_neg (by decide +kernel), if_pos rfl]
  have hfits : ∀ text, (workDocument text text).length ≤ maxMetadata := by decide +kernel
  have hread : (workDisk.withConfig (workDocument true true)).readMetadata (metadataPath []) =
      .ok (.object [("100", .object [("name", .string "Work VPN")])]) := by
    rw [@readMetadata_withConfig workDisk _ _ (hfits true) htexts,
      @Persisted.profilesOf_form workDisk workContent workWrite hstatus
        workParse_root]
    rfl
  have hbare : discoverIn workDisk [] =
      .ok [bareProfile "100" "100.ovpn", bareProfile "200" "200.OVPN"] := by
    decide +kernel
  have hnamed :
      discoverIn (workDisk.withConfig (workDocument true true)) [] = .ok workProfiles := by
    rw [discoverIn_of_readMetadata hread]
    decide +kernel
  obtain ⟨-, -, -, hmetadata, hforms⟩ := discoverIn_profiles workDisk []
  obtain ⟨-, -, hlisted, -, -⟩ :=
    discoverIn_profiles (workDisk.withConfig (workDocument true true)) []
  have hfound := hmetadata _ .null _ rfl hread
  rw [hbare, ← Disk.withConfig, hnamed] at hfound
  refine ⟨hnamed, ?_, hbare, Except.ok.inj hfound, (hlisted workProfiles hnamed).1⟩
  rw [← hnamed]
  exact (hforms workWrite workContent hstatus workParse_root true true false false
    (workDocument true true) (workDocument false false) (hfits true) (hfits false) htexts
    hobjects).symm

end Connect

end Ovpnlane
