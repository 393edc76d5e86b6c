import Ovpnlane.Construction.Text
import Ovpnlane.Framework.Fallible
import Mathlib.Data.List.Sort

/-!
# OpenVPN Connect profiles

`discover_in` and `select` (`src/connect.rs`): the `.ovpn` files of the profiles directory, with the
name, username and password flag that `config.json` keeps under the stem of the file.

`Disk` is what the discovery rests on and does not contain: the file system and the JSON parser.
File names are byte strings, split at the last dot as `Path::extension` and `Path::file_stem` do.
-/

namespace Ovpnlane

open Text

namespace Connect

abbrev OsString := List UInt8

/-- The components of a path. -/
abbrev OsPath := List OsString

def toStr (name : OsString) : Option String := String.fromUTF8? name.toByteArray

/-- The bytes of a name that is written in the source. -/
def osString (name : String) : OsString := name.toUTF8.data.toList

/-- The bytes of a text are what `to_str` accepts. -/
lemma toStr_eq_some {name : OsString} {s : String} : toStr name = some s ↔ name = osString s := by
  have hbytes : s.toByteArray = name.toByteArray ↔ name = osString s := by
    rw [osString, String.toUTF8_eq_toByteArray]
    constructor
    · intro h
      rw [h, List.toList_data_toByteArray]
    · rintro rfl
      exact ByteArray.ext (by simp [List.data_toByteArray])
  unfold toStr String.fromUTF8?
  split_ifs with hvalid
  · rw [Option.some.injEq, ← String.toByteArray_inj, ← hbytes, eq_comm]
    rfl
  · refine ⟨nofun, fun h => absurd ?_ hvalid⟩
    rw [← hbytes.mpr h]
    exact s.isValidUTF8

/-- `Path::file_stem` and `Path::extension` of a file name: the parts before and after the last dot,
unless there is none, or nothing before it. -/
def splitFileName (name : OsString) : OsString × Option OsString :=
  if name = [46, 46] then (name, none)
  else
    match name.reverse.dropWhile (· != 46) with
    | [] | [_] => (name, none)
    | _ :: stem => (stem.reverse, some (name.reverse.takeWhile (· != 46)).reverse)

def fileStem (name : OsString) : OsString := (splitFileName name).1

def extension (name : OsString) : Option OsString := (splitFileName name).2

/-- The extension is `ovpn`, in any case. -/
def hasOvpnExtension (name : OsString) : Bool :=
  ((extension name).bind toStr).any (eqIgnoreAsciiCase · "ovpn")

/-- `serde_json::Value`; an object has one field a key. -/
inductive Value where
  | null
  | bool (b : Bool)
  | number (text : String)
  | string (text : String)
  | array (items : List Value)
  | object (fields : List (String × Value))

namespace Value

def get (key : String) : Value → Option Value
  | .object fields => fields.lookup key
  | _ => none

def index (value : Value) (key : String) : Value := (value.get key).getD .null

def asStr : Value → Option String
  | .string text => some text
  | _ => none

def asBool : Value → Option Bool
  | .bool b => some b
  | _ => none

def isObject : Value → Bool
  | .object _ => true
  | _ => false

def nonemptyString (value : Value) : Option String := value.asStr.filter fun s => trim s != ""

end Value

structure Profile where
  id : String
  name : String
  path : OsPath
  username : Option String
  savedPassword : Bool
  deriving DecidableEq

/-- An entry of `fs::read_dir`; the type is asked for separately, and is whether it is a file. -/
structure DirEntry where
  fileName : OsString
  isFile : Except String Bool

inductive OpenError where
  | notFound
  | other (text : String)

/-- The surroundings of the discovery.  An opened file gives at most that many of its bytes. -/
structure Disk where
  readDir : OsPath → Except String (List (Except String DirEntry))
  openFile : OsPath → Except OpenError (ℕ → Except String (List UInt8))
  parseSlice : List UInt8 → Option Value
  parseStr : String → Option Value
  display : OsPath → String

def maxMetadata : ℕ := 16 * 1024 * 1024

def metadataError : String :=
  "unrecognized OpenVPN Connect config.json format; use --config PATH with an exported .ovpn profile"

namespace Disk

variable (D : Disk)

/-- `decode`: a value that is kept as JSON text. -/
def decode : Value → Except String Value
  | .string text => context (D.parseStr text) metadataError
  | value => .ok value

/-- What `read_metadata` does with the document. -/
def profilesOf (document : Value) : Except String Value := do
  let root ← D.decode ((document.get "persist:root").getD document)
  let status ← context (root.get "status") metadataError
  let status ← D.decode status
  context ((status.get "profiles").filter Value.isObject) metadataError

def readMetadata (path : OsPath) : Except String Value :=
  match D.openFile path with
  | .error .notFound => .ok .null
  | .error (.other _) => .error "could not read OpenVPN Connect metadata"
  | .ok read => do
    let bytes ← withContext (read (maxMetadata + 1)) "could not read OpenVPN Connect metadata"
    ensure (bytes.length ≤ maxMetadata) "OpenVPN Connect metadata exceeds 16 MiB; use --config PATH"
    let document ← context (D.parseSlice bytes) metadataError
    D.profilesOf document

end Disk

/-- The display name: the first of four fields that is not blank, or else the ID. -/
def displayName (record : Value) (id : String) : String :=
  (["profileDisplayName", "name", "friendlyName", "profileName"].findSome?
    fun key => (record.index key).nonemptyString).getD id

/-- The username of the record, or else the one its profile is locked to. -/
def recordUsername (record : Value) : Option String :=
  (record.index "username").nonemptyString.or
    ((record.index "profileConfig").index "userlockedUsername").nonemptyString

/-- The profile of a directory entry; `none` for an entry that is passed over. -/
def profileOf (directory : OsPath) (metadata : Value) (entry : DirEntry) :
    Except String (Option Profile) := do
  let isFile ← entry.isFile
  if !isFile || !hasOvpnExtension entry.fileName then return none
  else
    let id ← context (toStr (fileStem entry.fileName))
      "OpenVPN Connect profile filename is not valid UTF-8"
    let record := metadata.index id
    return some
      { id
        name := displayName record id
        path := directory ++ [entry.fileName]
        username := recordUsername record
        savedPassword := (record.index "savedPassword").asBool.getD false }

/-- One iteration of the loop over the directory. -/
def addEntry (directory : OsPath) (metadata : Value) (profiles : List Profile)
    (entry : Except String DirEntry) : Except String (List Profile) := do
  let entry ← withContext entry "could not read OpenVPN Connect profile directory entry"
  let profile ← profileOf directory metadata entry
  return profiles ++ profile.toList

/-- The order of the list: by name, then by ID. -/
def Profile.cmp (a b : Profile) : Ordering := (Text.cmp a.name b.name).then (Text.cmp a.id b.id)

/-- `sort_by`, which is stable. -/
def sortProfiles (profiles : List Profile) : List Profile :=
  profiles.insertionSort fun a b => (a.cmp b).isLE = true

/-- The directory of the profiles. -/
def profilesDirectory (root : OsPath) : OsPath := root ++ [osString "profiles"]

def discoverIn (D : Disk) (root : OsPath) : Except String (List Profile) := do
  let directory := profilesDirectory root
  let entries ← withContext (D.readDir directory)
    ("could not read OpenVPN Connect profiles in " ++ D.display directory ++
      "; import a profile in Connect or use --config PATH")
  let metadata ← D.readMetadata (root ++ [osString "config.json"])
  let profiles ← entries.foldlM (addEntry directory metadata) []
  let profiles := sortProfiles profiles
  ensure (!profiles.isEmpty) ("no .ovpn profiles found in " ++ D.display directory ++
    "; import a profile in OpenVPN Connect or use --config PATH")
  return profiles

def select (profiles : List Profile) (selector : String) : Except String Profile :=
  match profiles.find? fun p => p.id == selector with
  | some profile => .ok profile
  | none =>
    match profiles.filter fun p => p.name == selector with
    | [] => .error
      "OpenVPN Connect profile not found; run `ovpnlane profiles` and use an exact name or ID"
    | [profile] => .ok profile
    | _ => .error
      "multiple OpenVPN Connect profiles have that name; select an ID from `ovpnlane profiles`"

end Connect

end Ovpnlane
