import Ovpnlane.Construction.Connect
import Ovpnlane.Construction.Installer
import Ovpnlane.Framework.Framing
import Ovpnlane.Properties.UpdateGates
import Mathlib.Data.List.TakeWhile

/-!
# Three readings of a checksum manifest

`verify_checksum` and `install.sh` read the manifest that `package.py` writes.  They separate the
fields by white space and by blanks, compare the digest ignoring case and as text, and the name as
text and as `awk` compares.  `verifyChecksum_line` and `checkManifest_line` say what each accepts of
a manifest of one line, and `manifests_agree_iff` when that is the same.
-/

namespace Ovpnlane

open Text Update

namespace Installer

/-! ## Manifests and names -/

/-- A line of ASCII text. -/
structure Line where
  text : String
  ascii : ∀ c ∈ text.toList, c.toNat < 128
  feed : '\n' ∉ text.toList
  carriage : '\r' ∉ text.toList

/-- The file of the line. -/
def Line.manifest (line : Line) : String := line.text ++ "\n"

/-- The name of an archive, without white space. -/
structure ArchiveName where
  text : String
  nonempty : text ≠ ""
  whole : ∀ c ∈ text.toList, isWhitespace c = false
  /-- As the name of every file. -/
  nul : '\x00' ∉ text.toList

/-! ## Digests -/

lemma hexDigit_inj {m n : ℕ} (hm : m < 16) (hn : n < 16) (h : hexDigit m = hexDigit n) : m = n := by
  have hall : ∀ m : Fin 16, ∀ n : Fin 16, hexDigit m = hexDigit n → m = n := by decide
  exact congrArg Fin.val (hall ⟨m, hm⟩ ⟨n, hn⟩ h)

lemma isHexDigit_hexDigit {n : ℕ} (h : n < 16) : isHexDigit (hexDigit n) = true := by
  have hall : ∀ n : Fin 16, isHexDigit (hexDigit n) = true := by decide
  exact hall ⟨n, h⟩

lemma isHexDigit_of_mem_lowerHex {bytes : List UInt8} {c : Char}
    (h : c ∈ (lowerHex bytes).toList) : isHexDigit c = true := by
  rw [lowerHex, String.toList_ofList, List.mem_flatMap] at h
  obtain ⟨b, -, h⟩ := h
  have hb := b.toNat_lt
  rcases List.mem_cons.mp h with rfl | h
  · exact isHexDigit_hexDigit (by omega)
  · rw [List.mem_singleton.mp h]
    exact isHexDigit_hexDigit (by omega)

lemma lowerHex_injective : Function.Injective lowerHex := by
  intro bytes bytes' h
  have hcode : PrefixCode fun b : UInt8 => [hexDigit (b.toNat / 16), hexDigit (b.toNat % 16)] := by
    intro a b r s h
    obtain ⟨hhigh, h⟩ := List.cons_eq_cons.mp h
    obtain ⟨hlow, -⟩ := List.cons_eq_cons.mp h
    have ha := a.toNat_lt
    have hb := b.toNat_lt
    have hhigh := hexDigit_inj (by omega) (by omega) hhigh
    have hlow := hexDigit_inj (by omega) (by omega) hlow
    exact UInt8.toNat_inj.mp (by omega)
  exact hcode.flatMap_injective (fun _ => List.cons_ne_nil _ _) (String.ofList_injective h)

lemma length_lowerHex (bytes : List UInt8) : (lowerHex bytes).length = 2 * bytes.length := by
  rw [lowerHex, String.length_ofList]
  induction bytes with
  | nil => rfl
  | cons b bytes ih =>
    rw [List.flatMap_cons, List.length_append, ih, List.length_cons, List.length_cons]
    simp
    omega

lemma isHexDigit_of_toLower {c : Char} (h : isHexDigit c.toLower = true) : isHexDigit c = true := by
  by_cases hascii : c.toNat < 128
  · have hall : ∀ n < 128, isHexDigit (Char.ofNat n).toLower = true →
        isHexDigit (Char.ofNat n) = true := by decide
    rw [← Char.ofNat_toNat c] at h ⊢
    exact hall c.toNat hascii h
  · have hlower : c.toLower = c := by
      refine dif_neg fun hupper => hascii ?_
      have hle : c.toNat ≤ 'Z'.toNat := hupper.2
      exact hle.trans_lt (by decide)
    rwa [hlower] at h

/-- A digest that is the SHA-256 but for the case of its letters. -/
lemma digest_of_lower {digest : String} {bytes : List UInt8} (hlen : bytes.length = 32)
    (h : toAsciiLowercase digest = lowerHex bytes) :
    digest.length = 64 ∧ ∀ c ∈ digest.toList, isHexDigit c = true := by
  constructor
  · have hlength := congrArg String.length h
    rw [toAsciiLowercase, String.length_ofList, List.length_map, length_lowerHex, hlen] at hlength
    exact hlength
  · intro c hc
    apply isHexDigit_of_toLower
    apply @isHexDigit_of_mem_lowerHex bytes
    rw [← h, toAsciiLowercase, String.toList_ofList]
    exact List.mem_map_of_mem hc

/-- No character of a digest is white space. -/
lemma isWhitespace_of_mem_lowerHex {bytes : List UInt8} {c : Char}
    (h : c ∈ (lowerHex bytes).toList) : isWhitespace c = false :=
  isWhitespace_of_toDigit (isHexDigit_of_mem_lowerHex h)

lemma lowerHex_ne_empty {bytes : List UInt8} (hlen : bytes.length = 32) : lowerHex bytes ≠ "" := by
  intro hempty
  have hlength := length_lowerHex bytes
  rw [hempty, hlen] at hlength
  exact absurd hlength (by decide)

/-! ## Fields -/

lemma wordsFrom_eq (cs word : List Char) :
    wordsFrom cs word = (cs.splitOnPPrepend isWhitespace word).filter (!·.isEmpty) := by
  induction cs generalizing word with
  | nil => cases word <;> simp [wordsFrom]
  | cons c cs ih =>
    rw [wordsFrom, List.splitOnPPrepend_cons_eq_if]
    split_ifs with hc hword
    · rw [ih, List.splitOnPPrepend_nil_right]
      simp [List.isEmpty_iff.mp hword]
    · rw [ih, List.splitOnPPrepend_nil_right]
      simp at hword
      simp [hword]
    · exact ih (c :: word)

lemma splitWhitespace_eq (text : String) :
    splitWhitespace text = (fields isWhitespace text.toList).map String.ofList := by
  rw [splitWhitespace, wordsFrom_eq, List.splitOnPPrepend_nil_right]
  rfl

lemma isWhitespace_of_isBlank {c : Char} (h : isBlank c = true) : isWhitespace c = true := by
  rw [isBlank, Bool.or_eq_true, beq_iff_eq, beq_iff_eq] at h
  rcases h with rfl | rfl <;> rfl

/-- Two fields as texts and as lists of characters. -/
lemma map_ofList_eq_pair {pieces : List (List Char)} {a b : String} :
    pieces.map String.ofList = [a, b] ↔ pieces = [a.toList, b.toList] := by
  constructor
  · intro h
    have hpieces : pieces = (pieces.map String.ofList).map String.toList := by
      simp [Function.comp_def]
    rw [hpieces, h]
    rfl
  · rintro rfl
    simp

lemma recordFields_eq_pair {text digest field : String} :
    recordFields text = [digest, field] ↔
      fields isBlank text.toList = [digest.toList, field.toList] := map_ofList_eq_pair

lemma splitWhitespace_eq_pair {text digest field : String} :
    splitWhitespace text = [digest, field] ↔
      fields isWhitespace text.toList = [digest.toList, field.toList] := by
  rw [splitWhitespace_eq, map_ofList_eq_pair]

/-- Fields that `awk` finds are fields for the updater if they have no white space. -/
lemma splitWhitespace_of_recordFields {text digest field : String}
    (h : recordFields text = [digest, field])
    (hdigest : ∀ c ∈ digest.toList, isWhitespace c = false)
    (hfield : ∀ c ∈ field.toList, isWhitespace c = false) :
    splitWhitespace text = [digest, field] := by
  rw [recordFields_eq_pair] at h
  rw [splitWhitespace_eq_pair, ← h]
  refine fields_eq_of_forall (fun _ => isWhitespace_of_isBlank) ?_
  rw [h, List.forall_mem_cons, List.forall_mem_singleton]
  exact ⟨hdigest, hfield⟩

/-- Without vertical tabs and form feeds the fields of a line are the same for both. -/
lemma recordFields_line {line : Line} (hvertical : '\x0b' ∉ line.text.toList)
    (hform : '\x0c' ∉ line.text.toList) : recordFields line.text = splitWhitespace line.text := by
  rw [recordFields, splitWhitespace_eq]
  congr 1
  refine fields_congr fun c hc => ?_
  have hall : ∀ n < 128, Char.ofNat n ∉ ['\n', '\r', '\x0b', '\x0c'] →
      isBlank (Char.ofNat n) = isWhitespace (Char.ofNat n) := by decide
  have hother : c ∉ ['\n', '\r', '\x0b', '\x0c'] := by
    intro hmem
    simp only [List.mem_cons, List.not_mem_nil, or_false] at hmem
    rcases hmem with rfl | rfl | rfl | rfl
    · exact line.feed hc
    · exact line.carriage hc
    · exact hvertical hc
    · exact hform hc
  rw [← Char.ofNat_toNat c] at hother ⊢
  exact hall c.toNat (line.ascii c hc) hother

/-- The fields of a line like those `package.py` writes, for the installer. -/
lemma recordFields_pair {digest name : String}
    (hdigest : ∀ c ∈ digest.toList, isWhitespace c = false) (hne : digest ≠ "")
    (hwhole : ∀ c ∈ name.toList, isWhitespace c = false) (hname : name ≠ "") :
    recordFields (digest ++ "  " ++ name) = [digest, name] := by
  have hblank : ∀ {c}, isWhitespace c = false → isBlank c = false := by
    intro c hc
    exact Bool.eq_false_iff.mpr fun h => by simp [isWhitespace_of_isBlank h] at hc
  have hchars : (digest ++ "  " ++ name).toList =
      digest.toList ++ ' ' :: ([] ++ ' ' :: name.toList) := by
    simp
  have hspace : isBlank ' ' = true := rfl
  rw [recordFields_eq_pair, hchars, fields_append_cons hspace, fields_append_cons hspace,
    fields_of_forall (fun c hc => hblank (hdigest c hc)) (by simpa using hne),
    fields_of_forall (fun c hc => hblank (hwhole c hc)) (by simpa using hname)]
  rfl

/-- The fields of such a line for the updater. -/
lemma splitWhitespace_pair {digest name : String}
    (hdigest : ∀ c ∈ digest.toList, isWhitespace c = false) (hne : digest ≠ "")
    (hwhole : ∀ c ∈ name.toList, isWhitespace c = false) (hname : name ≠ "") :
    splitWhitespace (digest ++ "  " ++ name) = [digest, name] :=
  splitWhitespace_of_recordFields (recordFields_pair hdigest hne hwhole hname) hdigest hwhole

/-! ## What is accepted -/

/-- The end of the line makes no difference to the updater. -/
lemma splitWhitespace_lineEnd (windows : Bool) (text : String) :
    splitWhitespace (text ++ lineEnd windows) = splitWhitespace text := by
  have hfeed : ∀ cs : List Char, fields isWhitespace (cs ++ ['\n']) = fields isWhitespace cs :=
    fun cs => (fields_append_cons (by decide) cs []).trans (List.append_nil _)
  have hreturn : ∀ cs : List Char, fields isWhitespace (cs ++ ['\r', '\n']) =
      fields isWhitespace cs := by
    intro cs
    apply (fields_append_cons (by decide) cs ['\n']).trans
    exact (congrArg _ (hfeed [])).trans (List.append_nil _)
  rw [splitWhitespace_eq, splitWhitespace_eq, String.toList_append]
  cases windows with
  | true => exact congrArg _ (hreturn _)
  | false => exact congrArg _ (hfeed _)

/-- What the updater accepts of a manifest of one line. -/
lemma verifyChecksum_line {V : Type} {U : Updater V} {content : List UInt8}
    (hlen : (U.sha256 content).length = 32) (windows : Bool) (text name : String) :
    U.verifyChecksum content (Connect.osString (text ++ lineEnd windows)) name = .ok () ↔
      ∃ digest, splitWhitespace text = [digest, name] ∧
        toAsciiLowercase digest = lowerHex (U.sha256 content) := by
  have hutf8 : String.fromUTF8? (Connect.osString (text ++ lineEnd windows)).toByteArray =
      some (text ++ lineEnd windows) := Connect.toStr_eq_some.mpr rfl
  have hfields := splitWhitespace_lineEnd windows text
  constructor
  · intro h
    obtain ⟨text', digest, htext', hsplit, hdigest⟩ := Updater.verifyChecksum_eq_ok h
    obtain rfl := Option.some.inj (hutf8.symm.trans htext')
    exact ⟨digest, hfields ▸ hsplit, hdigest⟩
  · rintro ⟨digest, hsplit, hdigest⟩
    obtain ⟨hlength, hhex⟩ := digest_of_lower hlen hdigest
    have hall : digest.toList.all isHexDigit = true := List.all_eq_true.mpr hhex
    have hsame : eqIgnoreAsciiCase digest (lowerHex (U.sha256 content)) = true := by
      rw [eqIgnoreAsciiCase, Updater.toAsciiLowercase_lowerHex, hdigest, beq_self_eq_true]
    have hformat : (digest.length == 64 && digest.toList.all isHexDigit) = true := by
      rw [hlength, hall]
      rfl
    rw [Updater.verifyChecksum, hutf8, context_eq_ok.mpr rfl, except_ok_bind, hfields, hsplit]
    exact bind_eq_ok.mpr ⟨(), ensure_eq_ok.mpr (beq_self_eq_true name),
      bind_eq_ok.mpr ⟨(), ensure_eq_ok.mpr hformat, ensure_eq_ok.mpr hsame⟩⟩

/-- The first line of a manifest of one line. -/
lemma before_line {text : String} (hfeed : '\n' ∉ text.toList) :
    before (text ++ "\n") '\n' = text := by
  have hstop : (text.toList ++ ['\n']).takeWhile (· != '\n') = text.toList := by
    rw [List.takeWhile_append_of_pos fun c hc => by
      simpa using fun heq : c = '\n' => hfeed (heq ▸ hc)]
    simp
  rw [before, String.toList_append]
  exact (congrArg String.ofList hstop).trans String.ofList_toList

/-- A line without NUL bytes comes through a command substitution as it is. -/
lemma commandSubstitution_line {text : String} (hnul : '\x00' ∉ text.toList)
    (hfeed : '\n' ∉ text.toList) : commandSubstitution (text ++ "\n") = text := by
  have hkept : text.toList.filter (· != '\x00') = text.toList :=
    List.filter_eq_self.mpr fun c hc => by simpa using fun heq : c = '\x00' => hnul (heq ▸ hc)
  have hend : text.toList.rdropWhile (· == '\n') = text.toList :=
    List.rdropWhile_eq_self_iff.mpr fun hne => by
      simpa using fun heq : text.toList.getLast hne = '\n' => hfeed (heq ▸ List.getLast_mem hne)
  have hlast : "\n".toList.filter (· != '\x00') = ['\n'] := by decide
  rw [commandSubstitution, String.toList_append, List.filter_append, hkept, hlast,
    List.rdropWhile_concat_pos _ _ _ (by decide), hend, String.ofList_toList]

/-- The fields are parts of the line. -/
lemma mem_of_recordFields {text digest field : String} (h : recordFields text = [digest, field])
    {c : Char} (hc : c ∈ digest.toList) : c ∈ text.toList := by
  have hmem : c ∈ (fields isBlank text.toList).flatten := by
    rw [recordFields_eq_pair.mp h]
    exact List.mem_flatten.mpr ⟨_, by simp, hc⟩
  rw [flatten_fields] at hmem
  exact (List.mem_filter.mp hmem).1

/-- What the installer accepts of a manifest of one line. -/
lemma checkManifest_line (awk : Awk) {bytes : List UInt8} (hlen : bytes.length = 32)
    {text : String} (hfeed : '\n' ∉ text.toList) (name : String) :
    awk.checkManifest (lowerHex bytes) name (text ++ "\n") = .ok () ↔
      ∃ digest field, recordFields (awk.record text) = [digest, field] ∧
        commandSubstitution (digest ++ "\n") = lowerHex bytes ∧ awk.selects name field = true := by
  have hlower := digest_of_lower hlen (Updater.toAsciiLowercase_lowerHex bytes)
  have hne : commandSubstitution "" ≠ lowerHex bytes := (lowerHex_ne_empty hlen).symm
  have hexpected : awk.checkManifest (lowerHex bytes) name (text ++ "\n") = .ok () ↔
      awk.expected name (text ++ "\n") = lowerHex bytes := by
    constructor
    · intro h
      obtain ⟨_, -, h⟩ := bind_eq_ok.mp h
      simpa using ensure_eq_ok.mp h
    · intro h
      have hall : (lowerHex bytes).toList.all isHexDigit = true := List.all_eq_true.mpr hlower.2
      have hformat : ((lowerHex bytes).length == 64 &&
          (lowerHex bytes).toList.all isHexDigit) = true := by
        rw [hlower.1, hall]
        rfl
      rw [Awk.checkManifest, h]
      exact bind_eq_ok.mpr ⟨(), ensure_eq_ok.mpr hformat,
        ensure_eq_ok.mpr (beq_self_eq_true _)⟩
  rw [hexpected, Awk.expected, Awk.prints, before_line hfeed]
  split
  · next digest field hfields =>
    rw [hfields]
    split_ifs with hselects
    · constructor
      · exact fun hdigest => ⟨digest, field, rfl, hdigest, hselects⟩
      · rintro ⟨digest', field', heq, hdigest, -⟩
        rwa [(List.cons_eq_cons.mp heq).1]
    · constructor
      · exact fun hempty => absurd hempty hne
      · rintro ⟨digest', field', heq, -, hselects'⟩
        obtain rfl : field = field' := by simpa using (List.cons_eq_cons.mp heq).2
        exact absurd hselects' hselects
  · next hother =>
    constructor
    · exact fun hempty => absurd hempty hne
    · rintro ⟨digest, field, hfields, -⟩
      exact absurd hfields (hother _ _)

/-! ## Names -/

/-- What is documented of `awk`: it reads text files, which have no NUL bytes; a number begins with
a blank, a sign, a point, a digit or the first letter of an infinity or a NaN, and has no other
white space than blanks around it; an escape sequence begins with a backslash, and is not shorter
than what it stands for. -/
structure Awk.Posix (awk : Awk) : Prop where
  record : ∀ text, '\x00' ∉ text.toList → awk.record text = text
  number : ∀ text, (∃ c ∈ text.toList, isBlank c = false ∧ isWhitespace c = true) →
    awk.number text = none
  start : ∀ c cs,
    ¬ (isBlank c || c.isDigit || ['+', '-', '.', 'i', 'I', 'n', 'N'].contains c) = true →
    awk.number (String.ofList (c :: cs)) = none
  plain : ∀ text, '\x5c' ∉ text.toList → awk.assign text = text
  assign : ∀ text, (awk.assign text).length ≤ text.length

/-- `awk` takes the name as it is. -/
structure Awk.Literal (awk : Awk) (name : String) : Prop where
  assign : awk.assign name = name
  number : awk.number name = none

lemma Awk.Literal.selects {awk : Awk} {name : String} (h : awk.Literal name) (field : String) :
    awk.selects name field = true ↔ field = name := by
  rw [Awk.selects, h.assign, Awk.equals, h.number]
  cases awk.number field <;> simp

lemma afterDigits_eq_some {cs rest : List Char} (h : afterDigits cs = some rest) :
    ∃ digits, cs = digits ++ rest ∧ ∀ c ∈ digits, c.isDigit = true := by
  unfold afterDigits at h
  split_ifs at h
  obtain rfl := Option.some.inj h
  exact ⟨_, List.takeWhile_append_dropWhile.symm, fun c => List.mem_takeWhile_imp⟩

/-- The characters of a version. -/
lemma isVersion_chars {line : List Char} (h : isVersion line = true) :
    ∀ c ∈ line, (c.isAlphanum || c == '.' || c == '-') = true := by
  have hdigits : ∀ {digits rest : List Char}, (∀ c ∈ digits, c.isDigit = true) →
      (∀ c ∈ rest, (c.isAlphanum || c == '.' || c == '-') = true) →
      ∀ c ∈ digits ++ rest, (c.isAlphanum || c == '.' || c == '-') = true := by
    intro digits rest hdigits hrest c hc
    rcases List.mem_append.mp hc with hc | hc
    · simp [Char.isAlphanum, hdigits c hc]
    · exact hrest c hc
  have hpoint : ∀ {rest : List Char}, (∀ c ∈ rest, (c.isAlphanum || c == '.' || c == '-') = true) →
      ∀ c ∈ '.' :: rest, (c.isAlphanum || c == '.' || c == '-') = true :=
    fun hrest => List.forall_mem_cons.mpr ⟨by decide, hrest⟩
  unfold isVersion at h
  split at h
  · next minor hmajor =>
    split at h
    · next patch hminor =>
      obtain ⟨major, rfl, hfirst⟩ := afterDigits_eq_some hmajor
      obtain ⟨minor, rfl, hsecond⟩ := afterDigits_eq_some hminor
      refine hdigits hfirst (hpoint (hdigits hsecond (hpoint ?_)))
      split at h
      · next hpatch =>
        obtain ⟨patch, rfl, hthird⟩ := afterDigits_eq_some hpatch
        exact hdigits hthird (by simp)
      · next suffix hpatch =>
        obtain ⟨patch, rfl, hthird⟩ := afterDigits_eq_some hpatch
        rw [Bool.and_eq_true, List.all_eq_true] at h
        exact hdigits hthird (List.forall_mem_cons.mpr ⟨by decide, h.2⟩)
      · cases h
    · cases h
  · cases h

/-- The characters of a version of one line. -/
lemma versionChars {version : String} (hversion : checkVersion version = true)
    (hline : '\n' ∉ version.toList) :
    ∀ c ∈ version.toList, (c.isAlphanum || c == '.' || c == '-') = true := by
  have hsingle : version.toList.splitOn '\n' = [version.toList] :=
    List.splitOnP_eq_singleton fun c hc => by
      simpa using fun heq : c = '\n' => hline (heq ▸ hc)
  rw [checkVersion, hsingle, List.any_cons, List.any_nil, Bool.or_false] at hversion
  exact isVersion_chars hversion

/-- The names that the installer builds are taken as they are. -/
lemma literal_archiveName {awk : Awk} (hawk : awk.Posix) {version platform : String}
    (hversion : checkVersion version = true) (hline : '\n' ∉ version.toList)
    (hplatform : platform ∈ ["macos-arm64", "macos-x86_64", "linux-x86_64"]) :
    awk.Literal (archiveName version platform) := by
  have hchars := versionChars hversion hline
  refine ⟨hawk.plain _ fun hmem => ?_, ?_⟩
  · simp only [archiveName, String.toList_append, List.mem_append] at hmem
    rcases hmem with (((hmem | hmem) | hmem) | hmem) | hmem
    · revert hmem
      decide
    · exact absurd (hchars _ hmem) (by decide)
    · revert hmem
      decide
    · have hall : ∀ platform ∈ ["macos-arm64", "macos-x86_64", "linux-x86_64"],
          '\x5c' ∉ platform.toList := by decide
      exact hall platform hplatform hmem
    · revert hmem
      decide
  · have hstart : archiveName version platform =
        String.ofList ('o' :: ("vpnlane-" ++ version ++ "-" ++ platform ++ ".tar.gz").toList) := by
      rw [← String.toList_inj, archiveName]
      simp
    rw [hstart]
    exact hawk.start _ _ (by decide)

/-! ## Agreement -/

/-- What the installer accepts of a line of text. -/
lemma checkManifest_plain {awk : Awk} (hawk : awk.Posix) {bytes : List UInt8}
    (hlen : bytes.length = 32) {text : String} (hfeed : '\n' ∉ text.toList)
    (hnul : '\x00' ∉ text.toList) (name : String) :
    awk.checkManifest (lowerHex bytes) name (text ++ "\n") = .ok () ↔
      ∃ field, recordFields text = [lowerHex bytes, field] ∧ awk.selects name field = true := by
  rw [checkManifest_line awk hlen hfeed, hawk.record text hnul]
  have hplain : ∀ {digest field}, recordFields text = [digest, field] →
      commandSubstitution (digest ++ "\n") = digest := fun h =>
    commandSubstitution_line (fun hc => hnul (mem_of_recordFields h hc))
      fun hc => hfeed (mem_of_recordFields h hc)
  constructor
  · rintro ⟨digest, field, hfields, hdigest, hselects⟩
    rw [hplain hfields] at hdigest
    exact ⟨field, hdigest ▸ hfields, hselects⟩
  · rintro ⟨field, hfields, hselects⟩
    exact ⟨_, field, hfields, hplain hfields, hselects⟩

/-- A digest that passes the format test of the installer and is not the text it compares with. -/
lemma checkManifest_mismatch {awk : Awk} (hawk : awk.Posix) {text digest field actual name : String}
    (hfeed : '\n' ∉ text.toList) (hnul : '\x00' ∉ text.toList)
    (hfields : recordFields text = [digest, field]) (hselects : awk.selects name field = true)
    (hformat : (digest.length == 64 && digest.toList.all isHexDigit) = true)
    (hactual : digest ≠ actual) :
    awk.checkManifest actual name (text ++ "\n") =
      .error "SHA-256 checksum mismatch; installation was not changed" := by
  have hexpected : awk.expected name (text ++ "\n") = digest := by
    rw [Awk.expected, Awk.prints, before_line hfeed, hawk.record text hnul, hfields]
    refine (congrArg _ (if_pos hselects)).trans (commandSubstitution_line ?_ ?_)
    · exact fun hc => hnul (mem_of_recordFields hfields hc)
    · exact fun hc => hfeed (mem_of_recordFields hfields hc)
  rw [Awk.checkManifest, hexpected, ensure_eq_ok.mpr hformat, except_ok_bind, ensure,
    if_neg (by simpa using hactual)]
  rfl

/-- A line that the updater accepts for an archive has no NUL bytes. -/
lemma nul_not_mem {text digest : String} {bytes : List UInt8} {name : ArchiveName}
    (hlen : bytes.length = 32) (hsplit : splitWhitespace text = [digest, name.text])
    (hdigest : toAsciiLowercase digest = lowerHex bytes) : '\x00' ∉ text.toList := by
  intro hnul
  have hmem : '\x00' ∈ (fields isWhitespace text.toList).flatten := by
    rw [flatten_fields, List.mem_filter]
    exact ⟨hnul, by decide⟩
  rw [splitWhitespace_eq_pair.mp hsplit] at hmem
  simp only [List.flatten_cons, List.flatten_nil, List.append_nil, List.mem_append] at hmem
  rcases hmem with hmem | hmem
  · exact absurd ((digest_of_lower hlen hdigest).2 _ hmem) (by decide)
  · exact name.nul hmem

/-- The digest that `awk` finds is the one the updater finds, and so is the name. -/
lemma fields_unique {awk : Awk} (hawk : awk.Posix) {text digest field : String} {bytes : List UInt8}
    {name : ArchiveName} (hrecord : recordFields text = [lowerHex bytes, field])
    (hselects : awk.selects name.text field = true)
    (hsplit : splitWhitespace text = [digest, name.text])
    (hdigest : toAsciiLowercase digest = lowerHex bytes) :
    digest = lowerHex bytes ∧ field = name.text := by
  have hhex := fun c => @isWhitespace_of_mem_lowerHex bytes c
  -- The white space that `awk` leaves in its fields is what the updater takes away.
  have hleft : (lowerHex bytes).toList ++ field.toList.filter (!isWhitespace ·) =
      digest.toList ++ name.text.toList := by
    have hflat := @filter_flatten_fields _ isBlank isWhitespace (fun _ => isWhitespace_of_isBlank)
      text.toList
    have hall : (lowerHex bytes).toList.filter (!isWhitespace ·) = (lowerHex bytes).toList :=
      List.filter_eq_self.mpr fun c hc => by rw [hhex c hc]; rfl
    rw [recordFields_eq_pair.mp hrecord, splitWhitespace_eq_pair.mp hsplit] at hflat
    simpa [hall] using hflat
  have hlength : (lowerHex bytes).toList.length = digest.toList.length := by
    rw [← hdigest, toAsciiLowercase, String.toList_ofList, List.length_map]
  obtain ⟨hsame, hfield⟩ := List.append_inj hleft hlength
  refine ⟨(String.toList_inj.mp hsame).symm, ?_⟩
  by_cases hspace : ∃ c ∈ field.toList, isWhitespace c = true
  · obtain ⟨c, hc, hspace⟩ := hspace
    have hmem : field.toList ∈ fields isBlank text.toList := by
      rw [recordFields_eq_pair.mp hrecord]
      simp
    have hnumber := hawk.number field ⟨c, hc, sep_of_mem_fields hmem hc, hspace⟩
    have hassign : field = awk.assign name.text := by
      simpa [Awk.selects, Awk.equals, hnumber] using hselects
    have hlonger : (field.toList.filter (!isWhitespace ·)).length < field.toList.length := by
      refine List.length_filter_lt_length_iff_exists.mpr ⟨c, hc, ?_⟩
      rw [hspace]
      decide
    have hshorter := hawk.assign name.text
    rw [← hassign, ← String.length_toList, ← String.length_toList, ← hfield] at hshorter
    omega
  · rw [not_exists] at hspace
    have hall : ∀ c ∈ field.toList, (!isWhitespace c) = true := by
      intro c hc
      simpa using fun h => hspace c ⟨hc, h⟩
    rw [List.filter_eq_self.mpr hall] at hfield
    exact String.toList_inj.mp hfield

/-- What `awk` separates nothing but blanks from has no other white space. -/
lemma not_mem_of_recordFields {text digest field : String} (h : recordFields text = [digest, field])
    (hdigest : ∀ c ∈ digest.toList, isWhitespace c = false)
    (hfield : ∀ c ∈ field.toList, isWhitespace c = false) {c : Char} (hblank : isBlank c = false)
    (hspace : isWhitespace c = true) : c ∉ text.toList := by
  intro hc
  have hmem : c ∈ (fields isBlank text.toList).flatten := by
    rw [flatten_fields, List.mem_filter]
    exact ⟨hc, by rw [hblank]; rfl⟩
  rw [recordFields_eq_pair.mp h] at hmem
  simp only [List.flatten_cons, List.flatten_nil, List.append_nil, List.mem_append] at hmem
  rcases hmem with hmem | hmem
  · exact absurd hspace (by rw [hdigest c hmem]; exact Bool.false_ne_true)
  · exact absurd hspace (by rw [hfield c hmem]; exact Bool.false_ne_true)

variable {V : Type} (U : Updater V) (awk : Awk)

/-- `install.sh` accepts the manifest for the archive. -/
def Installs (content : List UInt8) (name manifest : String) : Prop :=
  awk.checkManifest (lowerHex (U.sha256 content)) name manifest = .ok ()

/-- `verify_checksum` accepts it. -/
def Updates (content : List UInt8) (name manifest : String) : Prop :=
  U.verifyChecksum content (Connect.osString manifest) name = .ok ()

/-- Installer and updater agree on the manifest of a line, and on the one that is written for the
archive: both accept it for the archive, and for another one neither does. -/
structure Agree (content : List UInt8) (name : ArchiveName) (line : Line) (content' : List UInt8)
    (name' : ArchiveName) : Prop where
  same : Installs U awk content name.text line.manifest ↔ Updates U content name.text line.manifest
  accepts : Updates U content name.text line.manifest ↔
    ∃ digest, splitWhitespace line.text = [digest, name.text] ∧
      toAsciiLowercase digest = lowerHex (U.sha256 content)
  packaged : Installs U awk content name.text (packageManifest false (U.sha256 content) name.text) ∧
    Updates U content name.text (packageManifest false (U.sha256 content) name.text)
  other : U.sha256 content' ≠ U.sha256 content ∨ name'.text ≠ name.text →
    ¬ Installs U awk content' name'.text (packageManifest false (U.sha256 content) name.text) ∧
      ¬ Updates U content' name'.text (packageManifest false (U.sha256 content) name.text)

/-- Where the two read alike: the digest of the archive is in lower case on a line without vertical
tabs and form feeds, `awk` compares the names as texts, and it finds the digest and the name only on
a line without NUL bytes, which the shell drops. -/
structure Alike (content : List UInt8) (name : ArchiveName) (line : Line) (content' : List UInt8)
    (name' : ArchiveName) : Prop where
  written : ∀ digest, splitWhitespace line.text = [digest, name.text] →
    toAsciiLowercase digest = lowerHex (U.sha256 content) →
      digest = lowerHex (U.sha256 content) ∧ '\x0b' ∉ line.text.toList ∧ '\x0c' ∉ line.text.toList
  field : ∀ digest field, recordFields (awk.record line.text) = [digest, field] →
    commandSubstitution (digest ++ "\n") = lowerHex (U.sha256 content) →
      (awk.selects name.text field = true ↔ '\x00' ∉ line.text.toList ∧ field = name.text)
  named : awk.selects name.text name.text = true
  other : U.sha256 content' = U.sha256 content → awk.selects name'.text name.text = true →
    name'.text = name.text

variable {U awk}

/-- For which archive the installer accepts the manifest that is written for one. -/
lemma checkManifest_packaged (hawk : awk.Posix) {bytes bytes' : List UInt8}
    (hlen : bytes.length = 32) (hlen' : bytes'.length = 32) (name name' : ArchiveName) :
    awk.checkManifest (lowerHex bytes') name'.text
      (packageManifest false bytes name.text) = .ok () ↔
      bytes' = bytes ∧ awk.selects name'.text name.text = true := by
  have hnone : ∀ c, isWhitespace c = true ∨ c = '\x00' → c ≠ ' ' → c ∉ name.text.toList →
      c ∉ (lowerHex bytes ++ "  " ++ name.text).toList := by
    intro c hc hspace hname
    simp only [String.toList_append, List.mem_append, not_or]
    refine ⟨⟨fun hmem => ?_, by simpa using hspace⟩, hname⟩
    rcases hc with hc | rfl
    · rw [isWhitespace_of_mem_lowerHex hmem] at hc
      cases hc
    · exact absurd (isHexDigit_of_mem_lowerHex hmem) (by decide)
  have hfeed := hnone '\n' (.inl (by decide)) (by decide)
    fun hmem => absurd (name.whole _ hmem) (by decide)
  refine (checkManifest_plain hawk hlen' hfeed
    (hnone '\x00' (.inr rfl) (by decide) name.nul) name'.text).trans ?_
  rw [recordFields_pair (fun _ => isWhitespace_of_mem_lowerHex) (lowerHex_ne_empty hlen) name.whole
    name.nonempty]
  constructor
  · rintro ⟨field, heq, hselects⟩
    obtain ⟨hdigest, hrest⟩ := List.cons_eq_cons.mp heq
    obtain rfl : name.text = field := (List.cons_eq_cons.mp hrest).1
    exact ⟨(lowerHex_injective hdigest).symm, hselects⟩
  · rintro ⟨hdigest, hselects⟩
    exact ⟨name.text, by rw [hdigest], hselects⟩

lemma installs_packaged (hawk : awk.Posix) (hlen : ∀ content, (U.sha256 content).length = 32)
    (content content' : List UInt8) (name name' : ArchiveName) :
    Installs U awk content' name'.text (packageManifest false (U.sha256 content) name.text) ↔
      U.sha256 content' = U.sha256 content ∧ awk.selects name'.text name.text = true :=
  checkManifest_packaged hawk (hlen content) (hlen content') name name'

/-- For which archive the updater accepts it. -/
lemma updates_packaged (hlen : ∀ content, (U.sha256 content).length = 32) (windows : Bool)
    (content content' : List UInt8) {name : String} (hname : name ≠ "")
    (hwhole : ∀ c ∈ name.toList, isWhitespace c = false) (name' : String) :
    Updates U content' name' (packageManifest windows (U.sha256 content) name) ↔
      U.sha256 content' = U.sha256 content ∧ name' = name := by
  apply (verifyChecksum_line (hlen content') windows _ name').trans
  rw [splitWhitespace_pair (fun _ => isWhitespace_of_mem_lowerHex)
    (lowerHex_ne_empty (hlen content)) hwhole hname]
  constructor
  · rintro ⟨digest, heq, hdigest⟩
    obtain ⟨rfl, hrest⟩ := List.cons_eq_cons.mp heq
    rw [Updater.toAsciiLowercase_lowerHex] at hdigest
    exact ⟨(lowerHex_injective hdigest).symm, (List.cons_eq_cons.mp hrest).1.symm⟩
  · rintro ⟨hdigest, hname⟩
    exact ⟨lowerHex (U.sha256 content), by rw [hname],
      by rw [Updater.toAsciiLowercase_lowerHex, hdigest]⟩

/-! ## The manifest of a line -/

section Lines

variable (hawk : awk.Posix) (hlen : ∀ content, (U.sha256 content).length = 32)
  {content content' : List UInt8} {name name' : ArchiveName} {line : Line}

include hlen

lemma installs_line : Installs U awk content name.text line.manifest ↔ ∃ digest field,
    recordFields (awk.record line.text) = [digest, field] ∧
      commandSubstitution (digest ++ "\n") = lowerHex (U.sha256 content) ∧
        awk.selects name.text field = true :=
  checkManifest_line awk (hlen content) line.feed name.text

lemma updates_line : Updates U content name.text line.manifest ↔
    ∃ digest, splitWhitespace line.text = [digest, name.text] ∧
      toAsciiLowercase digest = lowerHex (U.sha256 content) :=
  verifyChecksum_line (hlen content) false line.text name.text

include hawk

lemma installs_plain (hnul : '\x00' ∉ line.text.toList) :
    Installs U awk content name.text line.manifest ↔
      ∃ field, recordFields line.text = [lowerHex (U.sha256 content), field] ∧
        awk.selects name.text field = true :=
  checkManifest_plain hawk (hlen content) line.feed hnul name.text

omit hlen in
/-- Without NUL bytes, what the shell makes of a field is the field. -/
lemma recordFields_of_substituted {actual digest field : String}
    (hnul : '\x00' ∉ line.text.toList)
    (hrecord : recordFields (awk.record line.text) = [digest, field])
    (hdigest : commandSubstitution (digest ++ "\n") = actual) :
    recordFields line.text = [actual, field] := by
  rw [hawk.record _ hnul] at hrecord
  rw [commandSubstitution_line (fun hc => hnul (mem_of_recordFields hrecord hc))
    fun hc => line.feed (mem_of_recordFields hrecord hc)] at hdigest
  rw [hrecord, hdigest]

/-- Where both accept the same, they read alike. -/
lemma Agree.alike (h : Agree U awk content name line content' name') :
    Alike U awk content name line content' name' := by
  have hhex := fun c => @isWhitespace_of_mem_lowerHex (U.sha256 content) c
  refine ⟨fun digest hsplit hdigest => ?_,
    fun digest field hrecord hdigest => ⟨fun hselects => ?_, ?_⟩,
    ((installs_packaged hawk hlen content content name name).mp h.packaged.1).2,
    fun hdigest hselects => ?_⟩
  · have hnul := nul_not_mem (hlen content) hsplit hdigest
    have hinstall := h.same.mpr ((updates_line hlen).mpr ⟨digest, hsplit, hdigest⟩)
    obtain ⟨field, hrecord, hselects⟩ := (installs_plain hawk hlen hnul).mp hinstall
    obtain ⟨rfl, rfl⟩ := fields_unique hawk hrecord hselects hsplit hdigest
    have hnone := fun {c} => @not_mem_of_recordFields _ _ _ hrecord hhex name.whole c
    exact ⟨rfl, hnone (by decide) (by decide), hnone (by decide) (by decide)⟩
  · have hupdate := h.same.mp ((installs_line hlen).mpr ⟨digest, field, hrecord, hdigest, hselects⟩)
    obtain ⟨digest', hsplit, hdigest'⟩ := (updates_line hlen).mp hupdate
    have hnul := nul_not_mem (hlen content) hsplit hdigest'
    have hfields := recordFields_of_substituted hawk hnul hrecord hdigest
    exact ⟨hnul, (fields_unique hawk hfields hselects hsplit hdigest').2⟩
  · rintro ⟨hnul, rfl⟩
    have hfields := recordFields_of_substituted hawk hnul hrecord hdigest
    have hsplit := splitWhitespace_of_recordFields hfields hhex name.whole
    have hinstall := h.same.mpr
      ((updates_line hlen).mpr ⟨_, hsplit, Updater.toAsciiLowercase_lowerHex _⟩)
    obtain ⟨field, hfields', hselects⟩ := (installs_plain hawk hlen hnul).mp hinstall
    rw [hfields] at hfields'
    obtain rfl : name.text = field := by simpa using (List.cons_eq_cons.mp hfields').2
    exact hselects
  · by_contra hname
    exact (h.other (.inr hname)).1
      ((installs_packaged hawk hlen content content' name name').mpr ⟨hdigest, hselects⟩)

/-- What reads alike is accepted by both or by neither. -/
lemma Alike.same (h : Alike U awk content name line content' name') :
    Installs U awk content name.text line.manifest ↔
      Updates U content name.text line.manifest := by
  rw [installs_line hlen, updates_line hlen]
  constructor
  · rintro ⟨digest, field, hrecord, hdigest, hselects⟩
    obtain ⟨hnul, rfl⟩ := (h.field digest field hrecord hdigest).mp hselects
    have hfields := recordFields_of_substituted hawk hnul hrecord hdigest
    have hhex := fun c => @isWhitespace_of_mem_lowerHex (U.sha256 content) c
    exact ⟨_, splitWhitespace_of_recordFields hfields hhex name.whole,
      Updater.toAsciiLowercase_lowerHex _⟩
  · rintro ⟨digest, hsplit, hdigest⟩
    have hnul := nul_not_mem (hlen content) hsplit hdigest
    obtain ⟨rfl, hvertical, hform⟩ := h.written digest hsplit hdigest
    have hfields := (recordFields_line hvertical hform).trans hsplit
    have hrecord := (congrArg recordFields (hawk.record _ hnul)).trans hfields
    have hdigit := commandSubstitution_line (fun hc => hnul (mem_of_recordFields hfields hc))
      fun hc => line.feed (mem_of_recordFields hfields hc)
    exact ⟨_, _, hrecord, hdigit, (h.field _ _ hrecord hdigit).mpr ⟨hnul, rfl⟩⟩

lemma Alike.agree (h : Alike U awk content name line content' name') :
    Agree U awk content name line content' name' := by
  refine ⟨h.same hawk hlen, updates_line hlen, ⟨?_, ?_⟩,
    fun hother => ⟨fun hinstall => ?_, fun hupdate => ?_⟩⟩
  · exact (installs_packaged hawk hlen content content name name).mpr ⟨rfl, h.named⟩
  · exact (updates_packaged hlen false content content name.nonempty name.whole name.text).mpr
      ⟨rfl, rfl⟩
  · obtain ⟨hdigest, hselects⟩ :=
      (installs_packaged hawk hlen content content' name name').mp hinstall
    exact hother.elim (· hdigest) (· (h.other hdigest hselects))
  · obtain ⟨hdigest, hname⟩ := (updates_packaged hlen false content content' name.nonempty
      name.whole name'.text).mp hupdate
    exact hother.elim (· hdigest) (· hname)

end Lines

/-- **When installer and updater agree on a manifest.** -/
theorem manifests_agree_iff (hawk : awk.Posix) (hlen : ∀ content, (U.sha256 content).length = 32)
    (content : List UInt8) (name : ArchiveName) (line : Line) (content' : List UInt8)
    (name' : ArchiveName) :
    Agree U awk content name line content' name' ↔
      Alike U awk content name line content' name' :=
  ⟨Agree.alike hawk hlen, Alike.agree hawk hlen⟩

/-- For names that `awk` takes as they are, only the line matters: how the digest is written, and
whether there are NUL bytes. -/
lemma alike_iff {name name' : ArchiveName} (h : awk.Literal name.text) (h' : awk.Literal name'.text)
    {content content' : List UInt8} {line : Line} :
    Alike U awk content name line content' name' ↔
      (∀ digest, splitWhitespace line.text = [digest, name.text] →
        toAsciiLowercase digest = lowerHex (U.sha256 content) →
          digest = lowerHex (U.sha256 content) ∧ '\x0b' ∉ line.text.toList ∧
            '\x0c' ∉ line.text.toList) ∧
        ∀ digest, recordFields (awk.record line.text) = [digest, name.text] →
          commandSubstitution (digest ++ "\n") = lowerHex (U.sha256 content) →
            '\x00' ∉ line.text.toList := by
  constructor
  · intro halike
    refine ⟨halike.written, fun digest hrecord hdigest => ?_⟩
    exact ((halike.field digest _ hrecord hdigest).mp ((h.selects _).mpr rfl)).1
  · rintro ⟨hwritten, hnul⟩
    refine ⟨hwritten, fun digest field hrecord hdigest => ?_, (h.selects _).mpr rfl,
      fun _ hselects => ((h'.selects _).mp hselects).symm⟩
    rw [h.selects]
    refine ⟨fun hname => ⟨?_, hname⟩, fun hboth => hboth.2⟩
    subst hname
    exact hnul digest hrecord hdigest

/-! ## A release -/

open NextRelease in
/-- The updater with a SHA-256 of 32 bytes for every content. -/
def shaUpdater : Updater (ℕ ×ₗ ℕ ×ₗ ℕ) :=
  { updater with sha256 := fun bytes => if bytes = archive then digest else List.replicate 32 0 }

lemma sha256_eq (content : List UInt8) : shaUpdater.sha256 content =
    if content = NextRelease.archive then NextRelease.digest else List.replicate 32 0 := rfl

lemma length_sha256 (content : List UInt8) : (shaUpdater.sha256 content).length = 32 := by
  rw [sha256_eq]
  split_ifs <;> rfl

/-- `awk` on texts without backslashes that do not look like numbers. -/
def textAwk : Awk := ⟨fun text => text, fun text => text, ℕ, inferInstance, fun _ => none⟩

lemma posix_textAwk : textAwk.Posix :=
  ⟨fun _ _ => rfl, fun _ _ => rfl, fun _ _ _ => rfl, fun _ _ => rfl, fun _ => le_rfl⟩

lemma literal_textAwk (name : String) : textAwk.Literal name := ⟨rfl, rfl⟩

/-- A name whose characters are checked together. -/
def ArchiveName.ofText (text : String) (hne : text ≠ "")
    (h : text.toList.all (fun c => !isWhitespace c && c != '\x00') = true) : ArchiveName where
  text := text
  nonempty := hne
  whole := fun c hc => by
    have hall := List.all_eq_true.mp h c hc
    rw [Bool.and_eq_true, Bool.not_eq_true'] at hall
    exact hall.1
  nul := fun hc => by simpa using List.all_eq_true.mp h _ hc

/-- The name of the archive of the release, and the one for another platform. -/
def releaseName : ArchiveName := .ofText NextRelease.name (by decide) (by decide +kernel)
def otherName : ArchiveName :=
  .ofText "ovpnlane-0.0.5-macos-arm64.tar.gz" (by decide) (by decide +kernel)

/-- A text whose characters are checked together. -/
def Line.ofText (text : String)
    (h : text.toList.all (fun c => c.toNat < 128 && c != '\n' && c != '\r') = true) : Line where
  text := text
  ascii := by
    intro c hc
    have hall := List.all_eq_true.mp h c hc
    simp only [Bool.and_eq_true, decide_eq_true_eq] at hall
    exact hall.1.1
  feed := fun hc => by simpa using List.all_eq_true.mp h _ hc
  carriage := fun hc => by simpa using List.all_eq_true.mp h _ hc

/-- The manifest of the release. -/
def releaseLine : Line :=
  .ofText ("6330afe1972b595e5d3901385f3990ee8e6635f62ceacb1864963e5be59f8850" ++ "  " ++
    releaseName.text) (by decide +kernel)

lemma lowerHex_archive : lowerHex (shaUpdater.sha256 NextRelease.archive) =
    "6330afe1972b595e5d3901385f3990ee8e6635f62ceacb1864963e5be59f8850" := by
  rw [sha256_eq, if_pos rfl]
  decide +kernel

theorem release_agree :
    Agree shaUpdater textAwk NextRelease.archive releaseName releaseLine NextRelease.archive
      otherName := by
  have htext : releaseLine.text =
      lowerHex (shaUpdater.sha256 NextRelease.archive) ++ "  " ++ releaseName.text := by
    rw [lowerHex_archive]
    rfl
  have hhex := fun c => @isWhitespace_of_mem_lowerHex (shaUpdater.sha256 NextRelease.archive) c
  have hne := lowerHex_ne_empty (length_sha256 NextRelease.archive)
  have hrecord := recordFields_pair hhex hne releaseName.whole releaseName.nonempty
  have hnone := fun {c} => @not_mem_of_recordFields _ _ _ hrecord hhex releaseName.whole c
  have hplain : (releaseLine.text.toList.all (· != '\x00')) = true := by decide +kernel
  refine (manifests_agree_iff posix_textAwk length_sha256 _ _ _ _ _).mpr
    ((alike_iff (literal_textAwk _) (literal_textAwk _)).mpr ⟨fun digest hdigest _ => ?_,
      fun _ _ _ hnul => by simpa using List.all_eq_true.mp hplain _ hnul⟩)
  rw [htext, splitWhitespace_pair hhex hne releaseName.whole releaseName.nonempty] at hdigest
  rw [htext]
  exact ⟨(List.cons_eq_cons.mp hdigest).1.symm, hnone (by decide) (by decide),
    hnone (by decide) (by decide)⟩

/-- The digest of the release in upper case. -/
def upperDigest : String := "6330AFE1972B595E5D3901385F3990EE8E6635F62CEACB1864963E5BE59F8850"

/-- The same manifest with it. -/
def upperLine : Line := .ofText (upperDigest ++ "  " ++ releaseName.text) (by decide +kernel)

/-- The digits of the digest are those of the SHA-256, and the updater accepts them; the installer
takes the manifest for valid and the archive for another one. -/
theorem upper_rejected :
    (∃ digest, splitWhitespace upperLine.text = [digest, releaseName.text] ∧
      toAsciiLowercase digest = lowerHex (shaUpdater.sha256 NextRelease.archive)) ∧
      Updates shaUpdater NextRelease.archive releaseName.text upperLine.manifest ∧
      textAwk.checkManifest (lowerHex (shaUpdater.sha256 NextRelease.archive)) releaseName.text
        upperLine.manifest = .error "SHA-256 checksum mismatch; installation was not changed" := by
  have hformat : (upperDigest.length == 64 && upperDigest.toList.all isHexDigit) = true := by
    decide +kernel
  have hwhole : ∀ c ∈ upperDigest.toList, isWhitespace c = false :=
    fun c hc => isWhitespace_of_toDigit
      (List.all_eq_true.mp (Bool.and_eq_true_iff.mp hformat).2 c hc)
  have hne : upperDigest ≠ "" := by decide
  have hsplit : ∃ digest, splitWhitespace upperLine.text = [digest, releaseName.text] ∧
      toAsciiLowercase digest = lowerHex (shaUpdater.sha256 NextRelease.archive) := by
    refine ⟨upperDigest, splitWhitespace_pair hwhole hne releaseName.whole releaseName.nonempty, ?_⟩
    rw [lowerHex_archive]
    decide +kernel
  have hlower : upperDigest ≠ lowerHex (shaUpdater.sha256 NextRelease.archive) := by
    rw [lowerHex_archive]
    decide
  have hplain : (upperLine.text.toList.all (· != '\x00')) = true := by decide +kernel
  refine ⟨hsplit, ?_, checkManifest_mismatch posix_textAwk upperLine.feed
    (fun hnul => by simpa using List.all_eq_true.mp hplain _ hnul)
    (recordFields_pair hwhole hne releaseName.whole releaseName.nonempty)
    ((literal_textAwk _).selects _ |>.mpr rfl)
    hformat hlower⟩
  exact (verifyChecksum_line (length_sha256 _) false upperLine.text releaseName.text).mpr hsplit

end Installer

end Ovpnlane
