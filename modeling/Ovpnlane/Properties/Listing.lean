import Ovpnlane.Construction.Listing
import Ovpnlane.Framework.Framing
import Ovpnlane.Properties.Profiles

/-!
# The list of profiles

An escape begins with a backslash and shows its end, and a character that is not escaped is not a
backslash; so `escapeDebug` is a prefix code (`prefixCode_escapeDebug`) whose words have no control
characters (`isControl_of_mem_escapeDebug`).  The rows of the list inherit both: `list_lines` says
what the text looks like, and that it determines the IDs and names.

`select_display_iff` is about the other use of the escaped ID, as a selector: `select` compares it
with the ID as it is.  The menu is as safe to print as the list (`filter_isControl_menu`), and the
numbers in it are those to enter (`menuIndex_number`).
-/

namespace Ovpnlane

open Text

namespace Connect

/-! ## Numerals -/

lemma toDigit_digitChar {radix d : ℕ} (hradix : radix ≤ 16) (hd : d < radix) :
    toDigit radix (Nat.digitChar d) = some d := by
  have hall : ∀ radix ≤ 16, ∀ d < radix, toDigit radix (Nat.digitChar d) = some d := by decide
  exact hall radix hradix d hd

/-- The digits of a number denote it. -/
lemma digitsValue_toDigits {radix : ℕ} (hlarge : 1 < radix) (hradix : radix ≤ 16) (n : ℕ) :
    digitsValue radix (Nat.toDigits radix n) = n := by
  induction n using Nat.base_induction radix hlarge with
  | single m hm => simp [digitsValue, Nat.toDigits_of_lt_base hm, toDigit_digitChar hradix hm]
  | digit m k hk hm ih =>
    rw [digitsValue] at ih
    rw [← Nat.toDigits_append_toDigits hlarge hm hk, digitsValue, List.foldl_append, ih,
      Nat.toDigits_of_lt_base hk]
    simp [toDigit_digitChar hradix hk, Nat.mul_comm]

lemma toDigit_of_mem_toDigits {radix n : ℕ} {c : Char} (hlarge : 1 < radix) (hradix : radix ≤ 16)
    (h : c ∈ Nat.toDigits radix n) : (toDigit radix c).isSome = true := by
  induction n using Nat.base_induction radix hlarge with
  | single m hm =>
    rw [Nat.toDigits_of_lt_base hm, List.mem_singleton] at h
    rw [h, toDigit_digitChar hradix hm]
    rfl
  | digit m k hk hm ih =>
    rw [← Nat.toDigits_append_toDigits hlarge hm hk, Nat.toDigits_of_lt_base hk,
      List.mem_append, List.mem_singleton] at h
    rcases h with h | rfl
    · exact ih h
    · rw [toDigit_digitChar hradix hk]
      rfl

/-! ## Lines -/

lemma endLine_reverse {line : List Char} (h : '\r' ∉ line) : endLine line.reverse = line := by
  unfold endLine
  split
  · next rest heq =>
    exact absurd (List.mem_reverse.mp (heq ▸ List.mem_cons_self)) h
  · exact List.reverse_reverse line

lemma linesFrom_append {line : List Char} (hfeed : '\n' ∉ line) (cs read : List Char) :
    linesFrom (line ++ '\n' :: cs) read =
      endLine (line.reverse ++ read) :: linesFrom cs [] := by
  induction line generalizing read with
  | nil => rfl
  | cons c line ih =>
    rw [List.mem_cons, not_or] at hfeed
    rw [List.cons_append, linesFrom.eq_def]
    split
    · next heq => cases heq
    · next heq => exact absurd (List.cons_eq_cons.mp heq).1.symm hfeed.1
    · next c' cs' _ heq =>
      obtain ⟨rfl, rfl⟩ := List.cons_eq_cons.mp heq
      rw [ih hfeed.2, List.reverse_cons, List.append_assoc]
      rfl

/-- Lines without line endings in them are found again. -/
lemma lines_join {ls : List String} (h : ∀ line ∈ ls, '\n' ∉ line.toList ∧ '\r' ∉ line.toList) :
    lines (String.join (ls.map (· ++ "\n"))) = ls := by
  induction ls with
  | nil => rfl
  | cons line ls ih =>
    rw [List.forall_mem_cons] at h
    have hhead : (String.join ((line :: ls).map (· ++ "\n"))).toList =
        line.toList ++ '\n' :: (String.join (ls.map (· ++ "\n"))).toList := by simp
    rw [lines] at ih ⊢
    rw [hhead, linesFrom_append h.1.1, List.append_nil, endLine_reverse h.1.2, List.map_cons,
      ih h.2, String.ofList_toList]

/-! ## Escapes -/

/-- The characters with an escape of their own, each with its letter. -/
def backslashes : List (Char × Char) :=
  [('\x00', '0'), ('\t', 't'), ('\r', 'r'), ('\n', 'n'), ('\x5c', '\x5c'), ('\x22', '\x22'),
    ('\x27', '\x27')]

lemma backslashed_eq_some {c letter : Char} (h : backslashed c = some letter) :
    (c, letter) ∈ backslashes := by
  unfold backslashed at h
  split_ifs at h with hnul htab hreturn hfeed hsame
  all_goals obtain rfl := Option.some.inj h
  · simp [hnul, backslashes]
  · simp [htab, backslashes]
  · simp [hreturn, backslashes]
  · simp [hfeed, backslashes]
  · rcases hsame with rfl | rfl | rfl <;> decide

/-- The letter of an escape says which character it is for. -/
lemma backslashed_inj {a b letter : Char} (ha : backslashed a = some letter)
    (hb : backslashed b = some letter) : a = b := by
  have hall : ∀ x ∈ backslashes, ∀ y ∈ backslashes, x.2 = y.2 → x.1 = y.1 := by decide
  exact hall _ (backslashed_eq_some ha) _ (backslashed_eq_some hb) rfl

lemma isControl_of_toDigit {radix : ℕ} {c : Char} (h : (toDigit radix c).isSome = true) :
    isControl c = false := by
  obtain ⟨hlow, hhigh⟩ := toNat_of_toDigit h
  simp only [Char.reduceToNat] at hlow hhigh
  simp only [isControl, Bool.or_eq_false_iff, Bool.and_eq_false_iff, decide_eq_false_iff_not]
  omega

lemma escapeUnicode_inj {a b : Char} {r s : List Char}
    (h : escapeUnicode a ++ r = escapeUnicode b ++ s) : a = b := by
  have hend : ∀ n, '\x7d' ∉ Nat.toDigits 16 n := by
    intro n hmem
    have hdigit := toDigit_of_mem_toDigits (by decide) le_rfl hmem
    revert hdigit
    decide
  have h : Nat.toDigits 16 a.toNat ++ '\x7d' :: r = Nat.toDigits 16 b.toNat ++ '\x7d' :: s := by
    simpa [escapeUnicode] using h
  have hdigits := (append_cons_inj (hend _) (hend _) h).1
  rw [← Char.toNat_inj, ← digitsValue_toDigits (by decide) le_rfl a.toNat, hdigits,
    digitsValue_toDigits (by decide) le_rfl]

namespace UnicodeTables

variable (U : UnicodeTables)

/-- The three shapes of an escape. -/
lemma escapeDebug_cases (c : Char) :
    (∃ letter, backslashed c = some letter ∧ U.escapeDebug c = ['\x5c', letter]) ∨
      U.escapeDebug c = escapeUnicode c ∨
      backslashed c = none ∧ U.isPrintable c = true ∧ U.escapeDebug c = [c] := by
  unfold escapeDebug
  cases backslashed c with
  | some letter => exact .inl ⟨letter, rfl, rfl⟩
  | none =>
    right
    by_cases hextended : U.isGraphemeExtended c = true
    · exact .inl (if_pos hextended)
    · by_cases hprintable : U.isPrintable c = true
      · exact .inr ⟨rfl, hprintable, (if_neg hextended).trans (if_pos hprintable)⟩
      · exact .inl ((if_neg hextended).trans (if_neg hprintable))

/-- **The escape of a character is known whatever follows it.** -/
lemma prefixCode_escapeDebug : PrefixCode U.escapeDebug := by
  intro a b r s h
  have hletter : ∀ {c}, backslashed c ≠ some 'u' := by
    intro c hc
    have hall : ∀ x ∈ backslashes, x.2 ≠ 'u' := by decide
    exact hall _ (backslashed_eq_some hc) rfl
  have hbackslash : backslashed '\x5c' ≠ none := by decide
  rcases U.escapeDebug_cases a with ⟨la, hla, ha⟩ | ha | ⟨hna, -, ha⟩ <;>
    rcases U.escapeDebug_cases b with ⟨lb, hlb, hb⟩ | hb | ⟨hnb, -, hb⟩ <;> rw [ha, hb] at h
  · obtain rfl : la = lb := (List.cons_eq_cons.mp (List.cons_eq_cons.mp h).2).1
    exact backslashed_inj hla hlb
  · obtain rfl : la = 'u' := (List.cons_eq_cons.mp (List.cons_eq_cons.mp h).2).1
    exact absurd hla hletter
  · obtain rfl : '\x5c' = b := (List.cons_eq_cons.mp h).1
    exact absurd hnb hbackslash
  · obtain rfl : 'u' = lb := (List.cons_eq_cons.mp (List.cons_eq_cons.mp h).2).1
    exact absurd hlb hletter
  · exact escapeUnicode_inj h
  · obtain rfl : '\x5c' = b := (List.cons_eq_cons.mp h).1
    exact absurd hnb hbackslash
  · obtain rfl : a = '\x5c' := (List.cons_eq_cons.mp h).1
    exact absurd hna hbackslash
  · obtain rfl : a = '\x5c' := (List.cons_eq_cons.mp h).1
    exact absurd hna hbackslash
  · exact (List.cons_eq_cons.mp h).1

lemma escapeDebug_ne_nil (c : Char) : U.escapeDebug c ≠ [] := by
  rcases U.escapeDebug_cases c with ⟨_, -, h⟩ | h | ⟨-, -, h⟩ <;> rw [h] <;>
    exact List.cons_ne_nil _ _

/-- No escape has a control character. -/
lemma isControl_of_mem_escapeDebug {c x : Char} (h : x ∈ U.escapeDebug c) :
    isControl x = false := by
  rcases U.escapeDebug_cases c with ⟨letter, hletter, hc⟩ | hc | ⟨-, hprintable, hc⟩
  · have hall : ∀ y ∈ backslashes, isControl y.2 = false := by decide
    rw [hc, List.mem_cons, List.mem_singleton] at h
    rcases h with rfl | rfl
    · rfl
    · exact hall _ (backslashed_eq_some hletter)
  · rw [hc, escapeUnicode, List.mem_append] at h
    rcases h with h | h
    · rw [List.mem_cons, List.mem_cons, List.mem_cons] at h
      rcases h with rfl | rfl | rfl | h
      · rfl
      · rfl
      · rfl
      · exact isControl_of_toDigit (toDigit_of_mem_toDigits (by decide) le_rfl h)
    · rw [List.mem_singleton.mp h]
      rfl
  · rw [hc, List.mem_singleton] at h
    subst h
    unfold isPrintable at hprintable
    unfold isControl
    split_ifs at hprintable with hlow hascii hhigh
    · simp [hlow]
      omega
    · simp [hlow]
      omega

@[simp] lemma toList_display (text : String) :
    (U.display text).toList = text.toList.flatMap U.escapeDebug := String.toList_ofList

lemma display_injective : Function.Injective U.display := by
  intro s t h
  have h : s.toList.flatMap U.escapeDebug = t.toList.flatMap U.escapeDebug := by
    rw [← U.toList_display, h, U.toList_display]
  exact String.toList_inj.mp
    (U.prefixCode_escapeDebug.flatMap_injective U.escapeDebug_ne_nil h)

lemma isControl_of_mem_display {text : String} {c : Char} (h : c ∈ (U.display text).toList) :
    isControl c = false := by
  rw [toList_display, List.mem_flatMap] at h
  obtain ⟨x, -, hc⟩ := h
  exact U.isControl_of_mem_escapeDebug hc

lemma filter_isControl_display (text : String) : (U.display text).toList.filter isControl = [] :=
  List.filter_eq_nil_iff.mpr fun c hc => by
    rw [U.isControl_of_mem_display hc]
    exact Bool.false_ne_true

/-! ## The rows -/

/-- The tab is the one control character of a row. -/
lemma filter_isControl_row (profile : Profile) :
    (U.row profile).toList.filter isControl = ['\t'] := by
  have hrow : (U.row profile).toList =
      (U.display profile.id).toList ++ '\t' :: (U.display profile.name).toList := by simp [row]
  rw [hrow, List.filter_append, U.filter_isControl_display, List.nil_append,
    List.filter_cons_of_pos (by decide), U.filter_isControl_display]

/-- A row determines the ID and the name. -/
lemma row_inj {p q : Profile} (h : U.row p = U.row q) : p.id = q.id ∧ p.name = q.name := by
  have htab : ∀ text, '\t' ∉ (U.display text).toList := by
    intro text hmem
    have hcontrol := U.isControl_of_mem_display hmem
    revert hcontrol
    decide
  have h : (U.display p.id).toList ++ '\t' :: (U.display p.name).toList =
      (U.display q.id).toList ++ '\t' :: (U.display q.name).toList := by
    simpa [row] using congrArg String.toList h
  obtain ⟨hid, hname⟩ := append_cons_inj (htab _) (htab _) h
  exact ⟨U.display_injective (String.toList_inj.mp hid),
    U.display_injective (String.toList_inj.mp hname)⟩

/-! ## The list -/

/-- The lines of the list. -/
def listLines (profiles : List Profile) : List String := "ID\tNAME" :: profiles.map U.row

lemma list_eq_join (profiles : List Profile) :
    U.list profiles = String.join ((U.listLines profiles).map (· ++ "\n")) := by
  simp [list, listLines, Function.comp_def]

lemma filter_isControl_of_mem_listLines {profiles : List Profile} {line : String}
    (h : line ∈ U.listLines profiles) : line.toList.filter isControl = ['\t'] := by
  rcases List.mem_cons.mp h with rfl | h
  · decide
  · obtain ⟨profile, -, rfl⟩ := List.mem_map.mp h
    exact U.filter_isControl_row profile

/-- **The lines of the list**: the header, and one line a profile, in their order. -/
lemma lines_list (profiles : List Profile) : lines (U.list profiles) = U.listLines profiles := by
  rw [list_eq_join]
  refine lines_join fun line hline => ?_
  have hcontrol := U.filter_isControl_of_mem_listLines hline
  have hother : ∀ c, isControl c = true → c ≠ '\t' → c ∉ line.toList := by
    intro c hc htab hmem
    have hfiltered := List.mem_filter.mpr ⟨hmem, hc⟩
    rw [hcontrol, List.mem_singleton] at hfiltered
    exact htab hfiltered
  exact ⟨hother '\n' (by decide) (by decide), hother '\r' (by decide) (by decide)⟩

lemma map_row_eq_iff {ps qs : List Profile} : ps.map U.row = qs.map U.row ↔
    ps.map (fun p => (p.id, p.name)) = qs.map fun p => (p.id, p.name) := by
  have hkey : Function.FactorsThrough (fun p : Profile => (p.id, p.name)) U.row :=
    fun p q h => Prod.ext_iff.mpr (U.row_inj h)
  obtain ⟨key, hkey⟩ := (Function.factorsThrough_iff _).mp hkey
  have hrow : U.row = (fun k : String × String => U.display k.1 ++ "\t" ++ U.display k.2) ∘
      fun p : Profile => (p.id, p.name) := rfl
  constructor
  · intro h
    rw [hkey, ← List.map_map, h, List.map_map]
  · intro h
    rw [hrow, ← List.map_map, h, List.map_map]

/-- **The list is unambiguous and safe to print**: it has the header and one line a profile, each
with one tab and no other control character, and two lists with the same text have the same IDs and
names. -/
theorem list_lines (ps qs : List Profile) :
    lines (U.list ps) = "ID\tNAME" :: ps.map U.row ∧
      U.list ps = String.join ((lines (U.list ps)).map (· ++ "\n")) ∧
      (∀ line ∈ lines (U.list ps), line.toList.filter isControl = ['\t']) ∧
      (U.list ps = U.list qs ↔
        ps.map (fun p => (p.id, p.name)) = qs.map fun p => (p.id, p.name)) := by
  rw [lines_list, ← map_row_eq_iff]
  refine ⟨rfl, U.list_eq_join ps, fun line => U.filter_isControl_of_mem_listLines, ?_⟩
  constructor
  · intro h
    have hlines : U.listLines ps = U.listLines qs := by rw [← lines_list, h, lines_list]
    exact (List.cons_eq_cons.mp hlines).2
  · intro h
    rw [list_eq_join, list_eq_join, listLines, listLines, h]

end UnicodeTables

/-! ## A listed ID as the selector -/

/-- What `select` returns: the first profile with the ID, or else the only one with the name. -/
lemma select_eq_ok {profiles : List Profile} {selector : String} {p : Profile} :
    select profiles selector = .ok p ↔
      profiles.find? (·.id == selector) = some p ∨
        (∀ q ∈ profiles, q.id ≠ selector) ∧ profiles.filter (·.name == selector) = [p] := by
  rw [select]
  cases hid : profiles.find? (·.id == selector) with
  | some q =>
    have hmem := List.mem_of_find?_eq_some hid
    have heq : q.id = selector := by simpa using List.find?_some hid
    simp only [Except.ok.injEq, Option.some.injEq]
    exact ⟨.inl, fun h => h.resolve_right fun hnone => hnone.1 q hmem heq⟩
  | none =>
    have hnone : ∀ q ∈ profiles, q.id ≠ selector := by simpa using hid
    rw [and_iff_right hnone]
    simp only [reduceCtorEq, false_or]
    split
    · next hname => simp [hname]
    · next q hname => simp [hname]
    · next hnil hsingle => simpa using hsingle p

lemma filter_eq_singleton_iff {profiles : List Profile} (h : profiles.Nodup) {p : Profile}
    (hp : p ∈ profiles) {name : String} : profiles.filter (·.name == name) = [p] ↔
      ∀ q ∈ profiles, q.name = name ↔ q = p := by
  constructor
  · intro hfilter q hq
    have hmem : q ∈ profiles.filter (·.name == name) ↔ q ∈ [p] := by rw [hfilter]
    simpa [hq] using hmem
  · intro hname
    have hcongr : profiles.filter (·.name == name) = profiles.filter (· == p) :=
      List.filter_congr fun q hq => by simpa using hname q hq
    rw [hcongr, List.filter_beq, List.count_eq_one_of_mem h hp]
    rfl

namespace UnicodeTables

variable (U : UnicodeTables)

/-- The character is listed as it is. -/
def plain (c : Char) : Bool :=
  (backslashed c).isNone && !U.isGraphemeExtended c && U.isPrintable c

lemma escapeDebug_eq_self_iff {c : Char} : U.escapeDebug c = [c] ↔ U.plain c = true := by
  have hunicode : escapeUnicode c ≠ [c] := by simp [escapeUnicode]
  unfold escapeDebug plain
  cases backslashed c with
  | some letter => simp
  | none =>
    cases U.isGraphemeExtended c <;> cases U.isPrintable c <;> simp [hunicode]

lemma length_le_escaped (cs : List Char) : cs.length ≤ (cs.flatMap U.escapeDebug).length := by
  induction cs with
  | nil => exact le_rfl
  | cons c cs ih =>
    have hne := List.length_pos_iff.mpr (U.escapeDebug_ne_nil c)
    rw [List.flatMap_cons, List.length_append, List.length_cons]
    omega

/-- A text that is listed as it is has plain characters only. -/
lemma display_eq_self_iff {text : String} :
    U.display text = text ↔ ∀ c ∈ text.toList, U.plain c = true := by
  rw [← String.toList_inj, toList_display]
  simp only [← escapeDebug_eq_self_iff]
  generalize text.toList = cs
  induction cs with
  | nil => simp
  | cons c cs ih =>
    rw [List.flatMap_cons, List.forall_mem_cons, ← ih]
    constructor
    · intro h
      -- No escape is shorter than its character, so none of these is longer either.
      have hlen := congrArg List.length h
      have hrest := U.length_le_escaped cs
      have hne := List.length_pos_iff.mpr (U.escapeDebug_ne_nil c)
      rw [List.length_append, List.length_cons] at hlen
      exact List.append_inj (h.trans (List.singleton_append).symm)
        (by rw [List.length_singleton]; omega)
    · rintro ⟨hhead, hrest⟩
      rw [hhead, hrest]
      rfl

/-- **When a listed ID selects its profile**: when it is listed as it is, or when its escaped form
is not an ID and happens to be the name of this profile alone. -/
theorem select_display_iff {profiles : List Profile} (hids : (profiles.map (·.id)).Nodup)
    {p : Profile} (hp : p ∈ profiles) :
    select profiles (U.display p.id) = .ok p ↔
      (∀ c ∈ p.id.toList, U.plain c = true) ∨
        (∀ q ∈ profiles, q.id ≠ U.display p.id) ∧
          ∀ q ∈ profiles, q.name = U.display p.id ↔ q = p := by
  rw [select_eq_ok, filter_eq_singleton_iff (List.Nodup.of_map _ hids) hp, ← display_eq_self_iff]
  refine or_congr ⟨fun h => ?_, fun h => ?_⟩ Iff.rfl
  · have hid := List.find?_some h
    exact (by simpa using hid : p.id = U.display p.id).symm
  · rw [h, find?_id hids hp]

end UnicodeTables

/-- Tables in which the combining diacritical marks extend graphemes. -/
def latinTables : UnicodeTables :=
  ⟨fun c => 0x300 ≤ c.toNat && c.toNat < 0x370, fun _ => true⟩

theorem select_display_two :
    select [bareProfile "100" "100.ovpn", bareProfile "200" "200.ovpn"]
      (latinTables.display "200") = .ok (bareProfile "200" "200.ovpn") :=
  (latinTables.select_display_iff (by decide) (p := bareProfile "200" "200.ovpn")
    (by decide)).mpr (.inl (List.all_eq_true.mp (by decide)))

/-- An apostrophe is listed with a backslash.  The ID with the backslash is unknown, or is that of
another profile. -/
theorem displayed_apostrophe :
    discoverIn (bareDisk ["it\x27s.ovpn"]) [] = .ok [bareProfile "it\x27s" "it\x27s.ovpn"] ∧
      select [bareProfile "it\x27s" "it\x27s.ovpn"] (latinTables.display "it\x27s") = .error
        "OpenVPN Connect profile not found; run `ovpnlane profiles` and use an exact name or ID" ∧
      discoverIn (bareDisk ["it\x27s.ovpn", "it\\\x27s.ovpn"]) [] =
        .ok [bareProfile "it\x27s" "it\x27s.ovpn", bareProfile "it\\\x27s" "it\\\x27s.ovpn"] ∧
      select [bareProfile "it\x27s" "it\x27s.ovpn", bareProfile "it\\\x27s" "it\\\x27s.ovpn"]
        (latinTables.display "it\x27s") = .ok (bareProfile "it\\\x27s" "it\\\x27s.ovpn") := by
  refine ⟨by decide +kernel, by decide +kernel, by decide +kernel, by decide +kernel⟩

/-! ## The menu -/

/-- The line feed after a number is trimmed. -/
lemma trim_number (n : ℕ) : trim (toString n ++ "\n") = String.ofList (Nat.toDigits 10 n) := by
  have hstays : ∀ cs : List Char, (∀ c ∈ cs, c ∈ Nat.toDigits 10 n) →
      cs.dropWhile isWhitespace = cs := by
    rintro (_ | ⟨c, cs⟩) hcs
    · rfl
    · have hdigit := toDigit_of_mem_toDigits (by decide) (by decide) (hcs c List.mem_cons_self)
      exact List.dropWhile_cons_of_neg
        (by rw [isWhitespace_of_toDigit hdigit]; exact Bool.false_ne_true)
  have hfront : (Nat.toDigits 10 n ++ ['\n']).dropWhile isWhitespace =
      Nat.toDigits 10 n ++ ['\n'] := by
    rw [List.dropWhile_append, hstays _ fun _ h => h, if_neg (by simp)]
  have hentered : (toString n ++ "\n").toList = Nat.toDigits 10 n ++ ['\n'] := by simp
  rw [trim, hentered, hfront, List.reverse_append, List.reverse_singleton, List.singleton_append,
    List.dropWhile_cons_of_pos (by decide), hstays _ fun _ h => List.mem_reverse.mp h,
    List.reverse_reverse]

lemma parseUsize_toDigits {n : ℕ} (h : n < 2 ^ 64) :
    parseUsize (String.ofList (Nat.toDigits 10 n)) = some n := by
  have hdigit : ∀ c ∈ Nat.toDigits 10 n, (toDigit 10 c).isSome = true :=
    fun c => toDigit_of_mem_toDigits (by decide) (by decide)
  have hplus : ∀ cs, Nat.toDigits 10 n ≠ '+' :: cs := by
    intro cs hcs
    have hsome := hdigit '+' (hcs ▸ List.mem_cons_self)
    revert hsome
    decide
  have hall : (Nat.toDigits 10 n).all (fun c => (toDigit 10 c).isSome) = true :=
    List.all_eq_true.mpr hdigit
  unfold parseUsize
  rw [String.toList_ofList]
  split
  · next cs hcs => exact absurd hcs (hplus cs)
  · simp only [hall, digitsValue_toDigits (by decide : 1 < 10) (by decide : 10 ≤ 16), if_pos h]
    simp

lemma filter_isControl_toDigits (n : ℕ) : (Nat.toDigits 10 n).filter isControl = [] :=
  List.filter_eq_nil_iff.mpr fun c hc => by
    rw [isControl_of_toDigit (toDigit_of_mem_toDigits (by decide) (by decide) hc)]
    exact Bool.false_ne_true

namespace UnicodeTables

variable (U : UnicodeTables)

lemma filter_isControl_menuLine (p : Profile) (i : ℕ) :
    (U.menuLine p i).toList.filter isControl = ['\n'] := by
  have hchars : (U.menuLine p i).toList = Nat.toDigits 10 (i + 1) ++ (['.', ' '] ++
      ((U.display p.name).toList ++ ([' ', '['] ++ ((U.display p.id).toList ++ [']', '\n'])))) := by
    simp [menuLine]
  simp only [hchars, List.filter_append, filter_isControl_toDigits, filter_isControl_display]
  rfl

/-- The lines of the menu from an index on. -/
lemma filter_isControl_menuLines (profiles : List Profile) (first : ℕ) :
    (String.join (profiles.mapIdx fun i p => U.menuLine p (first + i))).toList.filter isControl =
      List.replicate profiles.length '\n' := by
  induction profiles generalizing first with
  | nil => rfl
  | cons p profiles ih =>
    have hrest := ih (first + 1)
    simp only [Nat.add_right_comm first 1] at hrest
    rw [List.mapIdx_cons, String.join_cons, String.toList_append, List.filter_append,
      filter_isControl_menuLine]
    exact congrArg _ hrest

/-- The menu has no control characters but the line feeds at the ends of its lines. -/
theorem filter_isControl_menu (profiles : List Profile) :
    (U.menu profiles).toList.filter isControl = List.replicate profiles.length '\n' := by
  have hlines := U.filter_isControl_menuLines profiles 0
  simp only [Nat.zero_add] at hlines
  have hprompt : (U.menu profiles).toList =
      (String.join (profiles.mapIdx fun i p => U.menuLine p i)).toList ++
        ("Select VPN [1-".toList ++ (Nat.toDigits 10 profiles.length ++ "]: ".toList)) := by
    simp [menu]
  rw [hprompt, List.filter_append, List.filter_append, List.filter_append, hlines,
    filter_isControl_toDigits]
  exact List.append_nil _

end UnicodeTables

/-- The number that the menu shows before a profile is the one to enter for it. -/
lemma menuIndex_number {i : ℕ} (hfits : i + 1 < 2 ^ 64) :
    menuIndex (toString (i + 1) ++ "\n") = some i := by
  rw [menuIndex, trim_number, parseUsize_toDigits hfits]
  simp

end Connect

end Ovpnlane
