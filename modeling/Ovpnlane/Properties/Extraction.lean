import Ovpnlane.Properties.UpdateGates

/-!
# Which archives are unpacked

`unpack_binary` writes the executable inside its loop, before it has seen the entries that follow.
`ends_unpackBinary` says how it ends, on any archive; here the archives are read without an error,
the destination is empty and the system calls succeed, and then it succeeds exactly when one entry
has the name of the executable, and that entry is a regular file of an admissible size
(`extraction_takes_one`).  The loop passes over the other entries without a trace (`ends_skip`), so
it is cut at the entry.
-/

namespace Ovpnlane

open Update

namespace Updater

variable {V : Type} {U : Updater V} {output : Path} {w : World}

/-- The archive is read to its end: these are its entries, and all their bytes can be read. -/
structure Readable (U : Updater V) (bytes : List UInt8) (windows : Bool)
    (entries : List Presented) : Prop where
  listed : U.entries bytes windows = .ok (entries.map .ok)
  whole : ∀ entry ∈ entries, entry.content.failure = none

/-- The operating system lets a file be created, written and made executable at `output`, where
there is none. -/
structure Writable (U : Updater V) (output : Path) (w : World) : Prop where
  absent : w.files output = none
  create : U.openNew output = .ok ()
  sync : U.syncAll output = .ok ()
  chmod : U.makeExecutable output = .ok ()

/-- One entry has the name of the executable; it is a regular file of 1 byte to 100 MiB. -/
def OneExecutable (entries : List Presented) (content : List UInt8) : Prop :=
  ∃ entry, entries.filter (·.named) = [entry] ∧ entry.regular = true ∧
    entry.content.bytes = content ∧ 1 ≤ content.length ∧ content.length ≤ 100 * 2 ^ 20

/-! ## The loop -/

/-- Entries of other names leave no trace. -/
lemma ends_skip {entries : List Presented} (hother : ∀ entry ∈ entries, entry.named = false)
    (found : Bool) :
    Ends ((entries.map .ok).foldlM (U.unpackEntry output) found) w
      (fun found' w' => found' = found ∧ w' = w) (fun _ _ => False) := by
  induction entries with
  | nil => exact ⟨rfl, rfl⟩
  | cons entry entries ih =>
    have hstep : Ends (U.unpackEntry output found (.ok entry)) w
        (fun found' w' => found' = found ∧ w' = w) (fun _ _ => False) := by
      unfold unpackEntry
      simp [ends_bind, hother entry (by simp)]
    rw [List.map_cons, List.foldlM_cons, ends_bind]
    refine hstep.mono ?_ fun _ _ h => h
    rintro _ _ ⟨rfl, rfl⟩
    exact ih fun entry hentry => hother entry (by simp [hentry])

/-- An admissible entry is written. -/
lemma ends_take {reader : Reading} (hwritable : U.Writable output w)
    (hexecutable : Executable reader) :
    Ends (U.writeCandidate reader output) w (fun _ _ => True) (fun _ _ => False) := by
  obtain ⟨hwhole, hnonempty, hfits⟩ := hexecutable
  have htake : reader.bytes.take (maxDownload + 1) = reader.bytes :=
    List.take_of_length_le (by omega)
  unfold writeCandidate Reading.copied
  simp only [ends_bind, ends_get, ends_lift, ends_ensure, ends_set, hwritable.create,
    hwritable.sync, hwritable.absent, hwhole, htake]
  simp [hnonempty, hfits]

/-- The loop over an archive with one admissible entry of the name. -/
lemma ends_loop {entries : List Presented} {entry : Presented} (hwritable : U.Writable output w)
    (hone : entries.filter (·.named) = [entry]) (hregular : entry.regular = true)
    (hexecutable : Executable entry.content) :
    Ends ((entries.map .ok).foldlM (U.unpackEntry output) false) w
      (fun found _ => found = true) (fun _ _ => False) := by
  obtain ⟨before, after, rfl, hbefore, hnamed, hafter⟩ := List.filter_eq_cons_iff.mp hone
  have hskip : ∀ other ∈ before, other.named = false := by
    intro other hother
    simpa using hbefore other hother
  have hrest : ∀ other ∈ after, other.named = false := by
    intro other hother
    simpa using List.filter_eq_nil_iff.mp hafter other hother
  have hstep : Ends (U.unpackEntry output false (.ok entry)) w
      (fun found _ => found = true) (fun _ _ => False) := by
    unfold unpackEntry
    simp only [ends_bind, ends_lift]
    refine ⟨?_, by simp⟩
    rintro _ ⟨⟩
    simp only [hnamed, hregular, if_true, ends_bind, ends_ensure, ends_pure]
    exact ⟨fun _ => ⟨fun _ => ends_take hwritable hexecutable, by simp⟩, by simp⟩
  rw [List.map_append, List.map_cons, List.foldlM_append, ends_bind]
  refine (ends_skip hskip false).mono ?_ fun _ _ h => h
  rintro _ _ ⟨rfl, rfl⟩
  rw [List.foldlM_cons, ends_bind]
  refine hstep.mono ?_ fun _ _ h => h
  rintro _ w' rfl
  exact (ends_skip hrest true).mono (fun _ _ h => h.1) fun _ _ h => h

/-- An archive with one admissible entry of the name is unpacked. -/
lemma ends_unpackBinary_one {bytes : List UInt8} {windows : Bool} {destination : Path}
    {entries : List Presented} {entry : Presented} (hreadable : U.Readable bytes windows entries)
    (hwritable : U.Writable (destination ++ [binaryName windows]) w)
    (hone : entries.filter (·.named) = [entry]) (hregular : entry.regular = true)
    (hexecutable : Executable entry.content) :
    Ends (U.unpackBinary bytes windows destination) w (fun _ _ => True) (fun _ _ => False) := by
  unfold unpackBinary
  simp only [ends_bind, ends_lift, hreadable.listed]
  refine ⟨?_, by simp⟩
  rintro _ ⟨⟩
  refine (ends_loop hwritable hone hregular hexecutable).mono ?_ fun _ _ h => h
  rintro _ w' rfl
  simp [hwritable.chmod]

/-! ## The executable of an archive -/

lemma maxDownload_eq : maxDownload = 100 * 2 ^ 20 := rfl

lemma Contains.one {bytes content : List UInt8} {windows : Bool}
    (h : U.Contains bytes windows content) : ∃ entries : List Presented,
      U.entries bytes windows = .ok (entries.map .ok) ∧ OneExecutable entries content := by
  obtain ⟨entries, hlisted, entry, hone, hregular, ⟨-, hnonempty, hfits⟩, rfl⟩ := contains_iff.mp h
  rw [maxDownload_eq] at hfits
  exact ⟨entries, hlisted, entry, hone, hregular, rfl, hnonempty, hfits⟩

/-- In an archive that can be read, it is the one that the entries present. -/
lemma Readable.contains_iff {bytes : List UInt8} {windows : Bool} {entries : List Presented}
    (h : U.Readable bytes windows entries) {content : List UInt8} :
    U.Contains bytes windows content ↔ OneExecutable entries content := by
  constructor
  · intro hcontains
    obtain ⟨entries', hlisted, hone⟩ := hcontains.one
    have hsame : entries.map Except.ok = entries'.map (Except.ok (ε := String)) :=
      Except.ok.inj (h.listed.symm.trans hlisted)
    rwa [List.map_injective_iff.mpr (fun _ _ => Except.ok.inj) hsame]
  · rintro ⟨entry, hone, hregular, rfl, hnonempty, hfits⟩
    have hmem : entry ∈ entries := (List.mem_filter.mp (hone ▸ List.mem_singleton_self entry)).1
    exact Updater.contains_iff.mpr ⟨entries, h.listed, entry, hone, hregular,
      ⟨h.whole entry hmem, hnonempty, maxDownload_eq ▸ hfits⟩, rfl⟩

/-- How unpacking ends, on any archive. -/
lemma ends_unpackBinary_takes (bytes : List UInt8) (windows : Bool) (destination : Path)
    (w : World) :
    Ends (U.unpackBinary bytes windows destination) w
      (fun output w' => output = destination ++ [binaryName windows] ∧ Spares output w w' ∧
        ∃ entries content, U.entries bytes windows = .ok (entries.map .ok) ∧
          OneExecutable entries content ∧ U.Contains bytes windows content ∧
            w'.files output = some content)
      (fun _ w' => Spares (destination ++ [binaryName windows]) w w') := by
  refine (ends_unpackBinary bytes windows destination w).mono ?_ fun _ _ h => h
  rintro output w' ⟨houtput, hspares, content, hfile, hcontains⟩
  obtain ⟨entries, hlisted, hone⟩ := hcontains.one
  exact ⟨houtput, hspares, entries, content, hlisted, hone, hcontains, hfile⟩

/-- What an unpacked archive contains. -/
lemma unpacked_one {bytes : List UInt8} {windows : Bool} {destination : Path}
    {entries : List Presented} (hlisted : U.entries bytes windows = .ok (entries.map .ok))
    {w' : World} (hok : U.unpackBinary bytes windows destination w = .ok output w') :
    ∃ content, OneExecutable entries content := by
  have hends := ends_unpackBinary_takes (U := U) bytes windows destination w
  unfold Ends at hends
  rw [hok] at hends
  obtain ⟨-, -, entries', content, hlisted', hone, -⟩ := hends
  have hsame : entries.map Except.ok = entries'.map (Except.ok (ε := String)) :=
    Except.ok.inj (hlisted.symm.trans hlisted')
  obtain rfl : entries = entries' := List.map_injective_iff.mpr (fun _ _ => Except.ok.inj) hsame
  exact ⟨content, hone⟩

/-- **Extraction takes exactly the one regular executable.**  However it ends, only the output is
written, and on success the output holds the bytes of the one entry of the name; an archive that can
be read is unpacked into an empty destination exactly when it has such an entry, which the reader of
the archive lists under that name as a regular file (`Contains`); and an entry of the name that is
not a regular file, anywhere in the archive, excludes success. -/
theorem extraction_takes_one (bytes : List UInt8) (windows : Bool) (destination : Path)
    (w : World) :
    Ends (U.unpackBinary bytes windows destination) w
        (fun output w' => output = destination ++ [binaryName windows] ∧ Spares output w w' ∧
          ∃ entries content, U.entries bytes windows = .ok (entries.map .ok) ∧
            OneExecutable entries content ∧ U.Contains bytes windows content ∧
              w'.files output = some content)
        (fun _ w' => Spares (destination ++ [binaryName windows]) w w') ∧
      (∀ entries, U.Readable bytes windows entries →
        (∀ content, U.Contains bytes windows content ↔ OneExecutable entries content) ∧
        (U.Writable (destination ++ [binaryName windows]) w →
          ((∃ output w', U.unpackBinary bytes windows destination w = .ok output w') ↔
            ∃ content, OneExecutable entries content))) ∧
      ∀ entries : List Presented, U.entries bytes windows = .ok (entries.map .ok) →
        (∃ entry ∈ entries, entry.named = true ∧ entry.regular = false) →
        ∀ output w', U.unpackBinary bytes windows destination w ≠ .ok output w' := by
  refine ⟨ends_unpackBinary_takes bytes windows destination w, ?_, ?_⟩
  · intro entries hreadable
    refine ⟨fun content => hreadable.contains_iff, fun hwritable => ?_⟩
    constructor
    · rintro ⟨output, w', hok⟩
      exact unpacked_one hreadable.listed hok
    · rintro ⟨content, entry, hone, hregular, rfl, hnonempty, hfits⟩
      have hmem : entry ∈ entries := (List.mem_filter.mp (hone ▸ List.mem_singleton_self entry)).1
      have hexecutable : Executable entry.content :=
        ⟨hreadable.whole entry hmem, hnonempty, maxDownload_eq ▸ hfits⟩
      have hends := ends_unpackBinary_one hreadable hwritable hone hregular hexecutable
      unfold Ends at hends
      split at hends
      · exact ⟨_, _, ‹_›⟩
      · exact hends.elim
  · rintro entries hlisted ⟨other, hmem, hnamed, hirregular⟩ output w' hok
    obtain ⟨content, entry, hone, hregular, -⟩ := unpacked_one hlisted hok
    have hother : other ∈ entries.filter (·.named) := List.mem_filter.mpr ⟨hmem, hnamed⟩
    rw [hone, List.mem_singleton] at hother
    rw [hother, hregular] at hirregular
    contradiction

end Updater

open NextRelease in
/-- The archives of a release, unpacked into an empty directory. -/
theorem extraction_takes_one_release :
    (∃ output w', updater.unpackBinary packed false ["tmp"] start = .ok output w') ∧
      ∃ output w', updater.unpackBinary zipped true ["tmp"] start = .ok output w' := by
  have hother : packed ≠ archive := by decide +kernel
  have htar : updater.entries packed false =
      .ok ((packedEntries.map (·.presented "ovpnlane")).map .ok) := by
    simp [Updater.entries, updater, Updater.binaryName, Except.map, hother, Function.comp_def]
  have hzip : updater.entries zipped true =
      .ok ([⟨true, true, ⟨binary, none⟩⟩, ⟨false, true, ⟨[], none⟩⟩].map .ok) := by
    simp [Updater.entries, updater, ZipEntry.presented, Updater.binaryName, Except.map]
  constructor
  · exact (((Updater.extraction_takes_one packed false ["tmp"] start).2.1 _
      ⟨htar, by simp [packedEntries, TarEntry.presented]⟩).2 ⟨by decide, rfl, rfl, rfl⟩).mpr
      ⟨binary, ⟨true, true, ⟨binary, none⟩⟩, by decide +kernel, rfl, rfl, by decide, by decide⟩
  · exact (((Updater.extraction_takes_one zipped true ["tmp"] start).2.1 _
      ⟨hzip, by simp⟩).2 ⟨by decide, rfl, rfl, rfl⟩).mpr
      ⟨binary, ⟨true, true, ⟨binary, none⟩⟩, rfl, rfl, rfl, by decide, by decide⟩

end Ovpnlane
