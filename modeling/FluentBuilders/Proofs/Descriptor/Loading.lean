/-
  Loading — from the bytes of a file to a descriptor, and back.

  A descriptor that is written is loaded again, and so is what was loaded from any file.

  A file that is loaded begins with a value that follows the grammar to its end: all readers are
  strict, so nothing inside that value is skipped unseen.  What follows the value is not looked at,
  and a file is a whole document exactly when that is blank.
-/
import FluentBuilders.Proofs.Descriptor.Forms
import FluentBuilders.Proofs.Json.Printing

namespace FluentBuilders.Descriptor

open FluentBuilders.Json

/-- What is written for a value is read as that value, whatever stops it. -/
theorem ofBytes_of_source {w : List UInt8} {t : Tree} (h : Tree.Source 0 w t) {rest : List UInt8}
    (hr : t.Stops rest) : Tree.ofBytes (w ++ rest) = t :=
  congrArg Prod.fst (valueAt_of_source h rest hr)

/-- A file is loaded if it can be read and has the version that is known. -/
theorem load_eq_ok {bytes : List UInt8} {d : Descriptor} :
    load bytes = .ok d ↔ read bytes = .ok d ∧ d.version = currentVersion := by
  unfold load
  cases read bytes with
  | error f => exact ⟨nofun, nofun⟩
  | ok e =>
    by_cases hv : e.version = currentVersion
    · simp only [if_pos hv]
      constructor
      · intro h
        cases h
        exact ⟨rfl, hv⟩
      · intro h
        cases h.1
        rfl
    · simp only [if_neg hv]
      constructor
      · intro h
        cases h
      · rintro ⟨h, hv'⟩
        cases h
        exact absurd hv' hv

theorem exists_of_isSome {bytes : List UInt8} (h : (load bytes).toOption.isSome = true) :
    ∃ d, load bytes = .ok d := by
  cases hl : load bytes with
  | error e =>
    rw [hl] at h
    cases h
  | ok d => exact ⟨d, rfl⟩

/-! ## Loading what was written -/

/-- **A descriptor that is written is loaded again**, if it is not too deep. -/
theorem loadText_text {d : Descriptor} (hv : d.version = currentVersion)
    (hd : d.json.depth ≤ maxDepth) : loadText d.text = .ok d := by
  have hle : d.version ≤ 0xFFFFFFFF := by
    rw [hv]
    decide
  obtain ⟨t, hs, ht⟩ := source_print d.json 0 (integral_descriptor (Nat.le_trans hle (by decide)))
  have hstops : t.Stops [] := fun _ _ _ _ _ h => nomatch h
  have htree : Tree.ofBytes (Text.Utf8.encode d.json.print) = t := by
    rw [← List.append_nil (Text.Utf8.encode d.json.print)]
    exact ofBytes_of_source hs hstops
  refine load_eq_ok.mpr ⟨?_, hv⟩
  rw [text, compact, String.toList_ofList, read, htree]
  exact reads_descriptor d hle maxDepth t ht hd

/-- A loaded descriptor is not too deep to be written. -/
theorem depth_of_load {bytes : List UInt8} {d : Descriptor} (h : load bytes = .ok d) :
    d.json.depth ≤ maxDepth :=
  bounded_descriptor maxDepth (Tree.ofBytes bytes) d (load_eq_ok.mp h).1

/-- **Descriptors survive being written and read again.**  That holds of every descriptor of the
    current version whose text is not nested too deep, and of every descriptor that was loaded from
    any file, whatever that file left out and however it was laid out. -/
theorem load_of_written :
    (∀ d : Descriptor, d.version = currentVersion → d.json.depth ≤ maxDepth →
      loadText d.text = .ok d) ∧
    (∀ (bytes : List UInt8) (d : Descriptor), load bytes = .ok d → loadText d.text = .ok d) :=
  ⟨fun _ hv hd => loadText_text hv hd,
   fun _ _ h => loadText_text (load_eq_ok.mp h).2 (depth_of_load h)⟩

/-- Marks that need an escape, letters beyond ASCII, nested arguments, and optional values of which
    some are there and some are not. -/
def thorny : Descriptor where
  version := 1
  root := some "out \"here\"\\\n"
  classes := [
    { name := "Größe", package := "m", generate := some { name := "\x01\t𝄞" },
      constructors := [{
        parameters := [{
          name := "xs",
          type := { name := "Vec"
                    arguments := [{ name := "Box", arguments := [{ name := "u8" }] }] },
          override := some { inline := true } }] }],
      metadata := some {
        kind := .plain, visibility := .pub, modality := .final,
        constructors := [{ visibility := .internal, parameters := [{ name := "xs" }] }] } },
    { name := "B", package := "" }]
  types := [{ name := "T", path := some "a::T" }]

/-- A file that leaves out all it can, with blanks and an unknown member. -/
def sparseFile : List UInt8 :=
  Text.Utf8.encode "\x7b \"extra\" : [ 1.5 ], \"format_version\" : 1 \x7d ".toList

theorem load_of_written_thorny :
    loadText thorny.text = .ok thorny ∧ ∃ d, load sparseFile = .ok d ∧ loadText d.text = .ok d := by
  refine ⟨load_of_written.1 thorny rfl (by decide +kernel), ?_⟩
  obtain ⟨d, hd⟩ := exists_of_isSome (show (load sparseFile).toOption.isSome = true by
    decide +kernel)
  exact ⟨d, hd, load_of_written.2 sparseFile d hd⟩

/-! ## Whole documents -/

/-- One value of JSON with nothing but blanks around it. -/
def IsDocument (bytes : List UInt8) : Prop :=
  ∃ front w back t, bytes = front ++ (w ++ back) ∧ Blanks front ∧ Tree.Source front.length w t ∧
    Blanks back

/-- The value behind some blanks is read to its end and no further. -/
theorem valueAt_of_front {front w rest : List UInt8} {t : Tree} (hf : Blanks front)
    (hs : Tree.Source front.length w t) (hr : t.Stops rest) :
    valueAt ⟨0, front ++ (w ++ rest)⟩ = (t, ⟨front.length + w.length, rest⟩) := by
  have hskip := Cursor.skipBlanks_append hf 0 (w ++ rest)
  rw [valueAt_congr hskip, Nat.zero_add]
  exact valueAt_of_source hs rest hr

/-- What the scanner leaves of a document is blank. -/
theorem blanks_of_isDocument {bytes : List UInt8} (h : IsDocument bytes) :
    Blanks (valueAt ⟨0, bytes⟩).2.rest := by
  obtain ⟨front, w, back, t, rfl, hf, hs, hb⟩ := h
  rw [valueAt_of_front hf hs fun _ _ _ => ends_of_blanks hb]
  exact hb

/-- A descriptor ends by itself, whatever follows. -/
theorem stops_of_read {t : Tree} {room : Nat} {d : Descriptor} (h : form.read room t = .ok d)
    (rest : List UInt8) : t.Stops rest := by
  rintro k l rfl
  unfold Form.read at h
  split at h
  · contradiction
  · contradiction
  · contradiction
  · contradiction
  · exact (mismatch_ne_ok h).elim

/-- **Loading takes one value and looks at nothing behind it.**  The value follows the grammar to
    its end, with blanks in front of it.  Whatever stands behind it, the same descriptor is loaded,
    so a file that is loaded is a whole document exactly when what is left of it is blank. -/
theorem load_takes_one_value {bytes : List UInt8} {d : Descriptor} (h : load bytes = .ok d) :
    ∃ front w rest, bytes = front ++ (w ++ rest) ∧ Blanks front ∧
      (∃ t, Tree.Source front.length w t) ∧ (IsDocument bytes ↔ Blanks rest) ∧
      ∀ other, load (front ++ (w ++ other)) = .ok d := by
  obtain ⟨hread, hv⟩ := load_eq_ok.mp h
  have hread : form.read maxDepth (valueAt ⟨0, bytes⟩).1 = .ok d := hread
  have hnone := strict_descriptor maxDepth _ d (consistent_valueAt ⟨0, bytes⟩) hread
  obtain ⟨front, w, hf, ht, hs⟩ := source_of_valueAt ⟨0, bytes⟩ hnone
  rw [Nat.zero_add] at hs
  have hbytes : bytes = front ++ (w ++ (valueAt ⟨0, bytes⟩).2.rest) := by
    rw [← List.append_assoc]
    exact ht.1
  refine ⟨front, w, _, hbytes, hf, ⟨_, hs⟩, ⟨blanks_of_isDocument, ?_⟩, ?_⟩
  · intro hb
    exact ⟨front, w, _, _, hbytes, hf, hs, hb⟩
  · intro other
    refine load_eq_ok.mpr ⟨?_, hv⟩
    show form.read maxDepth (valueAt ⟨0, front ++ (w ++ other)⟩).1 = .ok d
    rw [valueAt_of_front hf hs (stops_of_read hread other)]
    exact hread

/-- A descriptor and a brace too many. -/
def surplusBrace : List UInt8 := Text.Utf8.encode "\x7b\"format_version\":1\x7d\x7d".toList

theorem load_takes_one_value_surplus :
    ∃ d, load surplusBrace = .ok d ∧ ∃ front w rest, surplusBrace = front ++ (w ++ rest) ∧
      Blanks front ∧ ∀ other, load (front ++ (w ++ other)) = .ok d := by
  obtain ⟨d, hd⟩ := exists_of_isSome (show (load surplusBrace).toOption.isSome = true by
    decide +kernel)
  obtain ⟨front, w, rest, hb, hf, -, -, ho⟩ := load_takes_one_value hd
  exact ⟨d, hd, front, w, rest, hb, hf, ho⟩

/-- **A file that is loaded and is no document.** -/
theorem load_surplus_brace : ∃ d, load surplusBrace = .ok d ∧ ¬ IsDocument surplusBrace := by
  obtain ⟨d, hd⟩ := exists_of_isSome (show (load surplusBrace).toOption.isSome = true by
    decide +kernel)
  refine ⟨d, hd, fun h => ?_⟩
  have hb := blanks_of_isDocument h
  rw [show (valueAt ⟨0, surplusBrace⟩).2.rest = [0x7D] by decide +kernel] at hb
  exact absurd (hb 0x7D List.mem_cons_self) (by decide)

end FluentBuilders.Descriptor
