/-
  Cursors — what was taken between two of them, and blanks.

  A scanner turns a cursor into a later one.  `Took` names the bytes in between, and the bytes taken
  by two scanners in a row are those of the first followed by those of the second.
-/
import FluentBuilders.Proofs.Json.Source

namespace FluentBuilders.Json

/-- The cursor behind the bytes `w`. -/
def Cursor.Took (c : Cursor) (w : List UInt8) (d : Cursor) : Prop :=
  c.rest = w ++ d.rest ∧ d.offset = c.offset + w.length

namespace Cursor.Took

variable {c d e : Cursor} {v w : List UInt8}

theorem refl (c : Cursor) : c.Took [] c := ⟨rfl, rfl⟩

theorem trans (h : c.Took v d) (h' : d.Took w e) : c.Took (v ++ w) e := by
  constructor
  · rw [h.1, h'.1, List.append_assoc]
  · rw [h'.2, h.2, List.length_append, Nat.add_assoc]

theorem of_cons {k : Nat} {b : UInt8} {r : List UInt8} (h : Cursor.Took ⟨k + 1, r⟩ w d) :
    Cursor.Took ⟨k, b :: r⟩ (b :: w) d := by
  obtain ⟨hr, ho⟩ := h
  refine ⟨?_, ?_⟩
  · show b :: r = _
    rw [show r = w ++ d.rest from hr]
    rfl
  · rw [ho, List.length_cons]
    show k + 1 + w.length = k + (w.length + 1)
    omega

end Cursor.Took

/-! ## Blanks -/

/-- Blanks in front are skipped, and then what follows them. -/
theorem Cursor.skipBlanks_append {a : List UInt8} (ha : Blanks a) (k : Nat) (r : List UInt8) :
    Cursor.skipBlanks ⟨k, a ++ r⟩ = Cursor.skipBlanks ⟨k + a.length, r⟩ := by
  induction a generalizing k with
  | nil => rfl
  | cons b a ih =>
    have hb : Cursor.isJsonBlank b = true := ha b List.mem_cons_self
    have h : Cursor.skipBlanks ⟨k, b :: (a ++ r)⟩ = Cursor.skipBlanks ⟨k + 1, a ++ r⟩ := by
      simp only [Cursor.skipBlanks, Cursor.pastBlanks, hb, if_true]
    rw [List.cons_append, h, ih fun c hc => ha c (List.mem_cons_of_mem _ hc), List.length_cons,
      show k + (a.length + 1) = k + 1 + a.length by omega]

theorem Cursor.skipBlanks_cons {b : UInt8} (hb : Cursor.isJsonBlank b = false) (k : Nat)
    (r : List UInt8) : Cursor.skipBlanks ⟨k, b :: r⟩ = ⟨k, b :: r⟩ := by
  simp only [Cursor.skipBlanks, Cursor.pastBlanks, hb, Bool.false_eq_true, if_false]

theorem Cursor.skipBlanks_append_cons {a : List UInt8} (ha : Blanks a) {b : UInt8}
    (hb : Cursor.isJsonBlank b = false) (k : Nat) (r : List UInt8) :
    Cursor.skipBlanks ⟨k, a ++ b :: r⟩ = ⟨k + a.length, b :: r⟩ := by
  rw [Cursor.skipBlanks_append ha, Cursor.skipBlanks_cons hb]

/-- What is skipped are blanks. -/
theorem Cursor.took_skipBlanks (c : Cursor) : ∃ a, Blanks a ∧ c.Took a c.skipBlanks := by
  obtain ⟨k, l⟩ := c
  induction l generalizing k with
  | nil => exact ⟨[], fun _ h => absurd h List.not_mem_nil, .refl _⟩
  | cons b r ih =>
    cases hb : Cursor.isJsonBlank b with
    | true =>
      obtain ⟨a, ha, ht⟩ := ih (k + 1)
      have hs : Cursor.skipBlanks ⟨k, b :: r⟩ = Cursor.skipBlanks ⟨k + 1, r⟩ := by
        simp only [Cursor.skipBlanks, Cursor.pastBlanks, hb, if_true]
      rw [hs]
      refine ⟨b :: a, ?_, ht.of_cons⟩
      intro c hc
      rcases List.mem_cons.mp hc with rfl | hc
      · exact hb
      · exact ha c hc
    | false =>
      rw [Cursor.skipBlanks_cons hb]
      exact ⟨[], fun _ h => absurd h List.not_mem_nil, .refl _⟩

theorem Cursor.skipBlanks_skipBlanks (c : Cursor) : c.skipBlanks.skipBlanks = c.skipBlanks := by
  obtain ⟨a, ha, hr, ho⟩ := c.took_skipBlanks
  have h := Cursor.skipBlanks_append ha c.offset c.skipBlanks.rest
  rw [← hr, ← ho] at h
  exact h.symm

end FluentBuilders.Json
