/-
  UTF-8 — what is written is read back.

  The reader tries the lengths of a character one after the other, so for each length it has to be
  shown that the shorter ones fail on what the writer makes: they do, because the leading byte is
  too large for them.

  Everything beyond ASCII is written with bytes that are not in ASCII.  A scanner that looks for
  ASCII marks may therefore pass over the other bytes one by one.
-/
import FluentBuilders.Text.Utf8

namespace FluentBuilders.Text.Utf8

/-! ## Single bytes -/

theorem toNat_ofNat_of_lt {n : Nat} (h : n < 0x100) : (UInt8.ofNat n).toNat = n := by
  rw [UInt8.toNat_ofNat']
  omega

theorem tail_ofNat {n : Nat} (h : n < 0x40) : tail? (UInt8.ofNat (0x80 + n)) = some n := by
  rw [tail?, toNat_ofNat_of_lt (by omega), if_pos (by simp; omega), Nat.add_sub_cancel_left]

/-! ## Characters of each length -/

variable {n : Nat}

/-- A lead and one further byte, put together. -/
theorem char2_of_lead (h : n < 0x20) {m : Nat} (hm : m < 0x40) (h2 : 2 ≤ n) :
    char2? (UInt8.ofNat (0xC0 + n)) (UInt8.ofNat (0x80 + m))
      = some (Char.ofNat (n * 0x40 + m)) := by
  rw [char2?, tail_ofNat hm, toNat_ofNat_of_lt (by omega)]
  show (if _ then _ else _) = _
  rw [if_pos (by simp; omega), show 0xC0 + n - 0xC0 = n by omega]

theorem char2_eq_none {a b : UInt8} (h : 0xE0 ≤ a.toNat) : char2? a b = none := by
  unfold char2?
  cases tail? b with
  | none => rfl
  | some y =>
    show (if _ then _ else _) = _
    rw [if_neg (by simp; omega)]

/-- A lead and two further bytes, put together, but for surrogates. -/
theorem char3_of_lead (h : n < 0x10) {y z : Nat} (hy : y < 0x40) (hz : z < 0x40)
    (hc : 0x800 ≤ n * 0x1000 + y * 0x40 + z)
    (hs : n * 0x1000 + y * 0x40 + z < 0xD800 ∨ 0xE000 ≤ n * 0x1000 + y * 0x40 + z) :
    char3? (UInt8.ofNat (0xE0 + n)) (UInt8.ofNat (0x80 + y)) (UInt8.ofNat (0x80 + z))
      = some (Char.ofNat (n * 0x1000 + y * 0x40 + z)) := by
  rw [char3?, tail_ofNat hy, tail_ofNat hz, toNat_ofNat_of_lt (by omega)]
  show (if _ then _ else _) = _
  rw [show 0xE0 + n - 0xE0 = n by omega, if_pos (by simp; omega)]

theorem char3_eq_none {a b c : UInt8} (h : 0xF0 ≤ a.toNat) : char3? a b c = none := by
  unfold char3?
  cases tail? b with
  | none => rfl
  | some y =>
    cases tail? c with
    | none => rfl
    | some z =>
      show (if _ then _ else _) = _
      rw [if_neg (by simp; omega)]

theorem char4_of_lead (h : n < 5) {x y z : Nat} (hx : x < 0x40) (hy : y < 0x40) (hz : z < 0x40)
    (hc : 0x10000 ≤ n * 0x40000 + x * 0x1000 + y * 0x40 + z)
    (hs : n * 0x40000 + x * 0x1000 + y * 0x40 + z < 0x110000) :
    char4? (UInt8.ofNat (0xF0 + n)) (UInt8.ofNat (0x80 + x)) (UInt8.ofNat (0x80 + y))
      (UInt8.ofNat (0x80 + z)) = some (Char.ofNat (n * 0x40000 + x * 0x1000 + y * 0x40 + z)) := by
  rw [char4?, tail_ofNat hx, tail_ofNat hy, tail_ofNat hz, toNat_ofNat_of_lt (by omega)]
  show (if _ then _ else _) = _
  rw [show 0xF0 + n - 0xF0 = n by omega, if_pos (by simp; omega)]

/-! ## Reading back -/

/-- A character that is written in front of other bytes is read first. -/
theorem decodeFrom_encodeChar (i : Nat) (c : Char) (r : List UInt8) :
    ∃ j, decodeFrom i (encodeChar c ++ r) = (c :: ·) <$> decodeFrom j r := by
  have hv : c.toNat < 0xD800 ∨ (0xDFFF < c.toNat ∧ c.toNat < 0x110000) := c.valid
  -- one case for each length; the digits to the base 64 make up the code point again
  rw [encodeChar]
  split
  · rename_i h
    refine ⟨i + 1, ?_⟩
    show decodeFrom i (_ :: r) = _
    rw [decodeFrom.eq_def]
    simp only [toNat_ofNat_of_lt (show c.toNat < 0x100 by omega), if_pos h, Char.ofNat_toNat]
  · split
    · rename_i h1 h2
      refine ⟨i + 2, ?_⟩
      have hc := char2_of_lead (n := c.toNat / 0x40) (m := c.toNat % 0x40) (by omega) (by omega)
        (by omega)
      rw [show c.toNat / 0x40 * 0x40 + c.toNat % 0x40 = c.toNat by omega, Char.ofNat_toNat] at hc
      show decodeFrom i (_ :: _ :: r) = _
      rw [decodeFrom.eq_def]
      simp only [hc, toNat_ofNat_of_lt (show 0xC0 + c.toNat / 0x40 < 0x100 by omega)]
      rw [if_neg (by omega)]
    · split
      · rename_i h1 h2 h3
        refine ⟨i + 3, ?_⟩
        have hc := char3_of_lead (n := c.toNat / 0x1000) (y := c.toNat / 0x40 % 0x40)
          (z := c.toNat % 0x40) (by omega) (by omega) (by omega) (by omega) (by omega)
        rw [show c.toNat / 0x1000 * 0x1000 + c.toNat / 0x40 % 0x40 * 0x40 + c.toNat % 0x40
          = c.toNat by omega, Char.ofNat_toNat] at hc
        have hl := toNat_ofNat_of_lt (show 0xE0 + c.toNat / 0x1000 < 0x100 by omega)
        show decodeFrom i (_ :: _ :: _ :: r) = _
        rw [decodeFrom.eq_def]
        simp only [hc, char2_eq_none (hl ▸ Nat.le_add_right _ _), hl]
        rw [if_neg (by omega)]
      · rename_i h1 h2 h3
        refine ⟨i + 4, ?_⟩
        have hc := char4_of_lead (n := c.toNat / 0x40000) (x := c.toNat / 0x1000 % 0x40)
          (y := c.toNat / 0x40 % 0x40) (z := c.toNat % 0x40) (by omega) (by omega) (by omega)
          (by omega) (by omega) (by omega)
        rw [show c.toNat / 0x40000 * 0x40000 + c.toNat / 0x1000 % 0x40 * 0x1000
          + c.toNat / 0x40 % 0x40 * 0x40 + c.toNat % 0x40 = c.toNat by omega,
          Char.ofNat_toNat] at hc
        have hl := toNat_ofNat_of_lt (show 0xF0 + c.toNat / 0x40000 < 0x100 by omega)
        show decodeFrom i (_ :: _ :: _ :: _ :: r) = _
        rw [decodeFrom.eq_def]
        simp only [hc, char2_eq_none (show 0xE0 ≤ _ by rw [hl]; omega),
          char3_eq_none (show 0xF0 ≤ _ by rw [hl]; omega), hl]
        rw [if_neg (by omega)]

theorem decodeFrom_encode : ∀ (i : Nat) (cs : List Char), decodeFrom i (encode cs) = .ok cs
  | _, [] => rfl
  | i, c :: cs => by
    obtain ⟨j, hj⟩ := decodeFrom_encodeChar i c (encode cs)
    show decodeFrom i (encodeChar c ++ encode cs) = _
    rw [hj, decodeFrom_encode j cs]
    rfl

/-- **Every text is read back.** -/
theorem decode_encode (cs : List Char) : decode (encode cs) = .ok cs := decodeFrom_encode 0 cs

/-! ## ASCII -/

theorem encodeChar_of_lt {c : Char} (h : c.toNat < 0x80) :
    encodeChar c = [UInt8.ofNat c.toNat] := by
  rw [encodeChar, if_pos h]

/-- The bytes of a character beyond ASCII are all beyond ASCII. -/
theorem le_of_mem_encodeChar {c : Char} (h : ¬ c.toNat < 0x80) {b : UInt8}
    (hb : b ∈ encodeChar c) : 0x80 ≤ b.toNat := by
  have hv : c.toNat < 0xD800 ∨ (0xDFFF < c.toNat ∧ c.toNat < 0x110000) := c.valid
  have hle : ∀ n, 0x80 ≤ n → n < 0x100 → 0x80 ≤ (UInt8.ofNat n).toNat := by
    intro n h1 h2
    rw [toNat_ofNat_of_lt h2]
    exact h1
  rw [encodeChar, if_neg h] at hb
  split at hb
  · simp only [List.mem_cons, List.not_mem_nil, or_false] at hb
    rcases hb with rfl | rfl <;> exact hle _ (by omega) (by omega)
  · split at hb
    · simp only [List.mem_cons, List.not_mem_nil, or_false] at hb
      rcases hb with rfl | rfl | rfl <;> exact hle _ (by omega) (by omega)
    · simp only [List.mem_cons, List.not_mem_nil, or_false] at hb
      rcases hb with rfl | rfl | rfl | rfl <;> exact hle _ (by omega) (by omega)

theorem encode_append (cs ds : List Char) : encode (cs ++ ds) = encode cs ++ encode ds :=
  List.flatMap_append

end FluentBuilders.Text.Utf8
