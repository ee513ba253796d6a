/-
  Strings — what the scanner takes for one is what the grammar says.

  A string is looked at twice, by a reader that wants the value and by one that passes over it.  The
  first is never content with less than the second, so a string that is read at all is well formed,
  and what is read depends on nothing behind the closing quote.
-/
import FluentBuilders.Proofs.Json.Cursor
import FluentBuilders.Proofs.Outcome

namespace FluentBuilders.Json

/-! ## Passing over a string -/

theorem passText_close (k : Nat) (r : List UInt8) : passText k (0x22 :: r) = .ok ⟨k + 1, r⟩ := by
  rw [passText.eq_def]
  rfl

theorem passText_plain {b : UInt8} (hc : 0x20 ≤ b.toNat) (hq : b ≠ 0x22) (he : b ≠ 0x5C) (k : Nat)
    (r : List UInt8) : passText k (b :: r) = passText (k + 1) r := by
  rw [passText.eq_def]
  simp [hq, he, Nat.not_lt.mpr hc]

theorem ne_of_shortEscape {e : UInt8} (h : (shortEscape? e).isSome = true) : e ≠ 0x75 := by
  rintro rfl
  exact absurd h (by decide)

theorem passText_short {e : UInt8} (h : (shortEscape? e).isSome = true) (k : Nat)
    (r : List UInt8) : passText k (0x5C :: e :: r) = passText (k + 2) r := by
  rw [passText.eq_def]
  simp [ne_of_shortEscape h, h]

theorem passText_code {w x y z : UInt8} (h : (hexFour? w x y z).isSome = true) (k : Nat)
    (r : List UInt8) :
    passText k (0x5C :: 0x75 :: w :: x :: y :: z :: r) = passText (k + 6) r := by
  rw [passText.eq_def]
  simp [h]

/-- **The content of a text** is passed up to its quote. -/
theorem passText_content {w : List UInt8} (h : Content w) : ∀ (k : Nat) (rest : List UInt8),
    passText k (w ++ 0x22 :: rest) = .ok ⟨k + w.length + 1, rest⟩ := by
  induction h with
  | nil =>
    intro k rest
    exact passText_close k rest
  | plain hc hq he h ih =>
    intro k rest
    rw [List.cons_append, passText_plain hc hq he, ih, List.length_cons]
    congr 2
    omega
  | short he h ih =>
    intro k rest
    rw [List.cons_append, List.cons_append, passText_short he, ih, List.length_cons,
      List.length_cons]
    congr 2
    omega
  | code hx h ih =>
    intro k rest
    simp only [List.cons_append]
    rw [passText_code hx, ih]
    simp only [List.length_cons]
    congr 2
    omega

/-- What is passed is content and a quote. -/
theorem passText_sound {k : Nat} {l : List UInt8} {d : Cursor} (h : passText k l = .ok d) :
    ∃ w, Content w ∧ Cursor.Took ⟨k, l⟩ (w ++ [0x22]) d := by
  fun_induction passText k l with
  | case2 k b r hb =>
    cases h
    exact ⟨[], .nil, by rw [eq_of_beq hb]; exact ⟨rfl, rfl⟩⟩
  | case4 k b hq he u hu w x y z r hx ih =>
    obtain ⟨v, hv, ht⟩ := ih h
    rw [eq_of_beq he, eq_of_beq hu]
    exact ⟨_, .code hx hv, ht.of_cons.of_cons.of_cons.of_cons.of_cons.of_cons⟩
  | case7 k b hq hb e r hu he ih =>
    obtain ⟨v, hv, ht⟩ := ih h
    rw [eq_of_beq hb]
    exact ⟨_, .short he hv, ht.of_cons.of_cons⟩
  | case10 k b r hq he hc ih =>
    obtain ⟨v, hv, ht⟩ := ih h
    refine ⟨_, .plain (b := b) (Nat.not_lt.mp hc) ?_ ?_ hv, ht.of_cons⟩
    · rintro rfl
      exact hq rfl
    · rintro rfl
      exact he rfl
  | _ => cases h

/-! ## Reading a string -/

theorem textBytes_close (k : Nat) (r : List UInt8) :
    textBytes k (0x22 :: r) = .ok ⟨[], k + 1⟩ := by
  rw [textBytes.eq_def]
  rfl

theorem textBytes_plain {b : UInt8} (hc : 0x20 ≤ b.toNat) (hq : b ≠ 0x22) (he : b ≠ 0x5C)
    (k : Nat) (r : List UInt8) :
    textBytes k (b :: r) = .after [b] <$> textBytes (k + 1) r := by
  rw [textBytes.eq_def]
  simp [hq, he, Nat.not_lt.mpr hc]

theorem textBytes_short {e c : UInt8} (h : shortEscape? e = some c) (k : Nat) (r : List UInt8) :
    textBytes k (0x5C :: e :: r) = .after [c] <$> textBytes (k + 2) r := by
  rw [textBytes.eq_def]
  have hu : e ≠ 0x75 := ne_of_shortEscape (h ▸ rfl)
  simp [hu, h]

variable {w x y z : UInt8} {n : Nat}

theorem textBytes_code (h : hexFour? w x y z = some n) (hn : n < 0xD800 ∨ 0xE000 ≤ n) (k : Nat)
    (r : List UInt8) :
    textBytes k (0x5C :: 0x75 :: w :: x :: y :: z :: r)
      = .after (charBytes n) <$> textBytes (k + 6) r := by
  rw [textBytes.eq_def]
  have h1 : ¬ (0xDC00 ≤ n ∧ n < 0xE000) := by omega
  have h2 : ¬ (0xD800 ≤ n ∧ n < 0xDC00) := by omega
  simp [h, h1, h2]

/-- A low surrogate by itself is refused. -/
theorem textBytes_low (h : hexFour? w x y z = some n) (hn : 0xDC00 ≤ n ∧ n < 0xE000) (k : Nat)
    (r : List UInt8) :
    textBytes k (0x5C :: 0x75 :: w :: x :: y :: z :: r) = .error ⟨k + 6, .loneSurrogate⟩ := by
  rw [textBytes.eq_def]
  simp [h, hn]

/-- A high surrogate has to be followed by an escape. -/
theorem textBytes_high_other (h : hexFour? w x y z = some n) (hn : 0xD800 ≤ n ∧ n < 0xDC00)
    {b : UInt8} (hb : b ≠ 0x5C) (k : Nat) (r : List UInt8) :
    textBytes k (0x5C :: 0x75 :: w :: x :: y :: z :: b :: r) = .error ⟨k + 7, .escapeCut⟩ := by
  rw [textBytes.eq_def]
  have h1 : ¬ (0xDC00 ≤ n ∧ n < 0xE000) := by omega
  simp [h, h1, hn, hb]

/-- And this escape has to be a code. -/
theorem textBytes_high_short (h : hexFour? w x y z = some n) (hn : 0xD800 ≤ n ∧ n < 0xDC00)
    {e : UInt8} (he : e ≠ 0x75) (k : Nat) (r : List UInt8) :
    textBytes k (0x5C :: 0x75 :: w :: x :: y :: z :: 0x5C :: e :: r)
      = .error ⟨k + 8, .escapeCut⟩ := by
  rw [textBytes.eq_def]
  have h1 : ¬ (0xDC00 ≤ n ∧ n < 0xE000) := by omega
  simp [h, h1, hn, he]

/-- And this code has to be a low surrogate, with which it makes a character. -/
theorem textBytes_high_code (h : hexFour? w x y z = some n) (hn : 0xD800 ≤ n ∧ n < 0xDC00)
    {w' x' y' z' : UInt8} {m : Nat} (h' : hexFour? w' x' y' z' = some m) (k : Nat)
    (r : List UInt8) :
    textBytes k (0x5C :: 0x75 :: w :: x :: y :: z :: 0x5C :: 0x75 :: w' :: x' :: y' :: z' :: r)
      = if 0xDC00 ≤ m ∧ m < 0xE000 then
          .after (charBytes (0x10000 + (n - 0xD800) * 0x400 + (m - 0xDC00)))
            <$> textBytes (k + 12) r
        else .error ⟨k + 12, .loneSurrogate⟩ := by
  rw [textBytes.eq_def]
  have h1 : ¬ (0xDC00 ≤ n ∧ n < 0xE000) := by omega
  simp [h, h1, hn, h']

/-- The bytes of a text do not depend on what follows its quote. -/
theorem textBytes_content {w : List UInt8} (h : Content w) (k : Nat) (rest : List UInt8) :
    textBytes k (w ++ 0x22 :: rest) = textBytes k (w ++ [0x22]) := by
  cases h with
  | nil => simp only [List.nil_append, textBytes_close]
  | plain hc hq he h =>
    simp only [List.cons_append]
    rw [textBytes_plain hc hq he, textBytes_plain hc hq he, textBytes_content h]
  | short he h =>
    obtain ⟨c, hc⟩ := Option.isSome_iff_exists.mp he
    simp only [List.cons_append]
    rw [textBytes_short hc, textBytes_short hc, textBytes_content h]
  | code hx h =>
    obtain ⟨n, hn⟩ := Option.isSome_iff_exists.mp hx
    simp only [List.cons_append]
    rcases Nat.lt_or_ge n 0xD800 with h1 | h1
    · rw [textBytes_code hn (.inl h1), textBytes_code hn (.inl h1), textBytes_content h]
    · rcases Nat.lt_or_ge n 0xDC00 with h2 | h2
      · -- the first half of a pair: what follows it decides
        cases h with
        | nil =>
          simp only [List.nil_append]
          rw [textBytes_high_other hn ⟨h1, h2⟩ (by decide),
            textBytes_high_other hn ⟨h1, h2⟩ (by decide)]
        | plain _ _ he _ =>
          simp only [List.cons_append]
          rw [textBytes_high_other hn ⟨h1, h2⟩ he, textBytes_high_other hn ⟨h1, h2⟩ he]
        | short he _ =>
          simp only [List.cons_append]
          rw [textBytes_high_short hn ⟨h1, h2⟩ (ne_of_shortEscape he),
            textBytes_high_short hn ⟨h1, h2⟩ (ne_of_shortEscape he)]
        | code hx' h' =>
          obtain ⟨m, hm⟩ := Option.isSome_iff_exists.mp hx'
          simp only [List.cons_append]
          rw [textBytes_high_code hn ⟨h1, h2⟩ hm, textBytes_high_code hn ⟨h1, h2⟩ hm,
            textBytes_content h']
      · rcases Nat.lt_or_ge n 0xE000 with h3 | h3
        · rw [textBytes_low hn ⟨h2, h3⟩, textBytes_low hn ⟨h2, h3⟩]
        · rw [textBytes_code hn (.inr h3), textBytes_code hn (.inr h3), textBytes_content h]
termination_by w.length

/-- A reader that needs a string is never content with less than one that passes over it. -/
theorem passText_of_textBytes {k : Nat} {l : List UInt8} {t : TextBytes}
    (h : textBytes k l = .ok t) : ∃ d, passText k l = .ok d := by
  fun_induction textBytes k l generalizing t with
  | case2 k b r hb =>
    rw [eq_of_beq hb, passText_close]
    exact ⟨_, rfl⟩
  | case11 k b hq hb u hu w x y z n hx h1 h2 b' hb' u' hu' w' x' y' z' r m hx' hm ih =>
    obtain ⟨s, hs, -⟩ := map_eq_ok.mp h
    obtain ⟨d, hd⟩ := ih hs
    have hb1 : b' = 0x5C := by simpa using hb'
    have hu1 : u' = 0x75 := by simpa using hu'
    rw [eq_of_beq hb, eq_of_beq hu, hb1, hu1, passText_code (by rw [hx]; rfl),
      passText_code (by rw [hx']; rfl)]
    exact ⟨d, hd⟩
  | case14 k b hq hb u hu w x y z r n hx h1 h2 ih =>
    obtain ⟨s, hs, -⟩ := map_eq_ok.mp h
    obtain ⟨d, hd⟩ := ih hs
    rw [eq_of_beq hb, eq_of_beq hu, passText_code (by rw [hx]; rfl)]
    exact ⟨d, hd⟩
  | case16 k b hq hb e r hu c he ih =>
    obtain ⟨s, hs, -⟩ := map_eq_ok.mp h
    obtain ⟨d, hd⟩ := ih hs
    rw [eq_of_beq hb, passText_short (by rw [he]; rfl)]
    exact ⟨d, hd⟩
  | case19 k b r hq hb hc ih =>
    obtain ⟨s, hs, -⟩ := map_eq_ok.mp h
    obtain ⟨d, hd⟩ := ih hs
    have hq' : b ≠ 0x22 := by simpa using hq
    have hb' : b ≠ 0x5C := by simpa using hb
    rw [passText_plain (Nat.not_lt.mp hc) hq' hb']
    exact ⟨d, hd⟩
  | _ => cases h

/-! ## Scanning a string -/

/-- A written text is scanned to its quote, whatever follows. -/
theorem scanText_of_content {w : List UInt8} (h : Content w) (k : Nat) (rest : List UInt8) :
    scanText ⟨k, w ++ 0x22 :: rest⟩ = (textLexeme k w, ⟨k + w.length + 1, rest⟩) := by
  simp only [scanText, passText_content h, textBytes_content h k rest]
  rfl

/-- A scanned string is either well formed or read by no one. -/
theorem scanText_cases (c : Cursor) :
    (∃ f g, (scanText c).1.read = .error f ∧ (scanText c).1.skip = some g) ∨
      ∃ w, Content w ∧ c.Took (w ++ [0x22]) (scanText c).2 ∧
        (scanText c).1 = textLexeme c.offset w := by
  cases h : passText c.offset c.rest with
  | error f =>
    left
    have hs : scanText c
        = (⟨textBytes c.offset c.rest >>= TextBytes.spell, some f, f.offset⟩, ⟨f.offset, []⟩) := by
      simp only [scanText, h]
    rw [hs]
    cases hr : textBytes c.offset c.rest with
    | error g => exact ⟨g, f, rfl, rfl⟩
    | ok t =>
      obtain ⟨d, hd⟩ := passText_of_textBytes hr
      cases hd.symm.trans h
  | ok d =>
    right
    obtain ⟨w, hw, ht⟩ := passText_sound h
    have hc : c = ⟨c.offset, w ++ 0x22 :: d.rest⟩ := by
      have := ht.1
      rw [List.append_assoc] at this
      rw [← show c.rest = w ++ 0x22 :: d.rest from this]
    have hs := scanText_of_content hw c.offset d.rest
    rw [← hc] at hs
    have hd : d = ⟨c.offset + w.length + 1, d.rest⟩ := by
      have := ht.2
      rw [List.length_append] at this
      rw [← show d.offset = c.offset + w.length + 1 from this]
    rw [hs, ← hd]
    exact ⟨w, hw, ht, rfl⟩

end FluentBuilders.Json
