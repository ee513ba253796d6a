/-
  Numbers — what the scanner takes for one is what the grammar says.

  The scanner goes from the sign to the digits, the point and the exponent and never back, so there
  is one lemma in each direction for each of these.  A number has no mark at its end: it ends where
  no byte follows that could go on with it.
-/
import FluentBuilders.Proofs.Json.Cursor

namespace FluentBuilders.Json

/-- No byte that could go on with a number comes first. -/
def Ends (rest : List UInt8) : Prop :=
  ∀ b r, rest = b :: r → isDigit b = false ∧ b ≠ 0x2E ∧ ¬ IsExponentMark b

/-! ## Digits -/

theorem takeDigits_append {ds rest : List UInt8} (hd : ∀ d ∈ ds, isDigit d = true)
    (hr : ∀ b r, rest = b :: r → isDigit b = false) (k : Nat) :
    takeDigits ⟨k, ds ++ rest⟩ = (ds, ⟨k + ds.length, rest⟩) := by
  have ht : rest.takeWhile isDigit = [] ∧ rest.dropWhile isDigit = rest := by
    cases rest with
    | nil => exact ⟨rfl, rfl⟩
    | cons b r =>
      have hb : ¬ isDigit b = true := by
        rw [hr b r rfl]
        exact Bool.false_ne_true
      exact ⟨List.takeWhile_cons_of_neg hb, List.dropWhile_cons_of_neg hb⟩
  rw [takeDigits]
  simp only [List.takeWhile_append_of_pos hd, List.dropWhile_append_of_pos hd, ht, List.append_nil]

theorem took_takeDigits (c : Cursor) : c.Took (takeDigits c).1 (takeDigits c).2 :=
  ⟨List.takeWhile_append_dropWhile.symm, rfl⟩

theorem digits_takeDigits {c : Cursor} (h : (takeDigits c).1 ≠ []) : Digits (takeDigits c).1 :=
  ⟨h, List.all_eq_true.mp List.all_takeWhile⟩

theorem isEmpty_of_digits {ds : List UInt8} (h : Digits ds) : ds.isEmpty = false := by
  cases ds with
  | nil => exact absurd rfl h.1
  | cons => rfl

/-! ## Exponents -/

/-- The digits of an exponent, whose mark and sign are passed. -/
def scanPower (t : NumberText) (negative : Bool) (c : Cursor) : Lexeme Number × Cursor :=
  if (takeDigits c).1.isEmpty then badNumber c
  else
    (numberLexeme { t with exponent := some (negative, (takeDigits c).1, c.offset) }
      (takeDigits c).2.offset, (takeDigits c).2)

theorem scanPower_of_digits {ds rest : List UInt8} (hd : Digits ds) (hr : Ends rest)
    (t : NumberText) (negative : Bool) (k : Nat) :
    scanPower t negative ⟨k, ds ++ rest⟩
      = (numberLexeme { t with exponent := some (negative, ds, k) } (k + ds.length),
          ⟨k + ds.length, rest⟩) := by
  rw [scanPower, takeDigits_append hd.2 (fun b r h => (hr b r h).1)]
  simp only [isEmpty_of_digits hd, Bool.false_eq_true, if_false]

/-- The digits of an exponent are there, or the number is bad. -/
theorem scanPower_cases (t : NumberText) (negative : Bool) (c : Cursor) :
    (∃ c', scanPower t negative c = badNumber c') ∨
      ∃ ds d, Digits ds ∧ c.Took ds d ∧
        scanPower t negative c
          = (numberLexeme { t with exponent := some (negative, ds, c.offset) } d.offset, d) := by
  rw [scanPower]
  split
  · exact .inl ⟨c, rfl⟩
  · rename_i h
    have hne : (takeDigits c).1 ≠ [] := by
      intro he
      rw [he] at h
      exact h rfl
    exact .inr ⟨_, _, digits_takeDigits hne, took_takeDigits c, rfl⟩

variable {t : NumberText} {b : UInt8}

theorem scanExponent_of_ne {c : Cursor} (h : ∀ b r, c.rest = b :: r → ¬ IsExponentMark b) :
    scanExponent t c = (numberLexeme t c.offset, c) := by
  unfold scanExponent
  split
  · rename_i b r hr
    have hb : ¬ (b == 0x65 || b == 0x45) = true := by
      simpa [IsExponentMark] using h b r hr
    rw [if_neg hb]
    rfl
  · rfl

theorem beq_of_mark (h : IsExponentMark b) : (b == 0x65 || b == 0x45) = true := by
  rcases h with rfl | rfl <;> rfl

theorem scanExponent_minus (h : IsExponentMark b) (k : Nat) (r : List UInt8) :
    scanExponent t ⟨k, b :: 0x2D :: r⟩ = scanPower t true ⟨k + 2, r⟩ := by
  simp only [scanExponent, beq_of_mark h, if_true]
  rfl

theorem scanExponent_plus (h : IsExponentMark b) (k : Nat) (r : List UInt8) :
    scanExponent t ⟨k, b :: 0x2B :: r⟩ = scanPower t false ⟨k + 2, r⟩ := by
  simp only [scanExponent, beq_of_mark h, if_true]
  rfl

theorem scanExponent_plain (h : IsExponentMark b) (k : Nat) {r : List UInt8}
    (hr : ∀ s r', r = s :: r' → s ≠ 0x2D ∧ s ≠ 0x2B) :
    scanExponent t ⟨k, b :: r⟩ = scanPower t false ⟨k + 1, r⟩ := by
  simp only [scanExponent, beq_of_mark h, if_true]
  cases r with
  | nil => rfl
  | cons s r' =>
    obtain ⟨h1, h2⟩ := hr s r' rfl
    simp only [beq_iff_eq, h1, h2, if_false]
    rfl

/-- An exponent is scanned to its end. -/
theorem scanExponent_of_source {k : Nat} {e rest : List UInt8}
    {exponent : Option (Bool × List UInt8 × Nat)} (he : ExponentSource k e exponent)
    (hr : Ends rest) (t : NumberText) (ht : t.exponent = none) :
    scanExponent t ⟨k, e ++ rest⟩
      = (numberLexeme { t with exponent := exponent } (k + e.length), ⟨k + e.length, rest⟩) := by
  cases he with
  | absent =>
    have htt : ({ t with exponent := none } : NumberText) = t := by rw [← ht]
    rw [htt]
    exact scanExponent_of_ne fun b r h => (hr b r h).2.2
  | plain hb h =>
    rename_i b ds
    have hs : ∀ s r', ds ++ rest = s :: r' → s ≠ 0x2D ∧ s ≠ 0x2B := by
      intro s r' hsr
      -- the first digit is no sign
      have hd : isDigit s = true := by
        cases ds with
        | nil => exact absurd rfl h.1
        | cons d ds =>
          cases hsr
          exact h.2 _ List.mem_cons_self
      constructor <;> rintro rfl <;> exact absurd hd (by decide)
    rw [List.cons_append, scanExponent_plain hb k hs, scanPower_of_digits h hr, List.length_cons,
      show k + (ds.length + 1) = k + 1 + ds.length by omega]
  | plus hb h =>
    rename_i b ds
    rw [List.cons_append, List.cons_append, scanExponent_plus hb k, scanPower_of_digits h hr,
      List.length_cons, List.length_cons,
      show k + (ds.length + 1 + 1) = k + 2 + ds.length by omega]
  | minus hb h =>
    rename_i b ds
    rw [List.cons_append, List.cons_append, scanExponent_minus hb k, scanPower_of_digits h hr,
      List.length_cons, List.length_cons,
      show k + (ds.length + 1 + 1) = k + 2 + ds.length by omega]

/-- An exponent is scanned, or is not there, or the number is bad. -/
theorem scanExponent_cases (t : NumberText) (ht : t.exponent = none) (c : Cursor) :
    (∃ c', scanExponent t c = badNumber c') ∨
      ∃ e exponent d, ExponentSource c.offset e exponent ∧ c.Took e d ∧
        scanExponent t c = (numberLexeme { t with exponent := exponent } d.offset, d) := by
  by_cases hc : ∃ b r, c.rest = b :: r ∧ IsExponentMark b
  · obtain ⟨b, r, hr, hb⟩ := hc
    obtain ⟨k, r'⟩ := c
    cases hr
    by_cases hm : ∃ r', r = 0x2D :: r'
    · obtain ⟨r', rfl⟩ := hm
      rw [scanExponent_minus hb]
      rcases scanPower_cases t true ⟨k + 2, r'⟩ with h | ⟨ds, d, hd, hw, h⟩
      · exact .inl h
      · exact .inr ⟨_, _, d, .minus hb hd, hw.of_cons.of_cons, h⟩
    · by_cases hp : ∃ r', r = 0x2B :: r'
      · obtain ⟨r', rfl⟩ := hp
        rw [scanExponent_plus hb]
        rcases scanPower_cases t false ⟨k + 2, r'⟩ with h | ⟨ds, d, hd, hw, h⟩
        · exact .inl h
        · exact .inr ⟨_, _, d, .plus hb hd, hw.of_cons.of_cons, h⟩
      · have hs : ∀ s r', r = s :: r' → s ≠ 0x2D ∧ s ≠ 0x2B := by
          rintro s r' rfl
          exact ⟨fun h => hm ⟨r', by rw [h]⟩, fun h => hp ⟨r', by rw [h]⟩⟩
        rw [scanExponent_plain hb k hs]
        rcases scanPower_cases t false ⟨k + 1, r⟩ with h | ⟨ds, d, hd, hw, h⟩
        · exact .inl h
        · exact .inr ⟨_, _, d, .plain hb hd, hw.of_cons, h⟩
  · have htt : ({ t with exponent := none } : NumberText) = t := by rw [← ht]
    refine .inr ⟨[], none, c, .absent, .refl c, ?_⟩
    rw [htt]
    exact scanExponent_of_ne fun b r h hb => hc ⟨b, r, h, hb⟩

/-! ## Fractions -/

theorem scanFraction_of_ne {c : Cursor} (h : ∀ b r, c.rest = b :: r → b ≠ 0x2E) :
    scanFraction t c = scanExponent t c := by
  unfold scanFraction
  split
  · rename_i b r hr
    rw [if_neg (by simpa using h b r hr)]
  · rfl

theorem scanFraction_point (t : NumberText) (k : Nat) (r : List UInt8) :
    scanFraction t ⟨k, 0x2E :: r⟩ =
      if (takeDigits ⟨k + 1, r⟩).1.isEmpty then badNumber ⟨k + 1, r⟩
      else scanExponent { t with fraction := some (takeDigits ⟨k + 1, r⟩).1 }
        (takeDigits ⟨k + 1, r⟩).2 := rfl

/-- No digit comes first where an exponent or what follows a number stands. -/
theorem not_digit_of_exponent {k : Nat} {e rest : List UInt8}
    {exponent : Option (Bool × List UInt8 × Nat)} (he : ExponentSource k e exponent)
    (hr : Ends rest) : ∀ b r, e ++ rest = b :: r → isDigit b = false ∧ b ≠ 0x2E := by
  have hm : ∀ {b : UInt8}, IsExponentMark b → isDigit b = false ∧ b ≠ 0x2E := by
    rintro b (rfl | rfl) <;> exact ⟨by decide, by decide⟩
  intro b r h
  cases he with
  | absent => exact ⟨(hr b r h).1, (hr b r h).2.1⟩
  | plain hb => cases h; exact hm hb
  | plus hb => cases h; exact hm hb
  | minus hb => cases h; exact hm hb

/-- A fraction is scanned to its end, and the exponent behind it. -/
theorem scanFraction_of_source {k : Nat} {f e rest : List UInt8} {fraction : Option (List UInt8)}
    {exponent : Option (Bool × List UInt8 × Nat)} (hf : FractionSource f fraction)
    (he : ExponentSource (k + f.length) e exponent) (hr : Ends rest) (t : NumberText)
    (htf : t.fraction = none) (hte : t.exponent = none) :
    scanFraction t ⟨k, f ++ (e ++ rest)⟩
      = (numberLexeme { t with fraction := fraction, exponent := exponent }
          (k + f.length + e.length), ⟨k + f.length + e.length, rest⟩) := by
  have hn := not_digit_of_exponent he hr
  cases hf with
  | absent =>
    have htt : ({ t with fraction := none, exponent := exponent } : NumberText)
        = { t with exponent := exponent } := by rw [← htf]
    rw [htt]
    exact (scanFraction_of_ne fun b r h => (hn b r h).2).trans (scanExponent_of_source he hr t hte)
  | present h =>
    rename_i ds
    rw [List.cons_append, scanFraction_point, takeDigits_append h.2 fun b r h => (hn b r h).1]
    simp only [isEmpty_of_digits h, Bool.false_eq_true, if_false]
    rw [List.length_cons, show k + (ds.length + 1) = k + 1 + ds.length by omega] at he ⊢
    exact scanExponent_of_source he hr { t with fraction := some ds } hte

theorem scanFraction_cases (t : NumberText) (htf : t.fraction = none) (hte : t.exponent = none)
    (c : Cursor) :
    (∃ c', scanFraction t c = badNumber c') ∨
      ∃ f fraction e exponent d, FractionSource f fraction ∧
        ExponentSource (c.offset + f.length) e exponent ∧ c.Took (f ++ e) d ∧
        scanFraction t c
          = (numberLexeme { t with fraction := fraction, exponent := exponent } d.offset, d) := by
  by_cases hc : ∃ r, c.rest = 0x2E :: r
  · obtain ⟨r, hr⟩ := hc
    obtain ⟨k, r'⟩ := c
    cases hr
    rw [scanFraction_point]
    split
    · exact .inl ⟨_, rfl⟩
    · rename_i hne
      have hd : Digits (takeDigits ⟨k + 1, r⟩).1 := by
        refine digits_takeDigits fun he => hne ?_
        rw [he]
        rfl
      have ht := took_takeDigits ⟨k + 1, r⟩
      rcases scanExponent_cases { t with fraction := some (takeDigits ⟨k + 1, r⟩).1 } hte
        (takeDigits ⟨k + 1, r⟩).2 with h | ⟨e, exponent, d, he, hw, h⟩
      · exact .inl h
      · refine .inr ⟨_, _, e, exponent, d, .present hd, ?_, ?_, h⟩
        · have ho := ht.of_cons (b := 0x2E).2
          rw [← ho]
          exact he
        · exact (ht.trans hw).of_cons
  · rw [scanFraction_of_ne fun b r h hb => hc ⟨r, by rw [h, hb]⟩]
    rcases scanExponent_cases t hte c with h | ⟨e, exponent, d, he, hw, h⟩
    · exact .inl h
    · have htt : ({ t with fraction := none, exponent := exponent } : NumberText)
          = { t with exponent := exponent } := by rw [← htf]
      refine .inr ⟨[], none, e, exponent, d, .absent, he, hw, ?_⟩
      rw [htt]
      exact h

/-! ## Numbers -/

theorem scanDigits_of_source {negative : Bool} {k : Nat} {w rest : List UInt8} {t : NumberText}
    (h : DigitsSource negative k w t) (hr : Ends rest) :
    scanDigits negative ⟨k, w ++ rest⟩ = (numberLexeme t (k + w.length), ⟨k + w.length, rest⟩) := by
  cases h with
  | mk hd hf he =>
    rename_i ds f e fraction exponent
    have hn : ∀ b r, f ++ (e ++ rest) = b :: r → isDigit b = false := by
      intro b r h
      cases hf with
      | absent => exact (not_digit_of_exponent he hr b r h).1
      | present => cases h; decide
    have hw : (ds ++ (f ++ e)) ++ rest = ds ++ (f ++ (e ++ rest)) := by
      simp only [List.append_assoc]
    have hl : k + (ds ++ (f ++ e)).length = k + ds.length + f.length + e.length := by
      simp only [List.length_append]
      omega
    obtain ⟨hdd, hz⟩ := hd
    rw [hw, scanDigits, takeDigits_append hdd.2 hn, hl]
    cases ds with
    | nil => exact absurd rfl hdd.1
    | cons z ds =>
      have hz' : ¬ (z == 0x30 && !ds.isEmpty) = true := by
        intro h
        simp only [Bool.and_eq_true, beq_iff_eq, Bool.not_eq_true'] at h
        have := hz (by rw [h.1]; rfl)
        rw [List.length_cons] at this
        have hds : ds = [] := List.eq_nil_of_length_eq_zero (by omega)
        rw [hds] at h
        cases h.2
      simp only [if_neg hz']
      exact scanFraction_of_source hf he hr _ rfl rfl

theorem scanDigits_cases (negative : Bool) (c : Cursor) :
    (∃ c', scanDigits negative c = badNumber c') ∨
      ∃ w t d, DigitsSource negative c.offset w t ∧ c.Took w d ∧
        scanDigits negative c = (numberLexeme t d.offset, d) := by
  have ht := took_takeDigits c
  have hdd := @digits_takeDigits c
  unfold scanDigits
  split
  rename_i ds d hds
  rw [hds] at ht hdd
  split
  · exact .inl ⟨c, rfl⟩
  · rename_i z rest
    split
    · exact .inl ⟨_, rfl⟩
    · rename_i hz
      have hw : Whole (z :: rest) := by
        refine ⟨hdd (List.cons_ne_nil _ _), fun h0 => ?_⟩
        have hz0 : z = 0x30 := Option.some.inj h0
        have hre : rest = [] := by simpa [hz0] using hz
        rw [hre]
        rfl
      rcases scanFraction_cases ⟨negative, z :: rest, none, none⟩ rfl rfl d with
        h | ⟨f, fraction, e, exponent, d', hf, he, hw', h⟩
      · exact .inl h
      · refine .inr ⟨_, _, d', .mk hw hf ?_, ht.trans hw', h⟩
        rw [← ht.2]
        exact he

/-- The scanner takes a whole number, whatever follows it that does not go on with it. -/
theorem scanNumber_of_source {k : Nat} {w rest : List UInt8} {t : NumberText}
    (h : NumberSource k w t) (hr : Ends rest) :
    scanNumber ⟨k, w ++ rest⟩ = (numberLexeme t (k + w.length), ⟨k + w.length, rest⟩) := by
  cases h with
  | positive h =>
    rw [← scanDigits_of_source h hr]
    cases h with
    | mk hd hf he =>
      rename_i ds f e fraction exponent
      cases ds with
      | nil => exact absurd rfl hd.1.1
      | cons z ds =>
        have hz : ¬ (z == 0x2D) = true := by
          have := hd.1.2 z List.mem_cons_self
          simp only [beq_iff_eq]
          rintro rfl
          exact absurd this (by decide)
        simp only [List.cons_append, scanNumber, if_neg hz]
  | negative h =>
    rename_i w
    have hs := scanDigits_of_source h hr
    rw [List.length_cons, show k + (w.length + 1) = k + 1 + w.length by omega, ← hs]
    rfl

theorem scanNumber_cases (c : Cursor) :
    (∃ c', scanNumber c = badNumber c') ∨
      ∃ w t d, NumberSource c.offset w t ∧ c.Took w d ∧
        scanNumber c = (numberLexeme t d.offset, d) := by
  unfold scanNumber
  split
  · rename_i b r hr
    split
    · rename_i hb
      rcases scanDigits_cases true ⟨c.offset + 1, r⟩ with h | ⟨w, t, d, hw, ht, h⟩
      · exact .inl h
      · refine .inr ⟨_, t, d, .negative hw, ?_, h⟩
        have hc : c = ⟨c.offset, 0x2D :: r⟩ := by rw [← eq_of_beq hb, ← hr]
        rw [hc]
        exact ht.of_cons
    · rcases scanDigits_cases false c with h | ⟨w, t, d, hw, ht, h⟩
      · exact .inl h
      · exact .inr ⟨w, t, d, .positive hw, ht, h⟩
  · exact .inl ⟨c, rfl⟩

end FluentBuilders.Json
