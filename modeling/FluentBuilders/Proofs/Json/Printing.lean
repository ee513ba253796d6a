/-
  Printing — the compact text of a value is a source of a tree that holds it.

  Strings are followed character by character: each is written raw, with a short escape or with four
  hexadecimal digits, and each of the three spells the bytes of that character.  Whole numbers are
  followed digit by digit from the left.

  Doubles are left out.  They are written with as few digits as tell them apart from their
  neighbours, and that those digits are read as the same double is a matter of rounding.
-/
import FluentBuilders.Proofs.Json.Source
import FluentBuilders.Proofs.Json.Holding
import FluentBuilders.Proofs.Text.Utf8

namespace FluentBuilders.Json

open Text.Utf8 (encode encodeChar)

/-! ## Characters -/

theorem after_after (a b : List UInt8) (t : TextBytes) :
    (t.after b).after a = t.after (a ++ b) := by
  rw [TextBytes.after, TextBytes.after, TextBytes.after, List.append_assoc]

/-- Between quotes, `w` spells the bytes `bs`. -/
structure Spells (w bs : List UInt8) : Prop where
  content : ∀ {r}, Content r → Content (w ++ r)
  read : ∀ k r, textBytes k (w ++ r) = .after bs <$> textBytes (k + w.length) r

theorem Spells.nil : Spells [] [] where
  content h := h
  read k r := by
    have hid : TextBytes.after [] = id := funext fun t => rfl
    rw [hid]
    exact (id_map _).symm

theorem Spells.append {v w as bs : List UInt8} (hv : Spells v as) (hw : Spells w bs) :
    Spells (v ++ w) (as ++ bs) where
  content h := by
    rw [List.append_assoc]
    exact hv.content (hw.content h)
  read k r := by
    rw [List.append_assoc, hv.read, hw.read, List.length_append, ← Nat.add_assoc]
    cases textBytes (k + v.length + w.length) r with
    | error f => rfl
    | ok t => exact congrArg Except.ok (after_after as bs t)

theorem Spells.plain {b : UInt8} (hc : 0x20 ≤ b.toNat) (hq : b ≠ 0x22) (he : b ≠ 0x5C) :
    Spells [b] [b] :=
  ⟨.plain hc hq he, fun k r => textBytes_plain hc hq he k r⟩

theorem Spells.short {e c : UInt8} (h : shortEscape? e = some c) : Spells [0x5C, e] [c] :=
  ⟨.short (h ▸ rfl), fun k r => textBytes_short h k r⟩

theorem Spells.code {w x y z : UInt8} {n : Nat} (h : hexFour? w x y z = some n)
    (hn : n < 0xD800 ∨ 0xE000 ≤ n) : Spells [0x5C, 0x75, w, x, y, z] (charBytes n) :=
  ⟨.code (h ▸ rfl), fun k r => textBytes_code h hn k r⟩

theorem Spells.plains : ∀ {w : List UInt8},
    (∀ b ∈ w, 0x20 ≤ b.toNat ∧ b ≠ 0x22 ∧ b ≠ 0x5C) → Spells w w
  | [], _ => .nil
  | b :: w, h => by
    obtain ⟨hc, hq, he⟩ := h b List.mem_cons_self
    have hw := Spells.plains fun c hc => h c (List.mem_cons_of_mem b hc)
    exact (Spells.plain hc hq he).append hw

/-- The two digits of a control say which it is. -/
theorem hexFour_hexDigit : ∀ n < 0x20,
    encode ['\\', 'u', '0', '0', hexDigit (n / 16), hexDigit (n % 16)]
      = [0x5C, 0x75, 0x30, 0x30, UInt8.ofNat (hexDigit (n / 16)).toNat,
          UInt8.ofNat (hexDigit (n % 16)).toNat] ∧
    hexFour? 0x30 0x30 (UInt8.ofNat (hexDigit (n / 16)).toNat)
      (UInt8.ofNat (hexDigit (n % 16)).toNat) = some n := by
  decide

/-- A character is spelled by its escape. -/
theorem spells_escaped (c : Char) : Spells (encode (escaped c)) (encodeChar c) := by
  unfold escaped
  -- the quote, the backslash and the five controls with a letter of their own
  iterate 7
    split
    · rename_i h
      rw [h]
      exact .short rfl
  rename_i hquote hslash _ _ _ _ _
  split
  · rename_i hlt
    obtain ⟨hw, hx⟩ := hexFour_hexDigit c.toNat hlt
    have hs := Spells.code hx (.inl (by omega))
    rw [charBytes, Char.ofNat_toNat] at hs
    rw [hw]
    exact hs
  · rename_i hge
    rw [show encode [c] = encodeChar c from List.append_nil _]
    refine .plains fun b hb => ?_
    by_cases hascii : c.toNat < 0x80
    · rw [Text.Utf8.encodeChar_of_lt hascii, List.mem_singleton] at hb
      have hn := Text.Utf8.toNat_ofNat_of_lt (show c.toNat < 0x100 by omega)
      rw [hb, hn]
      refine ⟨Nat.not_lt.mp hge, ?_, ?_⟩
      · intro h
        refine hquote ?_
        rw [← Char.ofNat_toNat c, ← hn, h]
        rfl
      · intro h
        refine hslash ?_
        rw [← Char.ofNat_toNat c, ← hn, h]
        rfl
    · have hle := Text.Utf8.le_of_mem_encodeChar hascii hb
      refine ⟨by omega, ?_, ?_⟩ <;> rintro rfl <;> exact absurd hle (by decide)

/-- **A text is spelled by what is printed for it.** -/
theorem spells_escapes : ∀ cs : List Char, Spells (encode (cs.flatMap escaped)) (encode cs)
  | [] => .nil
  | c :: cs => by
    rw [List.flatMap_cons, Text.Utf8.encode_append]
    exact (spells_escaped c).append (spells_escapes cs)

/-! ## Strings -/

/-- What is written between the quotes of a string. -/
def printedContent (s : String) : List UInt8 := encode (s.toList.flatMap escaped)

theorem encode_printText (s : String) :
    encode (printText s) = 0x22 :: (printedContent s ++ [0x22]) := by
  rw [printText, List.cons_append, ← List.singleton_append, Text.Utf8.encode_append,
    Text.Utf8.encode_append]
  rfl

theorem content_printedContent (s : String) : Content (printedContent s) := by
  have h := (spells_escapes s.toList).content .nil
  rw [List.append_nil] at h
  exact h

/-- What is printed for a text is read as that text. -/
theorem read_printedContent (k : Nat) (s : String) :
    (textLexeme k (printedContent s)).read = .ok s := by
  show textBytes k (printedContent s ++ [0x22]) >>= TextBytes.spell = _
  rw [printedContent, (spells_escapes s.toList).read, textBytes_close]
  show TextBytes.spell ⟨encode s.toList ++ [], _⟩ = _
  rw [List.append_nil, TextBytes.spell, Text.Utf8.decode_encode]
  exact congrArg Except.ok String.ofList_toList

/-! ## Whole numbers -/

/-- The decimal digits of a number as bytes. -/
def digitBytes (n : Nat) : List UInt8 := encode (Nat.toDigits 10 n)

theorem digit_of_lt : ∀ n < 10, encode [n.digitChar] = [UInt8.ofNat (0x30 + n)] ∧
    isDigit (UInt8.ofNat (0x30 + n)) = true ∧ digitValue (UInt8.ofNat (0x30 + n)) = n := by
  decide

theorem digitBytes_of_lt {n : Nat} (h : n < 10) : digitBytes n = [UInt8.ofNat (0x30 + n)] := by
  rw [digitBytes, Nat.toDigits_of_lt_base h]
  exact (digit_of_lt n h).1

/-- The digits of a number are those of its tenth, and one more. -/
theorem digitBytes_of_le {n : Nat} (h : 10 ≤ n) :
    digitBytes n = digitBytes (n / 10) ++ [UInt8.ofNat (0x30 + n % 10)] := by
  rw [digitBytes, Nat.toDigits_of_base_le (by decide) h, Text.Utf8.encode_append,
    (digit_of_lt _ (Nat.mod_lt n (by decide))).1]
  rfl

theorem isDigit_of_mem_digitBytes (n : Nat) : ∀ b ∈ digitBytes n, isDigit b = true := by
  intro b hb
  rcases Nat.lt_or_ge n 10 with h | h
  · rw [digitBytes_of_lt h, List.mem_singleton] at hb
    rw [hb]
    exact (digit_of_lt n h).2.1
  · rw [digitBytes_of_le h, List.mem_append, List.mem_singleton] at hb
    rcases hb with hb | rfl
    · exact isDigit_of_mem_digitBytes (n / 10) b hb
    · exact (digit_of_lt _ (Nat.mod_lt n (by decide))).2.1
termination_by n
decreasing_by omega

/-- There is no zero in front of a number other than zero. -/
theorem head_digitBytes {n : Nat} (hn : 0 < n) :
    ∃ d r, digitBytes n = d :: r ∧ d ≠ 0x30 := by
  rcases Nat.lt_or_ge n 10 with h | h
  · refine ⟨_, [], digitBytes_of_lt h, ?_⟩
    intro h0
    have hv := (digit_of_lt n h).2.2
    rw [h0, show digitValue 0x30 = 0 from rfl] at hv
    omega
  · obtain ⟨d, r, hd, hne⟩ := head_digitBytes (n := n / 10) (by omega)
    exact ⟨d, _, by rw [digitBytes_of_le h, hd]; rfl, hne⟩
termination_by n
decreasing_by omega

theorem whole_digitBytes (n : Nat) : Whole (digitBytes n) := by
  refine ⟨⟨?_, isDigit_of_mem_digitBytes n⟩, ?_⟩
  · rcases Nat.eq_zero_or_pos n with rfl | hn
    · exact List.cons_ne_nil _ _
    · obtain ⟨d, r, hd, -⟩ := head_digitBytes hn
      rw [hd]
      exact List.cons_ne_nil d r
  · intro h
    rcases Nat.eq_zero_or_pos n with rfl | hn
    · rfl
    · obtain ⟨d, r, hd, hne⟩ := head_digitBytes hn
      rw [hd] at h
      exact absurd (Option.some.inj h) hne

/-- The number that digits behind others spell. -/
def digitsValue (v : Nat) (ds : List UInt8) : Nat := ds.foldl (fun v d => v * 10 + digitValue d) v

theorem le_digitsValue : ∀ (v : Nat) (ds : List UInt8), v ≤ digitsValue v ds
  | _, [] => Nat.le_refl _
  | v, d :: ds => by
    have h := le_digitsValue (v * 10 + digitValue d) ds
    show v ≤ digitsValue (v * 10 + digitValue d) ds
    omega

/-- All digits are kept when the number that they spell fits. -/
theorem leadingDigits_of_le : ∀ (v : Nat) (ds : List UInt8), digitsValue v ds ≤ maxWhole →
    leadingDigits v ds = (digitsValue v ds, 0)
  | _, [], _ => rfl
  | v, d :: ds, h => by
    have hle : v * 10 + digitValue d ≤ digitsValue (v * 10 + digitValue d) ds := le_digitsValue _ ds
    rw [leadingDigits, if_neg (Nat.not_lt.mpr (Nat.le_trans hle h))]
    exact leadingDigits_of_le _ ds h

/-- **The digits of a number** stand for that number. -/
theorem digitsValue_digitBytes (n : Nat) : digitsValue 0 (digitBytes n) = n := by
  rcases Nat.lt_or_ge n 10 with h | h
  · rw [digitBytes_of_lt h]
    show 0 * 10 + digitValue _ = n
    rw [(digit_of_lt n h).2.2, Nat.zero_mul, Nat.zero_add]
  · rw [digitBytes_of_le h, digitsValue, List.foldl_append]
    show digitsValue 0 (digitBytes (n / 10)) * 10 + digitValue _ = n
    rw [digitsValue_digitBytes (n / 10), (digit_of_lt _ (Nat.mod_lt n (by decide))).2.2]
    omega
termination_by n
decreasing_by omega

theorem source_digitBytes (negative : Bool) (k n : Nat) :
    DigitsSource negative k (digitBytes n) ⟨negative, digitBytes n, none, none⟩ := by
  have h : DigitsSource negative k (digitBytes n ++ ([] ++ []))
      ⟨negative, digitBytes n, none, none⟩ :=
    .mk (whole_digitBytes n) .absent .absent
  rwa [List.append_nil, List.append_nil] at h

/-- The digits of a number that is small enough are read as that number. -/
theorem value_digitBytes {n : Nat} (hn : n ≤ maxWhole) (stop : Nat) :
    NumberText.value ⟨false, digitBytes n, none, none⟩ stop = .ok (.whole n) := by
  rw [NumberText.value]
  simp only [leadingDigits_of_le 0 (digitBytes n) (by rw [digitsValue_digitBytes]; exact hn),
    digitsValue_digitBytes]
  rfl

/-- So it is with a sign in front. -/
theorem value_negative_digitBytes {n : Nat} (h0 : 0 < n) (hn : n ≤ 0x8000000000000000)
    (stop : Nat) :
    NumberText.value ⟨true, digitBytes n, none, none⟩ stop = .ok (.whole (-n)) := by
  have hle : n ≤ maxWhole := Nat.le_trans hn (by decide)
  rw [NumberText.value]
  simp only [leadingDigits_of_le 0 (digitBytes n) (by rw [digitsValue_digitBytes]; exact hle),
    digitsValue_digitBytes]
  rw [if_pos (by simp [h0, hn])]
  rfl

/-- A whole number of 64 bits, with or without a sign. -/
def IsWhole (n : Int) : Prop := -0x8000000000000000 ≤ n ∧ n ≤ 0xFFFFFFFFFFFFFFFF

/-- A whole number is read back from what is printed for it. -/
theorem source_wholeText {n : Int} (h : IsWhole n) (k : Nat) :
    ∃ t, Tree.Source k (encode (wholeText n)) t ∧ t.Holds (.number (.whole n)) := by
  obtain ⟨hlo, hhi⟩ := h
  rw [wholeText]
  split
  · rename_i hn
    rw [← List.singleton_append, Text.Utf8.encode_append]
    refine ⟨_, .number (.negative (source_digitBytes true (k + 1) n.natAbs)), .number ?_⟩
    show NumberText.value _ _ = _
    rw [value_negative_digitBytes (by omega) (by omega), show -(n.natAbs : Int) = n by omega]
  · rename_i hn
    refine ⟨_, .number (.positive (source_digitBytes false k n.natAbs)), .number ?_⟩
    show NumberText.value _ _ = _
    rw [value_digitBytes (by rw [maxWhole]; omega), show (n.natAbs : Int) = n by omega]

/-! ## Values -/

mutual

/-- All numbers of a value are whole numbers of 64 bits. -/
def Integral : Json → Prop
  | .null | .bool _ | .text _ => True
  | .number (.whole n) => IsWhole n
  | .number (.double _) => False
  | .list items => IntegralItems items
  | .object members => IntegralMembers members

/-- All numbers of several values are whole. -/
def IntegralItems : List Json → Prop
  | [] => True
  | v :: r => Integral v ∧ IntegralItems r

/-- All numbers of the values of several members are whole. -/
def IntegralMembers : List (String × Json) → Prop
  | [] => True
  | (_, v) :: r => Integral v ∧ IntegralMembers r

end

@[simp] theorem integral_text (s : String) : (Json.text s).Integral := trivial

@[simp] theorem integral_bool (b : Bool) : (Json.bool b).Integral := trivial

theorem integral_ofNat {n : Nat} (h : n ≤ 0xFFFFFFFFFFFFFFFF) : (Json.ofNat n).Integral := by
  show IsWhole n
  constructor <;> omega

@[simp] theorem integral_list {vs : List Json} :
    (Json.list vs).Integral ↔ ∀ v ∈ vs, v.Integral := by
  show IntegralItems vs ↔ _
  induction vs with
  | nil => simp [IntegralItems]
  | cons v vs ih => simp [IntegralItems, ih]

@[simp] theorem integral_object {ms : List (String × Json)} :
    (Json.object ms).Integral ↔ ∀ key v, (key, v) ∈ ms → v.Integral := by
  show IntegralMembers ms ↔ _
  induction ms with
  | nil => simp [IntegralMembers]
  | cons m ms ih => simp [IntegralMembers, ih, or_imp, forall_and, Prod.ext_iff]

theorem encode_cons (c : Char) (cs : List Char) :
    encode (c :: cs) = encodeChar c ++ encode cs := rfl

theorem encode_member (key : String) (cs : List Char) :
    encode (printText key ++ ':' :: cs)
      = 0x22 :: (printedContent key ++ 0x22 :: 0x3A :: encode cs) := by
  rw [Text.Utf8.encode_append, encode_printText, List.cons_append, List.append_assoc]
  rfl

theorem blanks_nil : Blanks [] := nofun

/-- A member with no blanks around its colon. -/
theorem source_member {k : Nat} {key w r : List UInt8} {t : Tree} {rest : Members}
    (hk : Content key) (hv : Tree.Source (k + key.length + 1 + 1) w t)
    (hr : Members.MoreSource (k + key.length + 1 + 1 + w.length) r rest) :
    Members.KeySource k (key ++ 0x22 :: 0x3A :: (w ++ r))
      (.member (textLexeme k key) (k + key.length + 1) t
        (Cursor.skipBlanks ⟨k + key.length + 1 + 1 + w.length, r⟩).offset rest) :=
  .mk (a := []) (b := []) hk blanks_nil blanks_nil hv hr

mutual

/-- **A value is spelt by its compact text.** -/
theorem source_print : ∀ (v : Json) (k : Nat), v.Integral →
    ∃ t, Tree.Source k (encode v.print) t ∧ t.Holds v
  | .null, _, _ => ⟨_, .null, .null⟩
  | .bool true, _, _ => ⟨_, .yes, .bool⟩
  | .bool false, _, _ => ⟨_, .no, .bool⟩
  | .number (.whole n), k, h => by
    rw [Integral] at h
    exact source_wholeText h k
  | .text s, k, _ => by
    rw [print, encode_printText]
    exact ⟨_, .text (content_printedContent s), .text (read_printedContent (k + 1) s)⟩
  | .list [], k, _ => ⟨_, .list (.close blanks_nil), .list .close⟩
  | .list (v :: r), k, h => by
    rw [Integral] at h
    obtain ⟨t, rest, hs, hv, hr⟩ := source_printItems v r (k + 1) h
    rw [print]
    exact ⟨_, .list hs, .list (.item hv hr)⟩
  | .object [], k, _ => ⟨_, .object (.close blanks_nil), .object .close⟩
  | .object (m :: r), k, h => by
    rw [Integral] at h
    obtain ⟨members, w, hw, hs, hm⟩ := source_printMembers m r (k + 2) h
    rw [print, encode_cons, hw]
    exact ⟨_, .object (.member blanks_nil hs), .object hm⟩
termination_by v => sizeOf v

theorem source_printItems : ∀ (v : Json) (r : List Json) (k : Nat), IntegralItems (v :: r) →
    ∃ t rest, Items.Source k (encode (printItems (v :: r))) (.item t rest) ∧ t.Holds v ∧
      rest.Holds r
  | v, [], k, h => by
    rw [IntegralItems] at h
    obtain ⟨t, hs, hv⟩ := source_print v k h.1
    rw [printItems, Text.Utf8.encode_append]
    exact ⟨t, _, .item (a := []) blanks_nil hs (.close (a := []) blanks_nil), hv, .close⟩
  | v, w :: r, k, h => by
    rw [IntegralItems] at h
    obtain ⟨t, hs, hv⟩ := source_print v k h.1
    obtain ⟨u, rest, hs', hw, hr⟩ := source_printItems w r (k + (encode v.print).length + 1) h.2
    rw [printItems, Text.Utf8.encode_append]
    exact ⟨t, _, .item (a := []) blanks_nil hs (.comma (a := []) blanks_nil hs'), hv, .item hw hr⟩
termination_by v r => sizeOf (v :: r)

/-- The members of an object, the first of which begins with the quote of its key. -/
theorem source_printMembers : ∀ (m : String × Json) (r : List (String × Json)) (k : Nat),
    IntegralMembers (m :: r) →
    ∃ members w, encode (printMembers (m :: r)) = 0x22 :: w ∧ Members.KeySource k w members ∧
      members.Holds (m :: r)
  | (key, v), [], k, h => by
    rw [IntegralMembers] at h
    obtain ⟨t, hs, hv⟩ := source_print v (k + (printedContent key).length + 1 + 1) h.1
    rw [printMembers, List.append_assoc, List.cons_append, encode_member, Text.Utf8.encode_append]
    have hsource := source_member (content_printedContent key) hs (.close blanks_nil)
    exact ⟨_, _, rfl, hsource, .member (read_printedContent k key) hv .close⟩
  | (key, v), m :: r, k, h => by
    rw [IntegralMembers] at h
    obtain ⟨t, hs, hv⟩ := source_print v (k + (printedContent key).length + 1 + 1) h.1
    obtain ⟨members, w, hw, hs', hm⟩ := source_printMembers m r
      (k + (printedContent key).length + 1 + 1 + (encode v.print).length + 1 + 1) h.2
    rw [printMembers, List.append_assoc, List.cons_append, encode_member, Text.Utf8.encode_append,
      encode_cons, hw]
    have hsource := source_member (content_printedContent key) hs
      (.comma (a := []) (b := []) blanks_nil blanks_nil hs')
    exact ⟨_, _, rfl, hsource, .member (read_printedContent k key) hv hm⟩
termination_by m r => sizeOf (m :: r)

end

end FluentBuilders.Json
