/-
  Scanning — a text that follows the grammar is scanned as it is spelt.

  The scanner carries bounds on what it leaves, which its termination needs and no statement about
  its result does.  `valueAt` and its companions are the same functions without the bounds, with
  one equation each; everything after these equations is about them.

  That a value is scanned as it is spelt is by induction on the number of its bytes, in step with
  the grammar: one theorem for each of its relations.
-/
import FluentBuilders.Proofs.Json.Strings
import FluentBuilders.Proofs.Json.Numbers

namespace FluentBuilders.Json

/-! ## The scanner without its bounds -/

/-- The value at a cursor, and the cursor behind it. -/
def valueAt (c : Cursor) : Tree × Cursor := ((scanValue c).1, (scanValue c).2.1)

/-- A list from behind its bracket. -/
def itemsAt (c : Cursor) : Items × Cursor := ((scanItems c).1, (scanItems c).2.1)

/-- A list from behind an item. -/
def moreItemsAt (c : Cursor) : Items × Cursor := ((scanMoreItems c).1, (scanMoreItems c).2.1)

/-- An object from behind its brace. -/
def membersAt (c : Cursor) : Members × Cursor := ((scanMembers c).1, (scanMembers c).2.1)

/-- An object from behind the opening quote of a key. -/
def memberAt (c : Cursor) : Members × Cursor := ((scanMember c).1, (scanMember c).2.1)

/-- An object from behind a member. -/
def moreMembersAt (c : Cursor) : Members × Cursor :=
  ((scanMoreMembers c).1, (scanMoreMembers c).2.1)

/-- One of the three words behind its first letter. -/
def namedAt (start : Nat) (word : String) (value : Nat → Tree) (r : List UInt8) : Tree × Cursor :=
  ((scanNamed start word value r).1, (scanNamed start word value r).2.1)

theorem valueAt_eq (c : Cursor) : valueAt c =
    match c.skipBlanks.rest with
    | [] => (.absent c.skipBlanks.offset, c.skipBlanks)
    | b :: r =>
      let k := c.skipBlanks.offset
      if b == 0x22 then (.text k (scanText ⟨k + 1, r⟩).1, (scanText ⟨k + 1, r⟩).2)
      else if b == 0x5B then (.list k (itemsAt ⟨k + 1, r⟩).1, (itemsAt ⟨k + 1, r⟩).2)
      else if b == 0x7B then (.object k (membersAt ⟨k + 1, r⟩).1, (membersAt ⟨k + 1, r⟩).2)
      else if b == 0x2D || isDigit b then
        (.number k (scanNumber c.skipBlanks).1, (scanNumber c.skipBlanks).2)
      else if b == 0x6E then namedAt k "ull" (.null k) r
      else if b == 0x74 then namedAt k "rue" (.bool k true) r
      else if b == 0x66 then namedAt k "alse" (.bool k false) r
      else (.junk k ⟨k + 1, .noValue⟩, c.skipBlanks) := by
  unfold valueAt
  rw [scanValue]
  split
  · rename_i hr
    simp only [hr]
  · rename_i b r hr
    simp only [hr]
    repeat' split
    all_goals rfl

theorem itemsAt_eq (c : Cursor) : itemsAt c =
    match c.skipBlanks.rest with
    | [] => (.cut c.skipBlanks.offset, c.skipBlanks)
    | b :: r =>
      if b == 0x5D then (.close c.skipBlanks.offset, ⟨c.skipBlanks.offset + 1, r⟩)
      else
        (.item (valueAt c.skipBlanks).1 (moreItemsAt (valueAt c.skipBlanks).2).1,
          (moreItemsAt (valueAt c.skipBlanks).2).2) := by
  unfold itemsAt
  rw [scanItems]
  split
  · rename_i hr
    simp only [hr]
  · rename_i b r hr
    simp only [hr]
    split <;> rfl

theorem moreItemsAt_eq (c : Cursor) : moreItemsAt c =
    match c.skipBlanks.rest with
    | [] => (.cut c.skipBlanks.offset, c.skipBlanks)
    | b :: r =>
      if b == 0x5D then (.close c.skipBlanks.offset, ⟨c.skipBlanks.offset + 1, r⟩)
      else if b == 0x2C then
        let n : Cursor := (Cursor.mk (c.skipBlanks.offset + 1) r).skipBlanks
        match n.rest with
        | [] => (.commaCut n.offset, n)
        | b' :: _ =>
          if b' == 0x5D then (.surplusComma n.offset, n)
          else
            (.item (valueAt n).1 (moreItemsAt (valueAt n).2).1, (moreItemsAt (valueAt n).2).2)
      else (.junk c.skipBlanks.offset, c.skipBlanks) := by
  unfold moreItemsAt
  rw [scanMoreItems]
  split
  · rename_i hr
    simp only [hr]
  · rename_i b r hr
    simp only [hr]
    split
    · rfl
    · split
      · cases (Cursor.mk (c.skipBlanks.offset + 1) r).skipBlanks.rest with
        | nil => rfl
        | cons b' r' =>
          dsimp only
          split <;> rfl
      · rfl

theorem membersAt_eq (c : Cursor) : membersAt c =
    match c.skipBlanks.rest with
    | [] => (.cut c.skipBlanks.offset, c.skipBlanks)
    | b :: r =>
      if b == 0x7D then (.close c.skipBlanks.offset, ⟨c.skipBlanks.offset + 1, r⟩)
      else if b == 0x22 then memberAt ⟨c.skipBlanks.offset + 1, r⟩
      else (.noKey (valueAt c.skipBlanks).1, (valueAt c.skipBlanks).2) := by
  unfold membersAt
  rw [scanMembers]
  split
  · rename_i hr
    simp only [hr]
  · rename_i b r hr
    simp only [hr]
    repeat' split
    all_goals rfl

theorem memberAt_eq (c : Cursor) : memberAt c =
    let key := (scanText c).1
    let after := (scanText c).2.skipBlanks
    match after.rest with
    | [] => (.noColon key after.offset false ⟨after.offset, .objectCut⟩, after)
    | b :: r =>
      if b == 0x3A then
        let v := valueAt ⟨after.offset + 1, r⟩
        (.member key after.offset v.1 v.2.skipBlanks.offset (moreMembersAt v.2).1,
          (moreMembersAt v.2).2)
      else (.noColon key after.offset (b == 0x7D) ⟨after.offset + 1, .noColon⟩, after) := by
  unfold memberAt
  rw [scanMember]
  split
  · rename_i hr
    simp only [hr]
  · rename_i b r hr
    simp only [hr]
    split <;> rfl

theorem moreMembersAt_eq (c : Cursor) : moreMembersAt c =
    match c.skipBlanks.rest with
    | [] => (.cut c.skipBlanks.offset, c.skipBlanks)
    | b :: r =>
      if b == 0x7D then (.close c.skipBlanks.offset, ⟨c.skipBlanks.offset + 1, r⟩)
      else if b == 0x2C then
        let n : Cursor := (Cursor.mk (c.skipBlanks.offset + 1) r).skipBlanks
        match n.rest with
        | [] => (.commaCut n.offset, n)
        | b' :: r' =>
          if b' == 0x7D then (.surplusComma n.offset, n)
          else if b' == 0x22 then memberAt ⟨n.offset + 1, r'⟩
          else (.noKey (valueAt n).1, (valueAt n).2)
      else (.junk c.skipBlanks.offset, c.skipBlanks) := by
  unfold moreMembersAt
  rw [scanMoreMembers]
  split
  · rename_i hr
    simp only [hr]
  · rename_i b r hr
    simp only [hr]
    split
    · rfl
    · split
      · split
        · rename_i hn
          simp only [hn]
        · rename_i b' r' hn
          simp only [hn]
          repeat' split
          all_goals rfl
      · rfl

/-! ## Words -/

theorem scanWord_append (k : Nat) (ws rest : List UInt8) :
    scanWord k ws (ws ++ rest) = .ok ⟨k + ws.length, rest⟩ := by
  induction ws generalizing k with
  | nil => rfl
  | cons w ws ih =>
    rw [List.cons_append, scanWord, if_pos (beq_self_eq_true w), ih, List.length_cons,
      show k + 1 + ws.length = k + (ws.length + 1) by omega]

/-- Scanning a word takes that word. -/
theorem took_of_scanWord {k : Nat} {ws l : List UInt8} {d : Cursor} (h : scanWord k ws l = .ok d) :
    Cursor.Took ⟨k, l⟩ ws d := by
  fun_induction scanWord k ws l with
  | case1 k r =>
    cases h
    exact .refl _
  | case3 k w ws b r hb ih =>
    rw [eq_of_beq hb]
    exact (ih h).of_cons
  | _ => cases h

/-- A named value is scanned to the end of its name. -/
theorem namedAt_append (start : Nat) (word : String) (value : Nat → Tree) (rest : List UInt8) :
    namedAt start word value (Text.Utf8.encode word.toList ++ rest)
      = (value (start + 1 + (Text.Utf8.encode word.toList).length),
          ⟨start + 1 + (Text.Utf8.encode word.toList).length, rest⟩) := by
  have hw := scanWord_append (start + 1) (Text.Utf8.encode word.toList) rest
  unfold namedAt scanNamed
  split
  · rename_i d hd
    cases hw.symm.trans hd
    rfl
  · rename_i f hf
    cases hw.symm.trans hf

/-- A named value is there with its whole name, or it is junk. -/
theorem namedAt_cases (start : Nat) (word : String) (value : Nat → Tree) (r : List UInt8) :
    (∃ f, (namedAt start word value r).1 = .junk start f) ∨
      ∃ d, Cursor.Took ⟨start + 1, r⟩ (Text.Utf8.encode word.toList) d ∧
        namedAt start word value r = (value d.offset, d) := by
  unfold namedAt scanNamed
  split
  · rename_i d hd
    exact .inr ⟨d, took_of_scanWord hd, rfl⟩
  · rename_i f hf
    exact .inl ⟨f, rfl⟩

/-! ## Where a value begins and ends -/

theorem valueAt_congr {c d : Cursor} (h : c.skipBlanks = d.skipBlanks) : valueAt c = valueAt d := by
  rw [valueAt_eq, valueAt_eq, h]

/-- What must not follow a value lest it be taken for a part of it. -/
def Tree.Stops (t : Tree) (rest : List UInt8) : Prop := ∀ k l, t = .number k l → Ends rest

/-- No blank goes on with a number. -/
theorem ends_of_blanks {a : List UInt8} (ha : Blanks a) : Ends a := by
  intro b r h
  have hb : Cursor.isJsonBlank b = true := ha b (by rw [h]; exact List.mem_cons_self)
  simp only [Cursor.isJsonBlank, Bool.or_eq_true, beq_iff_eq] at hb
  rcases hb with ((rfl | rfl) | rfl) | rfl <;> simp [IsExponentMark] <;> decide

/-- A number ends where a comma or a bracket follows, blanks apart. -/
theorem ends_of_mark {a : List UInt8} (ha : Blanks a) {b : UInt8}
    (hb : b = 0x2C ∨ b = 0x5D ∨ b = 0x7D) (r : List UInt8) : Ends (a ++ b :: r) := by
  intro c r' h
  cases a with
  | nil =>
    cases h
    rcases hb with rfl | rfl | rfl <;> simp [IsExponentMark] <;> decide
  | cons x a =>
    cases h
    exact ends_of_blanks ha c a rfl

theorem Items.MoreSource.ends {k : Nat} {r : List UInt8} {rest : Items}
    (h : Items.MoreSource k r rest) (x : List UInt8) : Ends (r ++ x) := by
  cases h with
  | close ha =>
    rw [List.append_assoc]
    exact ends_of_mark ha (.inr (.inl rfl)) _
  | comma ha =>
    rw [List.append_assoc]
    exact ends_of_mark ha (.inl rfl) _

theorem Members.MoreSource.ends {k : Nat} {r : List UInt8} {rest : Members}
    (h : Members.MoreSource k r rest) (x : List UInt8) : Ends (r ++ x) := by
  cases h with
  | close ha =>
    rw [List.append_assoc]
    exact ends_of_mark ha (.inr (.inr rfl)) _
  | comma ha =>
    rw [List.append_assoc]
    exact ends_of_mark ha (.inl rfl) _

theorem DigitsSource.head {negative : Bool} {k : Nat} {w : List UInt8} {t : NumberText}
    (h : DigitsSource negative k w t) : ∃ b r, w = b :: r ∧ isDigit b = true := by
  cases h with
  | mk hd hf he =>
    rename_i ds f e fraction exponent
    cases ds with
    | nil => exact absurd rfl hd.1.1
    | cons z ds => exact ⟨z, _, rfl, hd.1.2 z List.mem_cons_self⟩

theorem NumberSource.head {k : Nat} {w : List UInt8} {t : NumberText} (h : NumberSource k w t) :
    ∃ b r, w = b :: r ∧ (b = 0x2D ∨ isDigit b = true) := by
  cases h with
  | positive h =>
    obtain ⟨b, r, hw, hb⟩ := h.head
    exact ⟨b, r, hw, .inr hb⟩
  | negative h => exact ⟨_, _, rfl, .inl rfl⟩

/-- A value begins with no blank and with no bracket that closes. -/
theorem Tree.Source.head {k : Nat} {w : List UInt8} {t : Tree} (h : Tree.Source k w t) :
    ∃ b r, w = b :: r ∧ Cursor.isJsonBlank b = false ∧ b ≠ 0x5D := by
  cases h with
  | number h =>
    obtain ⟨b, r, hw, hb⟩ := h.head
    refine ⟨b, r, hw, ?_⟩
    rcases hb with rfl | hb
    · decide
    · constructor
      · cases hc : Cursor.isJsonBlank b with
        | false => rfl
        | true =>
          simp only [Cursor.isJsonBlank, Bool.or_eq_true, beq_iff_eq] at hc
          rcases hc with ((rfl | rfl) | rfl) | rfl <;> exact absurd hb (by decide)
      · rintro rfl
        exact absurd hb (by decide)
  | null => exact ⟨_, _, rfl, by decide, by decide⟩
  | yes => exact ⟨_, _, rfl, by decide, by decide⟩
  | no => exact ⟨_, _, rfl, by decide, by decide⟩
  | text => exact ⟨_, _, rfl, by decide, by decide⟩
  | list => exact ⟨_, _, rfl, by decide, by decide⟩
  | object => exact ⟨_, _, rfl, by decide, by decide⟩

/-! ## One step at a time -/

/-- What stands at a place is decided by its first byte. -/
theorem valueAt_of_cons {k : Nat} {b : UInt8} (hb : Cursor.isJsonBlank b = false)
    (r : List UInt8) : valueAt ⟨k, b :: r⟩ =
      if b == 0x22 then (.text k (scanText ⟨k + 1, r⟩).1, (scanText ⟨k + 1, r⟩).2)
      else if b == 0x5B then (.list k (itemsAt ⟨k + 1, r⟩).1, (itemsAt ⟨k + 1, r⟩).2)
      else if b == 0x7B then (.object k (membersAt ⟨k + 1, r⟩).1, (membersAt ⟨k + 1, r⟩).2)
      else if b == 0x2D || isDigit b then
        (.number k (scanNumber ⟨k, b :: r⟩).1, (scanNumber ⟨k, b :: r⟩).2)
      else if b == 0x6E then namedAt k "ull" (.null k) r
      else if b == 0x74 then namedAt k "rue" (.bool k true) r
      else if b == 0x66 then namedAt k "alse" (.bool k false) r
      else (.junk k ⟨k + 1, .noValue⟩, ⟨k, b :: r⟩) := by
  rw [valueAt_eq, Cursor.skipBlanks_cons hb]


theorem valueAt_quote (k : Nat) (r : List UInt8) : valueAt ⟨k, 0x22 :: r⟩ =
    (.text k (scanText ⟨k + 1, r⟩).1, (scanText ⟨k + 1, r⟩).2) :=
  valueAt_of_cons rfl r

theorem valueAt_bracket (k : Nat) (r : List UInt8) : valueAt ⟨k, 0x5B :: r⟩ =
    (.list k (itemsAt ⟨k + 1, r⟩).1, (itemsAt ⟨k + 1, r⟩).2) :=
  valueAt_of_cons rfl r

theorem valueAt_brace (k : Nat) (r : List UInt8) : valueAt ⟨k, 0x7B :: r⟩ =
    (.object k (membersAt ⟨k + 1, r⟩).1, (membersAt ⟨k + 1, r⟩).2) :=
  valueAt_of_cons rfl r

theorem valueAt_digits {k : Nat} {b : UInt8} {r : List UInt8} (hb : b = 0x2D ∨ isDigit b = true) :
    valueAt ⟨k, b :: r⟩
      = (.number k (scanNumber ⟨k, b :: r⟩).1, (scanNumber ⟨k, b :: r⟩).2) := by
  have hblank : Cursor.isJsonBlank b = false := by
    cases hc : Cursor.isJsonBlank b with
    | false => rfl
    | true =>
      simp only [Cursor.isJsonBlank, Bool.or_eq_true, beq_iff_eq] at hc
      rcases hc with ((rfl | rfl) | rfl) | rfl <;> exact absurd hb (by decide)
  have h1 : ¬ (b == 0x22) = true ∧ ¬ (b == 0x5B) = true ∧ ¬ (b == 0x7B) = true := by
    simp only [beq_iff_eq]
    refine ⟨?_, ?_, ?_⟩ <;> rintro rfl <;> exact absurd hb (by decide)
  have h2 : (b == 0x2D || isDigit b) = true := by
    simpa using hb
  rw [valueAt_of_cons hblank, if_neg h1.1, if_neg h1.2.1, if_neg h1.2.2, if_pos h2]

section Steps

variable {k : Nat} {a b r : List UInt8} {x : UInt8} {v : Tree} {d : Cursor}

theorem itemsAt_close (ha : Blanks a) :
    itemsAt ⟨k, a ++ 0x5D :: r⟩ = (.close (k + a.length), ⟨k + a.length + 1, r⟩) := by
  rw [itemsAt_eq, Cursor.skipBlanks_append_cons ha rfl]
  rfl

theorem itemsAt_item (ha : Blanks a) (hx : Cursor.isJsonBlank x = false) (hne : x ≠ 0x5D)
    (hv : valueAt ⟨k + a.length, x :: r⟩ = (v, d)) :
    itemsAt ⟨k, a ++ x :: r⟩ = (.item v (moreItemsAt d).1, (moreItemsAt d).2) := by
  rw [itemsAt_eq, Cursor.skipBlanks_append_cons ha hx, hv]
  simp only [beq_iff_eq, if_neg hne]

theorem moreItemsAt_close (ha : Blanks a) :
    moreItemsAt ⟨k, a ++ 0x5D :: r⟩ = (.close (k + a.length), ⟨k + a.length + 1, r⟩) := by
  rw [moreItemsAt_eq, Cursor.skipBlanks_append_cons ha rfl]
  rfl

/-- Behind a comma a list goes on as behind its bracket, but that it must not be closed. -/
theorem moreItemsAt_comma (ha : Blanks a) {rest : Items}
    (h : itemsAt ⟨k + a.length + 1, r⟩ = (.item v rest, d)) :
    moreItemsAt ⟨k, a ++ 0x2C :: r⟩ = (.item v rest, d) := by
  rw [itemsAt_eq] at h
  rw [moreItemsAt_eq, Cursor.skipBlanks_append_cons ha rfl]
  show (match (Cursor.mk (k + a.length + 1) r).skipBlanks.rest with
    | [] => _
    | b' :: _ => _) = _
  split at h
  · cases h
  · rename_i c r' hr
    split at h
    · cases h
    · rename_i hc
      simp only [if_neg hc]
      exact h

theorem membersAt_close (ha : Blanks a) :
    membersAt ⟨k, a ++ 0x7D :: r⟩ = (.close (k + a.length), ⟨k + a.length + 1, r⟩) := by
  rw [membersAt_eq, Cursor.skipBlanks_append_cons ha rfl]
  rfl

theorem membersAt_key (ha : Blanks a) :
    membersAt ⟨k, a ++ 0x22 :: r⟩ = memberAt ⟨k + a.length + 1, r⟩ := by
  rw [membersAt_eq, Cursor.skipBlanks_append_cons ha rfl]
  rfl

theorem moreMembersAt_close (ha : Blanks a) :
    moreMembersAt ⟨k, a ++ 0x7D :: r⟩ = (.close (k + a.length), ⟨k + a.length + 1, r⟩) := by
  rw [moreMembersAt_eq, Cursor.skipBlanks_append_cons ha rfl]
  rfl

theorem moreMembersAt_comma (ha : Blanks a) (hb : Blanks b) :
    moreMembersAt ⟨k, a ++ 0x2C :: (b ++ 0x22 :: r)⟩
      = memberAt ⟨k + a.length + 1 + b.length + 1, r⟩ := by
  rw [moreMembersAt_eq, Cursor.skipBlanks_append_cons ha rfl]
  show (match (Cursor.mk (k + a.length + 1) (b ++ 0x22 :: r)).skipBlanks.rest with
    | [] => _
    | b' :: r' => _) = _
  rw [Cursor.skipBlanks_append_cons hb rfl]
  rfl

/-- A member is scanned key by key: the key, the colon, the value and what follows. -/
theorem memberAt_member {key : List UInt8} (hk : Content key) (ha : Blanks a)
    (hv : valueAt ⟨k + key.length + 1 + a.length + 1, r⟩ = (v, d)) :
    memberAt ⟨k, key ++ 0x22 :: (a ++ 0x3A :: r)⟩
      = (.member (textLexeme k key) (k + key.length + 1 + a.length) v d.skipBlanks.offset
          (moreMembersAt d).1, (moreMembersAt d).2) := by
  rw [memberAt_eq, scanText_of_content hk]
  simp only [Cursor.skipBlanks_append_cons ha (show Cursor.isJsonBlank 0x3A = false from rfl), hv]
  rfl

end Steps

/-! ## Whole values -/

theorem Items.MoreSource.length_pos {k : Nat} {r : List UInt8} {rest : Items}
    (h : Items.MoreSource k r rest) : 0 < r.length := by
  cases h <;> simp only [List.length_append, List.length_cons] <;> omega

theorem Members.MoreSource.length_pos {k : Nat} {r : List UInt8} {rest : Members}
    (h : Members.MoreSource k r rest) : 0 < r.length := by
  cases h <;> simp only [List.length_append, List.length_cons] <;> omega

/-- Where the blanks behind a member end does not depend on what follows the object. -/
theorem Members.MoreSource.skipBlanks_append {k : Nat} {r : List UInt8} {rest : Members}
    (h : Members.MoreSource k r rest) (j : Nat) (x : List UInt8) :
    (Cursor.skipBlanks ⟨j, r ++ x⟩).offset = (Cursor.skipBlanks ⟨j, r⟩).offset := by
  cases h with
  | close ha =>
    rw [List.append_assoc, List.singleton_append, Cursor.skipBlanks_append_cons ha rfl,
      Cursor.skipBlanks_append_cons ha rfl]
  | comma ha =>
    rw [List.append_assoc, List.cons_append, Cursor.skipBlanks_append_cons ha rfl,
      Cursor.skipBlanks_append_cons ha rfl]

theorem Tree.Source.length_pos {k : Nat} {w : List UInt8} {t : Tree} (h : Tree.Source k w t) :
    0 < w.length := by
  obtain ⟨b, r, rfl, -⟩ := h.head
  exact Nat.succ_pos _

mutual

/-- **A value is scanned as it is spelt**, whatever follows it. -/
theorem valueAt_of_source {k : Nat} {w : List UInt8} {t : Tree} (h : Tree.Source k w t) :
    ∀ rest : List UInt8, t.Stops rest → valueAt ⟨k, w ++ rest⟩ = (t, ⟨k + w.length, rest⟩) := by
  cases h with
  | null =>
    intro rest _
    exact (valueAt_of_cons rfl _).trans (namedAt_append k "ull" (.null k) rest)
  | yes =>
    intro rest _
    exact (valueAt_of_cons rfl _).trans (namedAt_append k "rue" (.bool k true) rest)
  | no =>
    intro rest _
    exact (valueAt_of_cons rfl _).trans (namedAt_append k "alse" (.bool k false) rest)
  | number h =>
    intro rest hr
    obtain ⟨b, r, rfl, hb⟩ := h.head
    have hs := scanNumber_of_source h (hr k _ rfl)
    rw [List.cons_append] at hs ⊢
    rw [valueAt_digits hb, hs]
  | text h =>
    rename_i w
    intro rest _
    have hs := scanText_of_content h (k + 1) rest
    rw [List.cons_append, List.append_assoc, List.singleton_append, valueAt_quote, hs,
      List.length_cons, List.length_append, List.length_singleton,
      show k + (w.length + 1 + 1) = k + 1 + w.length + 1 by omega]
  | list h =>
    rename_i w items
    intro rest _
    rw [List.cons_append, valueAt_bracket, itemsAt_of_source h rest, List.length_cons,
      show k + (w.length + 1) = k + 1 + w.length by omega]
  | object h =>
    rename_i w members
    intro rest _
    rw [List.cons_append, valueAt_brace, membersAt_of_source h rest, List.length_cons,
      show k + (w.length + 1) = k + 1 + w.length by omega]
termination_by w.length
decreasing_by all_goals exact Nat.lt_succ_self _

/-- Written items are scanned to the closing bracket, whatever follows. -/
theorem itemsAt_of_source {k : Nat} {w : List UInt8} {items : Items} (h : Items.Source k w items)
    (rest : List UInt8) : itemsAt ⟨k, w ++ rest⟩ = (items, ⟨k + w.length, rest⟩) := by
  cases h with
  | close ha =>
    rename_i a
    rw [List.append_assoc, List.singleton_append, itemsAt_close ha, List.length_append]
    rfl
  | item ha hv hr =>
    rename_i a w r v more
    have hw := hv.length_pos
    have hr0 := hr.length_pos
    have hs := valueAt_of_source hv (r ++ rest) (fun _ _ _ => hr.ends rest)
    have hm := moreItemsAt_of_source hr rest
    obtain ⟨b, w', rfl, hb, hne⟩ := hv.head
    rw [List.cons_append] at hs
    rw [List.append_assoc, List.append_assoc, List.cons_append, itemsAt_item ha hb hne hs, hm,
      List.length_append, List.length_append,
      show k + (a.length + ((b :: w').length + r.length))
        = k + a.length + (b :: w').length + r.length by omega]
termination_by w.length
decreasing_by all_goals simp only [List.length_append]; omega

theorem moreItemsAt_of_source {k : Nat} {w : List UInt8} {items : Items}
    (h : Items.MoreSource k w items) (rest : List UInt8) :
    moreItemsAt ⟨k, w ++ rest⟩ = (items, ⟨k + w.length, rest⟩) := by
  cases h with
  | close ha =>
    rw [List.append_assoc, List.singleton_append, moreItemsAt_close ha, List.length_append]
    rfl
  | comma ha h =>
    rename_i a w v more
    rw [List.append_assoc, List.cons_append, moreItemsAt_comma ha (itemsAt_of_source h rest),
      List.length_append, List.length_cons,
      show k + (a.length + (w.length + 1)) = k + a.length + 1 + w.length by omega]
termination_by w.length
decreasing_by simp only [List.length_append, List.length_cons]; omega

/-- Written members are scanned to the closing brace, whatever follows. -/
theorem membersAt_of_source {k : Nat} {w : List UInt8} {members : Members}
    (h : Members.Source k w members) (rest : List UInt8) :
    membersAt ⟨k, w ++ rest⟩ = (members, ⟨k + w.length, rest⟩) := by
  cases h with
  | close ha =>
    rw [List.append_assoc, List.singleton_append, membersAt_close ha, List.length_append]
    rfl
  | member ha h =>
    rename_i a w
    rw [List.append_assoc, List.cons_append, membersAt_key ha, memberAt_of_source h rest,
      List.length_append, List.length_cons,
      show k + (a.length + (w.length + 1)) = k + a.length + 1 + w.length by omega]
termination_by w.length
decreasing_by simp only [List.length_append, List.length_cons]; omega

theorem memberAt_of_source {k : Nat} {w : List UInt8} {members : Members}
    (h : Members.KeySource k w members) (rest : List UInt8) :
    memberAt ⟨k, w ++ rest⟩ = (members, ⟨k + w.length, rest⟩) := by
  cases h with
  | mk hk ha hb hv hr =>
    rename_i key a b w r v more
    have hw := hv.length_pos
    have hr0 := hr.length_pos
    have hs := valueAt_of_source hv (r ++ rest) (fun _ _ _ => hr.ends rest)
    have hm := moreMembersAt_of_source hr rest
    have hv' : valueAt ⟨k + key.length + 1 + a.length + 1, b ++ (w ++ (r ++ rest))⟩ = _ :=
      (valueAt_congr (Cursor.skipBlanks_append hb _ _)).trans hs
    simp only [List.append_assoc, List.cons_append]
    rw [memberAt_member hk ha hv', hm, hr.skipBlanks_append,
      show k + (key ++ 0x22 :: (a ++ 0x3A :: (b ++ (w ++ r)))).length
        = k + key.length + 1 + a.length + 1 + b.length + w.length + r.length by
      simp only [List.length_append, List.length_cons]
      omega]
termination_by w.length
decreasing_by all_goals simp only [List.length_append, List.length_cons]; omega

theorem moreMembersAt_of_source {k : Nat} {w : List UInt8} {members : Members}
    (h : Members.MoreSource k w members) (rest : List UInt8) :
    moreMembersAt ⟨k, w ++ rest⟩ = (members, ⟨k + w.length, rest⟩) := by
  cases h with
  | close ha =>
    rw [List.append_assoc, List.singleton_append, moreMembersAt_close ha, List.length_append]
    rfl
  | comma ha hb h =>
    rename_i a b w
    rw [List.append_assoc, List.cons_append, List.append_assoc, List.cons_append,
      moreMembersAt_comma ha hb, memberAt_of_source h rest]
    simp only [List.length_append, List.length_cons]
    rw [show k + (a.length + (b.length + (w.length + 1) + 1))
      = k + a.length + 1 + b.length + 1 + w.length by omega]
termination_by w.length
decreasing_by simp only [List.length_append, List.length_cons]; omega

end

end FluentBuilders.Json
