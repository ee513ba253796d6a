/-
  Soundness — what is scanned without an obstacle follows the grammar.

  The scanner always returns a tree.  Where the text is wrong the tree holds what was found there,
  and a reader that passes over it meets an obstacle; a tree with no obstacle is therefore one of
  the grammar, and the bytes that were passed are its source.
-/
import FluentBuilders.Json.Reading
import FluentBuilders.Proofs.Json.Scanning

namespace FluentBuilders.Json

theorem orElse_eq_none {α : Type} {x y : Option α} (h : (x <|> y) = none) :
    x = none ∧ y = none := by
  cases x with
  | none => exact ⟨rfl, h⟩
  | some => cases h

/-! ## Cursors -/

theorem valueAt_size (c : Cursor) : (valueAt c).2.size ≤ c.size := (scanValue c).2.2

theorem size_of_skipBlanks {c : Cursor} {b : UInt8} {r : List UInt8}
    (h : c.skipBlanks.rest = b :: r) : r.length < c.size := by
  have hs := c.size_skipBlanks
  rw [Cursor.size, h, List.length_cons] at hs
  exact hs

theorem Cursor.head_skipBlanks {c : Cursor} {b : UInt8} {r : List UInt8}
    (h : c.skipBlanks.rest = b :: r) : Cursor.isJsonBlank b = false := by
  obtain ⟨k, l⟩ := c
  induction l generalizing k with
  | nil => cases h
  | cons x l ih =>
    cases hx : Cursor.isJsonBlank x with
    | true =>
      have hs : Cursor.skipBlanks ⟨k, x :: l⟩ = Cursor.skipBlanks ⟨k + 1, l⟩ := by
        simp only [Cursor.skipBlanks, Cursor.pastBlanks, hx, if_true]
      rw [hs] at h
      exact ih (k + 1) h
    | false =>
      rw [Cursor.skipBlanks_cons hx] at h
      cases h
      exact hx

/-- The blanks at a cursor and what follows them. -/
theorem Cursor.exists_skipBlanks (c : Cursor) :
    ∃ a r, Blanks a ∧ c = ⟨c.offset, a ++ r⟩ ∧ c.skipBlanks = ⟨c.offset + a.length, r⟩ := by
  obtain ⟨a, ha, hr, ho⟩ := c.took_skipBlanks
  refine ⟨a, c.skipBlanks.rest, ha, ?_, ?_⟩
  · rw [← hr]
  · rw [← ho]

theorem Cursor.Took.of_append {k : Nat} {a r w : List UInt8} {d : Cursor}
    (h : Cursor.Took ⟨k + a.length, r⟩ w d) : Cursor.Took ⟨k, a ++ r⟩ (a ++ w) d :=
  Cursor.Took.trans ⟨rfl, rfl⟩ h

theorem took_close (k : Nat) (a : List UInt8) {b : UInt8} (r : List UInt8) :
    Cursor.Took ⟨k, a ++ b :: r⟩ (a ++ [b]) ⟨k + a.length + 1, r⟩ := by
  constructor
  · rw [List.append_assoc, List.singleton_append]
  · rw [List.length_append, List.length_singleton, Nat.add_assoc]

theorem valueAt_skipBlanks (c : Cursor) : valueAt c.skipBlanks = valueAt c :=
  valueAt_congr c.skipBlanks_skipBlanks

/-! ## Words, numbers and strings -/

/-- A named value without an obstacle was written there. -/
theorem source_of_named {k : Nat} {b : UInt8} {word : String} {value : Nat → Tree}
    {r : List UInt8} (h : (namedAt k word value r).1.obstacle = none)
    (hs : Tree.Source k (b :: Text.Utf8.encode word.toList)
      (value (k + 1 + (Text.Utf8.encode word.toList).length))) :
    ∃ w, Cursor.Took ⟨k, b :: r⟩ w (namedAt k word value r).2 ∧
      Tree.Source k w (namedAt k word value r).1 := by
  rcases namedAt_cases k word value r with ⟨f, hf⟩ | ⟨d, ht, he⟩
  · rw [hf] at h
    cases h
  · rw [he]
    refine ⟨_, ht.of_cons, ?_⟩
    rw [ht.2]
    exact hs

/-- A number without a flaw was written there. -/
theorem source_of_number {k : Nat} {r : List UInt8} (h : (scanNumber ⟨k, r⟩).1.skip = none) :
    ∃ w, Cursor.Took ⟨k, r⟩ w (scanNumber ⟨k, r⟩).2 ∧
      Tree.Source k w (.number k (scanNumber ⟨k, r⟩).1) := by
  rcases scanNumber_cases ⟨k, r⟩ with ⟨c, hc⟩ | ⟨w, t, d, hw, ht, he⟩
  · rw [hc] at h
    cases h
  · rw [he]
    refine ⟨w, ht, ?_⟩
    rw [ht.2]
    exact .number hw

/-- A text without a flaw was written there. -/
theorem source_of_text {k : Nat} {r : List UInt8} (h : (scanText ⟨k + 1, r⟩).1.skip = none) :
    ∃ w, Cursor.Took ⟨k, 0x22 :: r⟩ w (scanText ⟨k + 1, r⟩).2 ∧
      Tree.Source k w (.text k (scanText ⟨k + 1, r⟩).1) := by
  rcases scanText_cases ⟨k + 1, r⟩ with ⟨f, g, -, hg⟩ | ⟨w, hw, ht, he⟩
  · cases hg.symm.trans h
  · refine ⟨0x22 :: (w ++ [0x22]), ht.of_cons, ?_⟩
    rw [he]
    exact .text hw

/-! ## Behind a comma -/

/-- Behind a comma a list goes on as behind its bracket, or there is an obstacle. -/
theorem moreItemsAt_comma_cases (k : Nat) {a : List UInt8} (ha : Blanks a) (r : List UInt8) :
    (moreItemsAt ⟨k, a ++ 0x2C :: r⟩).1.obstacle ≠ none ∨
      ∃ v rest, (itemsAt ⟨k + a.length + 1, r⟩).1 = .item v rest ∧
        moreItemsAt ⟨k, a ++ 0x2C :: r⟩ = itemsAt ⟨k + a.length + 1, r⟩ := by
  obtain ⟨b, l, hb, hc, hs⟩ := Cursor.exists_skipBlanks ⟨k + a.length + 1, r⟩
  have hm := moreItemsAt_eq ⟨k, a ++ 0x2C :: r⟩
  rw [Cursor.skipBlanks_append_cons ha rfl] at hm
  cases l with
  | nil =>
    left
    rw [hm]
    simp only [hs]
    exact Option.some_ne_none _
  | cons x l =>
    by_cases hx : x = 0x5D
    · left
      rw [hm]
      simp only [hs, hx]
      exact Option.some_ne_none _
    · right
      have hi := itemsAt_eq ⟨k + a.length + 1, r⟩
      rw [hs] at hi
      simp only [beq_iff_eq, if_neg hx] at hi
      exact ⟨_, _, by rw [hi], (moreItemsAt_comma ha hi).trans hi.symm⟩

/-- Behind a comma an object goes on with a key, or there is an obstacle. -/
theorem moreMembersAt_comma_cases (k : Nat) {a : List UInt8} (ha : Blanks a) (r : List UInt8) :
    (moreMembersAt ⟨k, a ++ 0x2C :: r⟩).1.obstacle ≠ none ∨
      ∃ b l, Blanks b ∧ r = b ++ 0x22 :: l := by
  obtain ⟨b, l, hb, hc, hs⟩ := Cursor.exists_skipBlanks ⟨k + a.length + 1, r⟩
  have hm := moreMembersAt_eq ⟨k, a ++ 0x2C :: r⟩
  rw [Cursor.skipBlanks_append_cons ha rfl] at hm
  cases l with
  | nil =>
    left
    rw [hm]
    simp only [hs]
    exact Option.some_ne_none _
  | cons x l =>
    by_cases hx : x = 0x22
    · right
      rw [hx] at hc
      exact ⟨b, l, hb, congrArg Cursor.rest hc⟩
    · left
      rw [hm]
      simp only [hs, beq_iff_eq, if_neg hx]
      show Members.obstacle (Prod.fst (if x = 0x7D then _ else _)) ≠ none
      split <;> exact Option.some_ne_none _

theorem memberAt_obstacle_of_skip {c : Cursor} {f : Fault} (h : (scanText c).1.skip = some f) :
    (memberAt c).1.obstacle ≠ none := by
  have hk : ∀ o : Option Fault, ((scanText c).1.skip <|> o) ≠ none := by
    intro o
    rw [h]
    exact Option.some_ne_none _
  rw [memberAt_eq]
  dsimp only
  split
  · exact hk _
  · split
    · exact hk _
    · exact hk _

/-! ## Values -/

mutual

/-- **What is scanned without an obstacle is spelt there**: blanks, and then the bytes of the
    value. -/
theorem source_of_valueAt (c : Cursor) (h : (valueAt c).1.obstacle = none) :
    ∃ a w, Blanks a ∧ c.Took (a ++ w) (valueAt c).2 ∧
      Tree.Source (c.offset + a.length) w (valueAt c).1 := by
  obtain ⟨a, l, ha, hc, hs⟩ := c.exists_skipBlanks
  cases l with
  | nil =>
    rw [valueAt_eq, hs] at h
    cases h
  | cons b r =>
    have hlt : r.length < c.size := size_of_skipBlanks (by rw [hs])
    have hb : Cursor.isJsonBlank b = false := Cursor.head_skipBlanks (by rw [hs])
    have hv : valueAt c = valueAt ⟨c.offset + a.length, b :: r⟩ := by
      rw [← hs]
      exact valueAt_congr c.skipBlanks_skipBlanks.symm
    rw [hv] at h ⊢
    suffices hw : ∃ w, Cursor.Took ⟨c.offset + a.length, b :: r⟩ w
        (valueAt ⟨c.offset + a.length, b :: r⟩).2 ∧
        Tree.Source (c.offset + a.length) w (valueAt ⟨c.offset + a.length, b :: r⟩).1 by
      obtain ⟨w, ht, hw⟩ := hw
      refine ⟨a, w, ha, ?_, hw⟩
      rw [hc]
      exact ht.of_append
    generalize c.offset + a.length = k at h ⊢
    rw [valueAt_of_cons hb] at h ⊢
    by_cases h1 : b = 0x22
    · subst h1
      exact source_of_text h
    by_cases h2 : b = 0x5B
    · subst h2
      obtain ⟨w, ht, hw⟩ := source_of_itemsAt ⟨k + 1, r⟩ h
      exact ⟨0x5B :: w, ht.of_cons, .list hw⟩
    by_cases h3 : b = 0x7B
    · subst h3
      obtain ⟨w, ht, hw⟩ := source_of_membersAt ⟨k + 1, r⟩ h
      exact ⟨0x7B :: w, ht.of_cons, .object hw⟩
    simp only [beq_iff_eq, if_neg h1, if_neg h2, if_neg h3] at h ⊢
    split at h
    · rename_i h4
      rw [if_pos h4]
      exact source_of_number h
    rename_i h4
    rw [if_neg h4]
    by_cases h5 : b = 0x6E
    · subst h5
      exact source_of_named h .null
    by_cases h6 : b = 0x74
    · subst h6
      exact source_of_named h .yes
    by_cases h7 : b = 0x66
    · subst h7
      exact source_of_named h .no
    rw [if_neg h5, if_neg h6, if_neg h7] at h
    cases h
termination_by 3 * c.size + 0
decreasing_by all_goals exact measure_lt hlt (by decide)

/-- Items without an obstacle were written there. -/
theorem source_of_itemsAt (c : Cursor) (h : (itemsAt c).1.obstacle = none) :
    ∃ w, c.Took w (itemsAt c).2 ∧ Items.Source c.offset w (itemsAt c).1 := by
  obtain ⟨a, l, ha, hc, hs⟩ := c.exists_skipBlanks
  have hd : (valueAt c).2.size ≤ c.size := valueAt_size c
  cases l with
  | nil =>
    rw [itemsAt_eq, hs] at h
    cases h
  | cons b r =>
    by_cases h1 : b = 0x5D
    · subst h1
      rw [hc, itemsAt_close ha]
      exact ⟨a ++ [0x5D], took_close c.offset a _, .close ha⟩
    · have he : itemsAt c
          = (.item (valueAt c).1 (moreItemsAt (valueAt c).2).1, (moreItemsAt (valueAt c).2).2) := by
        rw [itemsAt_eq, hs, ← valueAt_skipBlanks c, hs]
        simp only [beq_iff_eq, if_neg h1]
      rw [he] at h ⊢
      obtain ⟨hv, hr⟩ := orElse_eq_none h
      obtain ⟨a', w, ha', ht, hw⟩ := source_of_valueAt c hv
      obtain ⟨r', htr, hr'⟩ := source_of_moreItemsAt (valueAt c).2 hr
      rw [ht.2, List.length_append, ← Nat.add_assoc] at hr'
      refine ⟨a' ++ (w ++ r'), ?_, .item ha' hw hr'⟩
      rw [← List.append_assoc]
      exact ht.trans htr
termination_by 3 * c.size + 2
decreasing_by all_goals omega

theorem source_of_moreItemsAt (c : Cursor) (h : (moreItemsAt c).1.obstacle = none) :
    ∃ w, c.Took w (moreItemsAt c).2 ∧ Items.MoreSource c.offset w (moreItemsAt c).1 := by
  obtain ⟨a, l, ha, hc, hs⟩ := c.exists_skipBlanks
  cases l with
  | nil =>
    rw [moreItemsAt_eq, hs] at h
    cases h
  | cons b r =>
    have hlt : r.length < c.size := size_of_skipBlanks (by rw [hs])
    by_cases h1 : b = 0x5D
    · subst h1
      rw [hc, moreItemsAt_close ha]
      exact ⟨a ++ [0x5D], took_close c.offset a _, .close ha⟩
    by_cases h2 : b = 0x2C
    · subst h2
      rw [hc] at h ⊢
      rcases moreItemsAt_comma_cases c.offset ha r with hf | ⟨v, rest, hi, he⟩
      · exact absurd h hf
      · rw [he] at h ⊢
        obtain ⟨w, ht, hw⟩ := source_of_itemsAt ⟨c.offset + a.length + 1, r⟩ h
        refine ⟨a ++ 0x2C :: w, ht.of_cons.of_append, ?_⟩
        rw [hi] at hw ⊢
        exact .comma ha hw
    · rw [moreItemsAt_eq, hs] at h
      simp only [beq_iff_eq, if_neg h1, if_neg h2] at h
      cases h
termination_by 3 * c.size + 1
decreasing_by exact measure_lt hlt (by decide)

/-- Members without an obstacle were written there. -/
theorem source_of_membersAt (c : Cursor) (h : (membersAt c).1.obstacle = none) :
    ∃ w, c.Took w (membersAt c).2 ∧ Members.Source c.offset w (membersAt c).1 := by
  obtain ⟨a, l, ha, hc, hs⟩ := c.exists_skipBlanks
  cases l with
  | nil =>
    rw [membersAt_eq, hs] at h
    cases h
  | cons b r =>
    have hlt : r.length < c.size := size_of_skipBlanks (by rw [hs])
    by_cases h1 : b = 0x7D
    · subst h1
      rw [hc, membersAt_close ha]
      exact ⟨a ++ [0x7D], took_close c.offset a _, .close ha⟩
    by_cases h2 : b = 0x22
    · subst h2
      rw [hc, membersAt_key ha] at h ⊢
      obtain ⟨w, ht, hw⟩ := source_of_memberAt ⟨c.offset + a.length + 1, r⟩ h
      exact ⟨a ++ 0x22 :: w, ht.of_cons.of_append, .member ha hw⟩
    · rw [membersAt_eq, hs] at h
      simp only [beq_iff_eq, if_neg h1, if_neg h2] at h
      cases h
termination_by 3 * c.size + 2
decreasing_by exact measure_lt hlt (by decide)

theorem source_of_memberAt (c : Cursor) (h : (memberAt c).1.obstacle = none) :
    ∃ w, c.Took w (memberAt c).2 ∧ Members.KeySource c.offset w (memberAt c).1 := by
  rcases scanText_cases c with ⟨f, g, -, hg⟩ | ⟨key, hk, ht, he⟩
  · exact absurd h (memberAt_obstacle_of_skip hg)
  have hm := memberAt_eq c
  have hsize := size_scanText c
  rw [he] at hm
  generalize (scanText c).2 = p at hm ht hsize
  obtain ⟨o, l⟩ := p
  have ho : o = c.offset + key.length + 1 := by
    rw [show o = _ from ht.2, List.length_append, List.length_singleton, Nat.add_assoc]
  subst ho
  obtain ⟨a, l, ha, hc, hs⟩ := Cursor.exists_skipBlanks ⟨c.offset + key.length + 1, l⟩
  cases hc
  rw [hs] at hm
  cases l with
  | nil =>
    rw [hm] at h
    cases h
  | cons b r =>
    by_cases hb : b = 0x3A
    · subst hb
      simp only [beq_self_eq_true, if_true] at hm
      have hlt : r.length < c.size := by
        have : (a ++ 0x3A :: r).length ≤ c.size := hsize
        rw [List.length_append, List.length_cons] at this
        omega
      have hd : (valueAt ⟨c.offset + key.length + 1 + a.length + 1, r⟩).2.size ≤ r.length :=
        valueAt_size _
      rw [hm] at h ⊢
      obtain ⟨hv, hr⟩ := orElse_eq_none (orElse_eq_none h).2
      obtain ⟨b, w, hb, htv, hw⟩ := source_of_valueAt _ hv
      obtain ⟨r', htr, hr'⟩ := source_of_moreMembersAt _ hr
      have hoff := htv.2
      rw [List.length_append, ← Nat.add_assoc] at hoff
      generalize (valueAt ⟨c.offset + key.length + 1 + a.length + 1, r⟩).2 = d
        at htv htr hr' hoff ⊢
      refine ⟨key ++ 0x22 :: (a ++ 0x3A :: (b ++ (w ++ r'))), ?_, ?_⟩
      · have := ht.trans (htv.trans htr).of_cons.of_append
        simp only [List.append_assoc, List.singleton_append] at this
        exact this
      · have hnext := hr'.skipBlanks_append d.offset (moreMembersAt d).2.rest
        rw [← htr.1] at hnext
        rw [hnext, hoff]
        rw [hoff] at hr'
        exact .mk hk ha hb hw hr'
    · simp only [beq_iff_eq, if_neg hb] at hm
      rw [hm] at h
      cases h
termination_by 3 * c.size + 1
decreasing_by
  · exact measure_lt hlt (by decide)
  · exact measure_lt (Nat.lt_of_le_of_lt hd hlt) (by decide)

theorem source_of_moreMembersAt (c : Cursor) (h : (moreMembersAt c).1.obstacle = none) :
    ∃ w, c.Took w (moreMembersAt c).2 ∧ Members.MoreSource c.offset w (moreMembersAt c).1 := by
  obtain ⟨a, l, ha, hc, hs⟩ := c.exists_skipBlanks
  cases l with
  | nil =>
    rw [moreMembersAt_eq, hs] at h
    cases h
  | cons b r =>
    have hlt : r.length < c.size := size_of_skipBlanks (by rw [hs])
    by_cases h1 : b = 0x7D
    · subst h1
      rw [hc, moreMembersAt_close ha]
      exact ⟨a ++ [0x7D], took_close c.offset a _, .close ha⟩
    by_cases h2 : b = 0x2C
    · subst h2
      rw [hc] at h ⊢
      rcases moreMembersAt_comma_cases c.offset ha r with hf | ⟨b, l, hb, rfl⟩
      · exact absurd h hf
      · have hl : l.length < c.size := by
          rw [List.length_append, List.length_cons] at hlt
          omega
        rw [moreMembersAt_comma ha hb] at h ⊢
        obtain ⟨w, ht, hw⟩ := source_of_memberAt _ h
        exact ⟨a ++ 0x2C :: (b ++ 0x22 :: w), ht.of_cons.of_append.of_cons.of_append,
          .comma ha hb hw⟩
    · rw [moreMembersAt_eq, hs] at h
      simp only [beq_iff_eq, if_neg h1, if_neg h2] at h
      cases h
termination_by 3 * c.size + 2
decreasing_by exact measure_lt hl (by decide)

end

/-! ## The two verdicts -/

/-- A reader that needs the value is never content with less than one that passes over it. -/
def Lexeme.Consistent {α : Type} (l : Lexeme α) : Prop := ∀ a, l.read = .ok a → l.skip = none

mutual

/-- Every string and number of a value is consistent. -/
def Tree.Consistent : Tree → Prop
  | .number _ l => l.Consistent
  | .text _ l => l.Consistent
  | .list _ items => items.Consistent
  | .object _ members => members.Consistent
  | .absent _ | .junk _ _ | .null _ _ | .bool _ _ _ => True

/-- Every string and number of the rest of a list is consistent. -/
def Items.Consistent : Items → Prop
  | .item v rest => v.Consistent ∧ rest.Consistent
  | .close _ | .cut _ | .junk _ | .surplusComma _ | .commaCut _ => True

/-- Every string and number of the rest of an object is consistent, up to where reading must
    stop. -/
def Members.Consistent : Members → Prop
  | .member key _ v _ rest => key.Consistent ∧ v.Consistent ∧ rest.Consistent
  | .close _ | .cut _ | .noKey _ | .junk _ | .surplusComma _ | .commaCut _ | .noColon _ _ _ _ =>
    True

end

/-- A text that can be read can also be passed over. -/
theorem consistent_scanText (c : Cursor) : (scanText c).1.Consistent := by
  rcases scanText_cases c with ⟨f, g, hf, -⟩ | ⟨w, -, -, he⟩
  · intro a ha
    cases hf.symm.trans ha
  · intro a _
    rw [he]
    rfl

/-- So can a number. -/
theorem consistent_scanNumber (c : Cursor) : (scanNumber c).1.Consistent := by
  rcases scanNumber_cases c with ⟨c', hc⟩ | ⟨w, t, d, -, -, he⟩
  · intro a ha
    rw [hc] at ha
    cases ha
  · intro a _
    rw [he]
    rfl

theorem consistent_namedAt (k : Nat) (word : String) {value : Nat → Tree} (r : List UInt8)
    (h : ∀ n, (value n).Consistent) : (namedAt k word value r).1.Consistent := by
  rcases namedAt_cases k word value r with ⟨f, hf⟩ | ⟨d, -, he⟩
  · rw [hf]
    trivial
  · rw [he]
    exact h _

mutual

/-- **A scanned value is consistent.** -/
theorem consistent_valueAt (c : Cursor) : (valueAt c).1.Consistent := by
  rw [valueAt_eq]
  split
  · trivial
  · rename_i b r hr
    have hlt := size_of_skipBlanks hr
    dsimp only
    split
    · exact consistent_scanText _
    split
    · exact consistent_itemsAt _
    split
    · exact consistent_membersAt _
    split
    · exact consistent_scanNumber _
    split
    · exact consistent_namedAt _ _ _ fun _ => trivial
    split
    · exact consistent_namedAt _ _ _ fun _ => trivial
    split
    · exact consistent_namedAt _ _ _ fun _ => trivial
    · trivial
termination_by 3 * c.size + 0
decreasing_by all_goals exact measure_lt hlt (by decide)

theorem consistent_itemsAt (c : Cursor) : (itemsAt c).1.Consistent := by
  rw [itemsAt_eq]
  have hc := c.size_skipBlanks
  have hd := valueAt_size c.skipBlanks
  split
  · trivial
  · split
    · trivial
    · exact ⟨consistent_valueAt _, consistent_moreItemsAt _⟩
termination_by 3 * c.size + 2
decreasing_by all_goals omega

theorem consistent_moreItemsAt (c : Cursor) : (moreItemsAt c).1.Consistent := by
  rw [moreItemsAt_eq]
  split
  · trivial
  · rename_i b r hr
    have hlt := size_of_skipBlanks hr
    have hn : (Cursor.skipBlanks ⟨c.skipBlanks.offset + 1, r⟩).size ≤ r.length :=
      Cursor.size_skipBlanks _
    have hd := valueAt_size (Cursor.skipBlanks ⟨c.skipBlanks.offset + 1, r⟩)
    split
    · trivial
    split
    · dsimp only
      split
      · trivial
      · split
        · trivial
        · exact ⟨consistent_valueAt _, consistent_moreItemsAt _⟩
    · trivial
termination_by 3 * c.size + 1
decreasing_by all_goals omega

theorem consistent_membersAt (c : Cursor) : (membersAt c).1.Consistent := by
  rw [membersAt_eq]
  split
  · trivial
  · rename_i b r hr
    have hlt := size_of_skipBlanks hr
    split
    · trivial
    split
    · exact consistent_memberAt _
    · trivial
termination_by 3 * c.size + 2
decreasing_by exact measure_lt hlt (by decide)

theorem consistent_memberAt (c : Cursor) : (memberAt c).1.Consistent := by
  rw [memberAt_eq]
  dsimp only
  split
  · trivial
  · rename_i b r hr
    have hlt := Nat.lt_of_lt_of_le (size_of_skipBlanks hr) (size_scanText c)
    have hd : (valueAt ⟨(scanText c).2.skipBlanks.offset + 1, r⟩).2.size ≤ r.length :=
      valueAt_size _
    split
    · exact ⟨consistent_scanText c, consistent_valueAt _, consistent_moreMembersAt _⟩
    · trivial
termination_by 3 * c.size + 1
decreasing_by
  · exact measure_lt hlt (by decide)
  · exact measure_lt (Nat.lt_of_le_of_lt hd hlt) (by decide)

theorem consistent_moreMembersAt (c : Cursor) : (moreMembersAt c).1.Consistent := by
  rw [moreMembersAt_eq]
  split
  · trivial
  · rename_i b r hr
    have hlt := size_of_skipBlanks hr
    split
    · trivial
    split
    · dsimp only
      split
      · trivial
      · rename_i b' r' hm
        have hlt' : r'.length < r.length := size_of_skipBlanks hm
        split
        · trivial
        split
        · exact consistent_memberAt _
        · trivial
    · trivial
termination_by 3 * c.size + 2
decreasing_by exact measure_lt (Nat.lt_trans hlt' hlt) (by decide)

end

end FluentBuilders.Json
