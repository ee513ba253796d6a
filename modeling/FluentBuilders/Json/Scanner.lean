/-
  Scanning — from the bytes of a JSON text to its located tree.

  Each step returns the tree of what it read together with the cursor behind it and the fact that
  no more is left than before; a list or an object goes on only after at least one byte, so the
  scan ends with the text.  The measure is three times what is left and, for the functions that
  may call another one at the same place, one or two more.
-/
import FluentBuilders.Json.Tree

namespace FluentBuilders.Json

/-! ## What is left after a string, a number or a word -/

theorem size_passText {k : Nat} {l : List UInt8} {d : Cursor} (h : passText k l = .ok d) :
    d.size ≤ l.length := by
  fun_induction passText k l <;> simp_all [Cursor.size] <;> try omega
  all_goals (subst h; simp)

theorem size_scanText (c : Cursor) : (scanText c).2.size ≤ c.size := by
  unfold scanText
  split
  · next d hd => exact size_passText hd
  · simp [Cursor.size]

theorem size_takeDigits (c : Cursor) : (takeDigits c).2.size ≤ c.size := by
  simp only [takeDigits, Cursor.size]
  exact (List.dropWhile_suffix _).length_le

theorem size_badNumber (c : Cursor) : (badNumber c).2.size ≤ c.size := by
  simp [badNumber, Cursor.size]

theorem size_scanExponent (t : NumberText) (c : Cursor) : (scanExponent t c).2.size ≤ c.size := by
  unfold scanExponent
  split
  · next b r hr =>
    split
    · split
      next negative c' hc =>
      have hle : c'.size ≤ c.size := by
        revert hc
        split
        · split
          · rintro ⟨⟩; simp [Cursor.size, hr]; omega
          · split
            · rintro ⟨⟩; simp [Cursor.size, hr]; omega
            · rintro ⟨⟩; simp [Cursor.size, hr]
        · rintro ⟨⟩; simp [Cursor.size]
      have hd := size_takeDigits c'
      split
      next ds d hds =>
      simp only [hds] at hd
      split
      · exact Nat.le_trans (size_badNumber c') hle
      · exact Nat.le_trans hd hle
    · simp
  · simp

theorem size_scanFraction (t : NumberText) (c : Cursor) : (scanFraction t c).2.size ≤ c.size := by
  unfold scanFraction
  split
  · next b r hr =>
    have hle : Cursor.size ⟨c.offset + 1, r⟩ ≤ c.size := by simp [Cursor.size, hr]
    split
    · have hd := size_takeDigits ⟨c.offset + 1, r⟩
      split
      next ds d hds =>
      simp only [hds] at hd
      split
      · exact Nat.le_trans (size_badNumber _) hle
      · exact Nat.le_trans (size_scanExponent _ d) (Nat.le_trans hd hle)
    · exact size_scanExponent t c
  · exact size_scanExponent t c

theorem size_scanDigits (negative : Bool) (c : Cursor) :
    (scanDigits negative c).2.size ≤ c.size := by
  unfold scanDigits
  have hd := size_takeDigits c
  have hlen : (takeDigits c).1.length ≤ c.size := by
    simp only [takeDigits, Cursor.size]
    exact (List.takeWhile_prefix _).length_le
  split
  next ds d hds =>
  simp only [hds] at hd hlen
  split
  · exact size_badNumber c
  · split
    · refine Nat.le_trans (size_badNumber _) ?_
      simp only [Cursor.size, List.length_cons] at hlen ⊢
      omega
    · exact Nat.le_trans (size_scanFraction _ d) hd

theorem size_scanNumber (c : Cursor) : (scanNumber c).2.size ≤ c.size := by
  unfold scanNumber
  split
  · next b r hr =>
    split
    · exact Nat.le_trans (size_scanDigits true _) (by simp [Cursor.size, hr])
    · exact size_scanDigits false c
  · exact size_badNumber c

theorem size_scanWord {k : Nat} {word text : List UInt8} {d : Cursor}
    (h : scanWord k word text = .ok d) : d.size ≤ text.length := by
  fun_induction scanWord k word text <;> simp_all [Cursor.size]
  · subst h; simp
  · omega

/-! ## Words -/

/-- One of the three words, whose first letter is passed: the tree and the cursor behind it. -/
def scanNamed (start : Nat) (word : String) (value : Nat → Tree) (r : List UInt8) :
    Tree × { d : Cursor // d.size ≤ r.length } :=
  match h : scanWord (start + 1) (Text.Utf8.encode word.toList) r with
  | .ok d => (value d.offset, ⟨d, size_scanWord h⟩)
  | .error f => (.junk start f, ⟨⟨f.offset, []⟩, by simp [Cursor.size]⟩)

/-! ## Values -/

/-- A function that goes on after a byte is nearer to the end, whichever function it is. -/
theorem measure_lt {m n j k : Nat} (h : m < n) (hj : j < 3) : 3 * m + j < 3 * n + k := by omega

mutual

/-- The value at a cursor. -/
def scanValue (c : Cursor) : Tree × { d : Cursor // d.size ≤ c.size } :=
  have hc : c.skipBlanks.size ≤ c.size := c.size_skipBlanks
  let k := c.skipBlanks.offset
  match hr : c.skipBlanks.rest with
  | [] => (.absent k, ⟨c.skipBlanks, hc⟩)
  | b :: r =>
    have hlt : r.length < c.size := by
      simp only [Cursor.size, hr, List.length_cons] at hc ⊢; omega
    if b == 0x22 then
      let s := scanText ⟨k + 1, r⟩
      (.text k s.1, ⟨s.2, Nat.le_trans (size_scanText ⟨k + 1, r⟩) (Nat.le_of_lt hlt)⟩)
    else if b == 0x5B then
      let (items, d) := scanItems ⟨k + 1, r⟩
      (.list k items, ⟨d.1, Nat.le_trans d.2 (Nat.le_of_lt hlt)⟩)
    else if b == 0x7B then
      let (members, d) := scanMembers ⟨k + 1, r⟩
      (.object k members, ⟨d.1, Nat.le_trans d.2 (Nat.le_of_lt hlt)⟩)
    else if b == 0x2D || isDigit b then
      let n := scanNumber c.skipBlanks
      (.number k n.1, ⟨n.2, Nat.le_trans (size_scanNumber c.skipBlanks) hc⟩)
    else if b == 0x6E then
      let (t, d) := scanNamed k "ull" (.null k) r
      (t, ⟨d.1, Nat.le_trans d.2 (Nat.le_of_lt hlt)⟩)
    else if b == 0x74 then
      let (t, d) := scanNamed k "rue" (.bool k true) r
      (t, ⟨d.1, Nat.le_trans d.2 (Nat.le_of_lt hlt)⟩)
    else if b == 0x66 then
      let (t, d) := scanNamed k "alse" (.bool k false) r
      (t, ⟨d.1, Nat.le_trans d.2 (Nat.le_of_lt hlt)⟩)
    else (.junk k ⟨k + 1, .noValue⟩, ⟨c.skipBlanks, hc⟩)
termination_by 3 * c.size + 0
decreasing_by
  all_goals exact measure_lt hlt (by decide)

/-- The items of a list from behind its bracket. -/
def scanItems (c : Cursor) : Items × { d : Cursor // d.size ≤ c.size } :=
  have hc : c.skipBlanks.size ≤ c.size := c.size_skipBlanks
  let k := c.skipBlanks.offset
  match hr : c.skipBlanks.rest with
  | [] => (.cut k, ⟨c.skipBlanks, hc⟩)
  | b :: r =>
    if b == 0x5D then
      (.close k, ⟨⟨k + 1, r⟩, by simp only [Cursor.size, hr, List.length_cons] at hc ⊢; omega⟩)
    else
      let (v, d) := scanValue c.skipBlanks
      let (rest, e) := scanMoreItems d.1
      (.item v rest, ⟨e.1, Nat.le_trans e.2 (Nat.le_trans d.2 hc)⟩)
termination_by 3 * c.size + 2
decreasing_by
  · omega
  · have _hd := d.2; omega

/-- The items of a list from behind one of them. -/
def scanMoreItems (c : Cursor) : Items × { d : Cursor // d.size ≤ c.size } :=
  have hc : c.skipBlanks.size ≤ c.size := c.size_skipBlanks
  let k := c.skipBlanks.offset
  match hr : c.skipBlanks.rest with
  | [] => (.cut k, ⟨c.skipBlanks, hc⟩)
  | b :: r =>
    have hlt : r.length < c.size := by
      simp only [Cursor.size, hr, List.length_cons] at hc ⊢; omega
    if b == 0x5D then (.close k, ⟨⟨k + 1, r⟩, Nat.le_of_lt hlt⟩)
    else if b == 0x2C then
      have hn : (Cursor.skipBlanks ⟨k + 1, r⟩).size ≤ r.length := Cursor.size_skipBlanks ⟨k + 1, r⟩
      let n := (Cursor.skipBlanks ⟨k + 1, r⟩)
      match n.rest with
      | [] => (.commaCut n.offset, ⟨n, Nat.le_trans hn (Nat.le_of_lt hlt)⟩)
      | b' :: _ =>
        if b' == 0x5D then
          (.surplusComma n.offset, ⟨n, Nat.le_trans hn (Nat.le_of_lt hlt)⟩)
        else
          let (v, d) := scanValue n
          let (rest, e) := scanMoreItems d.1
          (.item v rest,
            ⟨e.1, Nat.le_trans e.2 (Nat.le_trans d.2 (Nat.le_trans hn (Nat.le_of_lt hlt)))⟩)
    else (.junk k, ⟨c.skipBlanks, hc⟩)
termination_by 3 * c.size + 1
decreasing_by
  · exact measure_lt (Nat.lt_of_le_of_lt hn hlt) (by decide)
  · exact measure_lt (Nat.lt_of_le_of_lt (Nat.le_trans d.2 hn) hlt) (by decide)

/-- The members of an object from behind its brace. -/
def scanMembers (c : Cursor) : Members × { d : Cursor // d.size ≤ c.size } :=
  have hc : c.skipBlanks.size ≤ c.size := c.size_skipBlanks
  let k := c.skipBlanks.offset
  match hr : c.skipBlanks.rest with
  | [] => (.cut k, ⟨c.skipBlanks, hc⟩)
  | b :: r =>
    have hlt : r.length < c.size := by
      simp only [Cursor.size, hr, List.length_cons] at hc ⊢; omega
    if b == 0x7D then (.close k, ⟨⟨k + 1, r⟩, Nat.le_of_lt hlt⟩)
    else if b == 0x22 then
      let (m, d) := scanMember ⟨k + 1, r⟩
      (m, ⟨d.1, Nat.le_trans d.2 (Nat.le_of_lt hlt)⟩)
    else
      let (v, d) := scanValue c.skipBlanks
      (.noKey v, ⟨d.1, Nat.le_trans d.2 hc⟩)
termination_by 3 * c.size + 2
decreasing_by
  · exact measure_lt hlt (by decide)
  · omega

/-- A member from behind the opening quote of its key, and the members after it. -/
def scanMember (c : Cursor) : Members × { d : Cursor // d.size ≤ c.size } :=
  let key := scanText c
  have hkey : key.2.size ≤ c.size := size_scanText c
  have ha : key.2.skipBlanks.size ≤ c.size := Nat.le_trans key.2.size_skipBlanks hkey
  let after := key.2.skipBlanks
  match hr : after.rest with
  | [] => (.noColon key.1 after.offset false ⟨after.offset, .objectCut⟩, ⟨after, ha⟩)
  | b :: r =>
    have hlt : r.length < c.size := by
      simp only [Cursor.size, after, hr, List.length_cons] at ha ⊢; omega
    if b == 0x3A then
      let (v, d) := scanValue ⟨after.offset + 1, r⟩
      let (rest, e) := scanMoreMembers d.1
      (.member key.1 after.offset v d.1.skipBlanks.offset rest,
        ⟨e.1, Nat.le_trans e.2 (Nat.le_trans d.2 (Nat.le_of_lt hlt))⟩)
    else
      (.noColon key.1 after.offset (b == 0x7D) ⟨after.offset + 1, .noColon⟩, ⟨after, ha⟩)
termination_by 3 * c.size + 1
decreasing_by
  · exact measure_lt hlt (by decide)
  · exact measure_lt (Nat.lt_of_le_of_lt d.2 hlt) (by decide)

/-- The members of an object from behind one of them. -/
def scanMoreMembers (c : Cursor) : Members × { d : Cursor // d.size ≤ c.size } :=
  have hc : c.skipBlanks.size ≤ c.size := c.size_skipBlanks
  let k := c.skipBlanks.offset
  match hr : c.skipBlanks.rest with
  | [] => (.cut k, ⟨c.skipBlanks, hc⟩)
  | b :: r =>
    have hlt : r.length < c.size := by
      simp only [Cursor.size, hr, List.length_cons] at hc ⊢; omega
    if b == 0x7D then (.close k, ⟨⟨k + 1, r⟩, Nat.le_of_lt hlt⟩)
    else if b == 0x2C then
      have hn : (Cursor.skipBlanks ⟨k + 1, r⟩).size ≤ r.length := Cursor.size_skipBlanks ⟨k + 1, r⟩
      let n := (Cursor.skipBlanks ⟨k + 1, r⟩)
      match hm : n.rest with
      | [] => (.commaCut n.offset, ⟨n, Nat.le_trans hn (Nat.le_of_lt hlt)⟩)
      | b' :: r' =>
        have hlt' : r'.length < c.size := by
          simp only [Cursor.size, n, hm, List.length_cons] at hn hlt ⊢; omega
        if b' == 0x7D then
          (.surplusComma n.offset, ⟨n, Nat.le_trans hn (Nat.le_of_lt hlt)⟩)
        else if b' == 0x22 then
          let (m, d) := scanMember ⟨n.offset + 1, r'⟩
          (m, ⟨d.1, Nat.le_trans d.2 (Nat.le_of_lt hlt')⟩)
        else
          let (v, d) := scanValue n
          (.noKey v, ⟨d.1, Nat.le_trans d.2 (Nat.le_trans hn (Nat.le_of_lt hlt))⟩)
    else (.junk k, ⟨c.skipBlanks, hc⟩)
termination_by 3 * c.size + 2
decreasing_by
  · exact measure_lt hlt' (by decide)
  · exact measure_lt (Nat.lt_of_le_of_lt hn hlt) (by decide)

end

/-- The tree of the first value of a text. -/
def Tree.ofBytes (bytes : List UInt8) : Tree := (scanValue ⟨0, bytes⟩).1

end FluentBuilders.Json
