/-
  Segments — what the last segment of a path is.

  The last segment is found by reading the text from its end, so all facts are about the reversed
  characters.  It is what stands behind the last separator of the text, or the whole text if there
  is none (`endsIn_iff`).  A name without colons is the last segment of whatever it is joined to,
  and a last segment never holds a separator: taking it once more changes nothing.
-/
import FluentBuilders.Name.Grammar
import Mathlib.Data.List.Basic

namespace FluentBuilders.Name

/-! ## Characters -/

/-- In front of the first separator is what has no colon in it. -/
theorem beforeSeparator_append {cs rest : List Char} (h : ':' ∉ cs) :
    beforeSeparator (cs ++ ':' :: ':' :: rest) = cs := by
  induction cs with
  | nil => rfl
  | cons c cs ih =>
    obtain ⟨hc, hcs⟩ := not_or.mp (List.mem_cons.not.mp h)
    rw [List.cons_append, beforeSeparator, ih hcs]
    rintro _ rfl -
    exact hc rfl

theorem beforeSeparator_idem (cs : List Char) :
    beforeSeparator (beforeSeparator cs) = beforeSeparator cs := by
  fun_induction beforeSeparator cs with
  | case1 => rfl
  | case2 => rfl
  | case3 c r hsep ih =>
    rw [beforeSeparator, ih]
    -- a separator in front of the result would have been one in front of the text
    rintro r' rfl hr
    cases r with
    | nil => cases hr
    | cons c' r =>
      rw [beforeSeparator.eq_def] at hr
      split at hr
      · cases hr
      · cases hr
      · rename_i hcons
        cases hcons
        cases hr
        exact hsep r rfl rfl

/-- No separator is left behind, or what is left off begins with one. -/
theorem beforeSeparator_eq_or (cs : List Char) :
    beforeSeparator cs = cs ∨ ∃ rest, cs = beforeSeparator cs ++ ':' :: ':' :: rest := by
  fun_induction beforeSeparator cs with
  | case1 => exact .inl rfl
  | case2 rest => exact .inr ⟨rest, rfl⟩
  | case3 c r _ ih =>
    rcases ih with h | ⟨rest, h⟩
    · exact .inl (congrArg (c :: ·) h)
    · exact .inr ⟨rest, congrArg (c :: ·) h⟩

/-- It is the first separator that counts. -/
theorem length_beforeSeparator_le (cs rest : List Char) :
    (beforeSeparator (cs ++ ':' :: ':' :: rest)).length ≤ cs.length := by
  induction cs with
  | nil => exact Nat.le_refl 0
  | cons c cs ih =>
    rw [List.cons_append, beforeSeparator.eq_def]
    split
    · rename_i h
      cases h
    · exact Nat.zero_le _
    · rename_i h
      cases h
      exact Nat.succ_le_succ ih

/-! ## The last segment -/

variable {q s t p : String}

/-- What a text ends in: what is behind the last separator in it, or all of it if there is none. -/
def EndsIn (q s : String) : Prop :=
  (∀ p t, q ≠ join p t) ∧ s = q ∨
    ∃ p, q = join p s ∧ ∀ p' t, q = join p' t → p'.length ≤ p.length

theorem eq_join_iff : q = join p t ↔
    q.toList.reverse = t.toList.reverse ++ ':' :: ':' :: p.toList.reverse := by
  have hj : (join p t).toList.reverse
      = t.toList.reverse ++ ':' :: ':' :: p.toList.reverse := by simp [join]
  rw [← hj, List.reverse_inj, String.toList_inj]

theorem length_join (p t : String) : (join p t).length = p.length + 2 + t.length := by
  rw [join, String.length_append, String.length_append]
  rfl

theorem toList_lastSegment (q : String) :
    (lastSegment q).toList.reverse = beforeSeparator q.toList.reverse := by
  rw [lastSegment, String.toList_ofList, List.reverse_reverse]

/-- What is behind any separator is at least as long as the last segment. -/
theorem length_lastSegment_le (h : q = join p t) : (lastSegment q).length ≤ t.length := by
  have hle := length_beforeSeparator_le t.toList.reverse p.toList.reverse
  rw [← eq_join_iff.mp h, ← toList_lastSegment, List.length_reverse, List.length_reverse] at hle
  exact hle

/-- A path ends in its last segment. -/
theorem endsIn_lastSegment (q : String) : EndsIn q (lastSegment q) := by
  rcases beforeSeparator_eq_or q.toList.reverse with hall | ⟨rest, hrest⟩
  · rw [← toList_lastSegment, List.reverse_inj, String.toList_inj] at hall
    refine .inl ⟨fun p t hq => ?_, hall⟩
    -- behind a separator there would be less than all of the text
    have hle := length_lastSegment_le hq
    have hlen := congrArg String.length hq
    rw [length_join] at hlen
    rw [hall] at hle
    omega
  · have hq : q = join (String.ofList rest.reverse) (lastSegment q) := by
      rw [eq_join_iff, toList_lastSegment, String.toList_ofList, List.reverse_reverse]
      exact hrest
    refine .inr ⟨_, hq, fun p' t hq' => ?_⟩
    have hle := length_lastSegment_le hq'
    have hlen := congrArg String.length hq
    have hlen' := congrArg String.length hq'
    rw [length_join] at hlen hlen'
    omega

/-- **A path ends in one name only.** -/
theorem EndsIn.unique (hs : EndsIn q s) (ht : EndsIn q t) : s = t := by
  rcases hs with ⟨hno, rfl⟩ | ⟨p, hp, hlast⟩ <;> rcases ht with ⟨hno', rfl⟩ | ⟨p', hp', hlast'⟩
  · rfl
  · exact absurd hp' (hno p' t)
  · exact absurd hp (hno' p s)
  · -- both are behind the last separator, so what is in front is as long
    have hlen : p.toList.length = p'.toList.length :=
      Nat.le_antisymm (hlast' p s hp) (hlast p' t hp')
    have hlists := congrArg String.toList (hp.symm.trans hp')
    simp only [join, String.toList_append, List.append_assoc] at hlists
    have hparts := List.append_inj hlists hlen
    exact String.toList_inj.mp (List.append_cancel_left hparts.2)

/-- **The last segment of a text** is what it ends in. -/
theorem endsIn_iff : EndsIn q s ↔ lastSegment q = s :=
  ⟨fun h => (endsIn_lastSegment q).unique h, fun h => h ▸ endsIn_lastSegment q⟩

/-! ## Names -/

theorem not_mem_of_isPlain {cs : List Char} (h : isPlain cs = true) : ':' ∉ cs := by
  cases cs with
  | nil => exact List.not_mem_nil
  | cons c r =>
    rw [isPlain, Bool.and_eq_true, List.all_eq_true] at h
    intro hm
    rcases List.mem_cons.mp hm with rfl | hm
    · exact absurd h.1 (by decide)
    · exact absurd (h.2 _ hm) (by decide)

theorem not_mem_of_isIdentifier {s : String} (h : isIdentifier s = true) : ':' ∉ s.toList := by
  rw [isIdentifier, Bool.and_eq_true] at h
  exact not_mem_of_isPlain h.1

/-- The last segment of a joined path is the name that was joined to it. -/
theorem lastSegment_join {parent child : String} (h : ':' ∉ child.toList) :
    lastSegment (join parent child) = child := by
  rw [lastSegment, eq_join_iff.mp rfl, beforeSeparator_append (by simpa using h),
    List.reverse_reverse, String.ofList_toList]

/-- A text without colons is not joined from others. -/
theorem ne_join_of_not_mem (h : ':' ∉ q.toList) (p t : String) : q ≠ join p t := by
  rintro rfl
  exact h (by simp [join])

theorem join_assoc (a b c : String) : join (join a b) c = join a (join b c) := by
  simp only [join, String.append_assoc]

/-- A path is joined in one way only from a name without colons and what is in front of it. -/
theorem join_inj {parent parent' child child' : String} (h : ':' ∉ child.toList)
    (h' : ':' ∉ child'.toList) (he : join parent child = join parent' child') :
    parent = parent' ∧ child = child' := by
  have hc : child = child' := by rw [← lastSegment_join h, he, lastSegment_join h']
  have hl := congrArg String.toList he
  simp only [join, String.toList_append, hc] at hl
  exact ⟨String.toList_inj.mp (List.append_cancel_right (List.append_cancel_right hl)), hc⟩

theorem lastSegment_idem (s : String) : lastSegment (lastSegment s) = lastSegment s := by
  rw [lastSegment, lastSegment, String.toList_ofList, List.reverse_reverse, beforeSeparator_idem]

/-- A joined path is no last segment. -/
theorem join_ne_lastSegment {parent child s : String} (h : ':' ∉ child.toList) :
    join parent child ≠ lastSegment s := by
  intro he
  have hc : child = join parent child := by
    have hj : lastSegment (join parent child) = join parent child := by rw [he, lastSegment_idem]
    rwa [lastSegment_join h] at hj
  have hlen := congrArg String.length hc
  rw [length_join] at hlen
  omega

end FluentBuilders.Name
