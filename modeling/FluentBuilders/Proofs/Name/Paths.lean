/-
  Paths — what a path is made of, and what paths are made of other paths.

  Cutting a text at its separators loses nothing: the pieces with a separator in front of each but
  the first are the text again (`eq_of_pieces`).  So a path is a plain word with further ones behind
  it, each behind a separator, and perhaps a separator in front of them all (`isPath_iff`).  A word
  joined to a path is one more segment of it (`split_join`).
-/
import FluentBuilders.Proofs.Name.Segments
import FluentBuilders.Proofs.Name.Words

namespace FluentBuilders.Name

variable {w cs : List Char} {ws : List (List Char)} {s parent child : String}

/-! ## Pieces -/

/-- Pieces with the separator in front of each of them. -/
def chained (ws : List (List Char)) : List Char := ws.flatMap fun w => ':' :: ':' :: w

theorem chained_cons (w : List Char) (ws : List (List Char)) :
    chained (w :: ws) = ':' :: ':' :: (w ++ chained ws) := rfl

/-- Cutting a text loses nothing. -/
theorem eq_of_pieces (cs : List Char) :
    ∃ w ws, pieces cs = w :: ws ∧ cs = w ++ chained ws := by
  fun_induction pieces cs with
  | case1 => exact ⟨[], [], rfl, rfl⟩
  | case2 r ih =>
    obtain ⟨w, ws, hp, hr⟩ := ih
    exact ⟨[], w :: ws, by rw [hp], by rw [chained_cons, ← hr]; rfl⟩
  | case3 c r hsep hnil ih =>
    obtain ⟨w, ws, hp, -⟩ := ih
    cases hnil.symm.trans hp
  | case4 c r hsep p ps hp' ih =>
    obtain ⟨w, ws, hp, hr⟩ := ih
    cases hp'.symm.trans hp
    exact ⟨c :: p, ps, rfl, by rw [hr, List.cons_append]⟩

theorem pieces_append (hw : ':' ∉ w) (hcs : pieces cs = [] :: ws) :
    pieces (w ++ cs) = w :: ws := by
  induction w with
  | nil => exact hcs
  | cons c w ih =>
    obtain ⟨hc, hw⟩ := not_or.mp (List.mem_cons.not.mp hw)
    rw [List.cons_append, pieces.eq_3, ih hw]
    rintro _ rfl -
    exact hc rfl

/-- Pieces without colons are found again. -/
theorem pieces_chained (hw : ':' ∉ w) (hws : ∀ x ∈ ws, ':' ∉ x) :
    pieces (w ++ chained ws) = w :: ws := by
  induction ws generalizing w with
  | nil => exact pieces_append hw rfl
  | cons x ws ih =>
    obtain ⟨hx, hws⟩ := List.forall_mem_cons.mp hws
    refine pieces_append hw ?_
    rw [chained_cons, pieces, ih hx hws]

/-! ## Paths -/

/-- The characters of a path, from whether it is absolute and what its segments are. -/
def spelling (leading : Bool) (w : List Char) (ws : List (List Char)) : List Char :=
  if leading then chained (w :: ws) else w ++ chained ws

theorem forall_mem_chained {P : Char → Prop} (hc : P ':') (h : ∀ x ∈ ws, ∀ c ∈ x, P c) :
    ∀ c ∈ chained ws, P c := by
  intro c hm
  obtain ⟨x, hx, hm⟩ := List.mem_flatMap.mp hm
  simp only [List.mem_cons] at hm
  rcases hm with rfl | rfl | hm
  · exact hc
  · exact hc
  · exact h x hx c hm

/-- What holds of colons and of the characters of all segments holds of a path. -/
theorem forall_mem_spelling {P : Char → Prop} {leading : Bool} (hc : P ':')
    (h : ∀ x ∈ w :: ws, ∀ c ∈ x, P c) : ∀ c ∈ spelling leading w ws, P c := by
  obtain ⟨hw, hws⟩ := List.forall_mem_cons.mp h
  cases leading with
  | true => exact forall_mem_chained hc h
  | false => exact List.forall_mem_append.mpr ⟨hw, forall_mem_chained hc hws⟩

/-- What is joined to a path is written as a further segment. -/
theorem toList_join {leading : Bool} (h : parent.toList = spelling leading w ws) :
    (join parent child).toList = spelling leading w (ws ++ [child.toList]) := by
  rw [join, String.toList_append, String.toList_append, h]
  cases leading <;> simp [spelling, chained]

theorem split_eq (s : String) : split s = ((stripLeading s.toList).1,
    (pieces (stripLeading s.toList).2).map String.ofList) := rfl

/-- **A path is cut** into the words that it was spelled with. -/
theorem split_spelling {leading : Bool} (hw : w ≠ []) (hc : ∀ x ∈ w :: ws, ':' ∉ x)
    (hs : s.toList = spelling leading w ws) :
    split s = (leading, (w :: ws).map String.ofList) := by
  obtain ⟨hcw, hcws⟩ := List.forall_mem_cons.mp hc
  have hrest : stripLeading s.toList = (leading, w ++ chained ws) := by
    rw [hs, spelling]
    cases leading with
    | true => rfl
    | false =>
      -- a relative path begins with a character of its first segment
      cases w with
      | nil => exact absurd rfl hw
      | cons c w =>
        rw [if_neg Bool.false_ne_true, List.cons_append, stripLeading]
        intro r hr
        rw [(List.cons.inj hr).1] at hcw
        exact hcw List.mem_cons_self
  rw [split_eq, hrest, pieces_chained hcw hcws]

/-- **What a path is**: plain words with separators between them. -/
theorem isPath_iff : isPath s = true ↔ ∃ leading w ws,
    (∀ x ∈ w :: ws, isPlain x = true) ∧ s.toList = spelling leading w ws := by
  constructor
  · intro h
    obtain ⟨w, ws, hp, hr⟩ := eq_of_pieces (stripLeading s.toList).2
    refine ⟨(stripLeading s.toList).1, w, ws, fun x hx => ?_, ?_⟩
    · have hall := List.all_eq_true.mp h (String.ofList x)
      rw [split_eq, hp, String.toList_ofList] at hall
      exact hall (List.mem_map_of_mem hx)
    · rw [spelling, chained_cons, ← hr]
      generalize s.toList = cs
      fun_cases stripLeading cs <;> rfl
  · rintro ⟨leading, w, ws, hplain, hs⟩
    have hw : w ≠ [] := by
      rintro rfl
      cases hplain [] List.mem_cons_self
    rw [isPath, split_spelling hw (fun x hx => not_mem_of_isPlain (hplain x hx)) hs,
      List.all_map, List.all_eq_true]
    intro x hx
    rw [Function.comp_apply, String.toList_ofList]
    exact hplain x hx

/-- The segments of a path are plain words. -/
theorem isPlain_of_mem_split (h : isPath s = true) : ∀ x ∈ (split s).2, isPlain x.toList = true :=
  List.all_eq_true.mp h

/-- There is a segment in every text. -/
theorem exists_segment (s : String) : ∃ w ws, (split s).2 = w :: ws := by
  obtain ⟨w, ws, hp, -⟩ := eq_of_pieces (stripLeading s.toList).2
  exact ⟨String.ofList w, ws.map String.ofList, by rw [split_eq, hp, List.map_cons]⟩

/-- A text is known from its pieces, and whether a separator is in front of them. -/
theorem split_inj {s s' : String} (h : split s = split s') : s = s' := by
  have hlist : ∀ cs : List Char, cs
      = if (stripLeading cs).1 then ':' :: ':' :: (stripLeading cs).2 else (stripLeading cs).2 := by
    intro cs
    fun_cases stripLeading cs <;> rfl
  rw [split_eq, split_eq, Prod.mk.injEq] at h
  obtain ⟨hleading, hpieces⟩ := h
  obtain ⟨w, ws, hp, hr⟩ := eq_of_pieces (stripLeading s.toList).2
  obtain ⟨w', ws', hp', hr'⟩ := eq_of_pieces (stripLeading s'.toList).2
  have hsame := List.map_injective_iff.mpr (fun _ _ => String.ofList_inj.mp) hpieces
  rw [hp, hp'] at hsame
  have hrest : (stripLeading s.toList).2 = (stripLeading s'.toList).2 := by
    rw [hr, hr', (List.cons.inj hsame).1, (List.cons.inj hsame).2]
  rw [← String.toList_inj, hlist s.toList, hleading, hrest, ← hlist]

/-- A plain word is a path by itself. -/
theorem isPath_of_isPlain (h : isPlain s.toList = true) : isPath s = true := by
  refine isPath_iff.mpr ⟨false, s.toList, [], ?_, (List.append_nil _).symm⟩
  exact List.forall_mem_singleton.mpr h

/-- An identifier is a path of one segment. -/
theorem isPath_of_isIdentifier (h : isIdentifier s = true) : isPath s = true :=
  isPath_of_isPlain (isIdentifier_iff.mp h).1

/-- **What is joined to a path** is its last segment. -/
theorem split_join (hp : isPath parent = true) (hc : ':' ∉ child.toList) :
    split (join parent child) = ((split parent).1, (split parent).2 ++ [child]) := by
  obtain ⟨leading, w, ws, hplain, hs⟩ := isPath_iff.mp hp
  have hw : w ≠ [] := by
    rintro rfl
    cases hplain [] List.mem_cons_self
  have hcolon : ∀ x ∈ w :: ws, ':' ∉ x := fun x hx => not_mem_of_isPlain (hplain x hx)
  have hcolon' : ∀ x ∈ w :: (ws ++ [child.toList]), ':' ∉ x := by
    rw [← List.cons_append]
    exact List.forall_mem_append.mpr ⟨hcolon, List.forall_mem_singleton.mpr hc⟩
  rw [split_spelling hw hcolon' (toList_join hs), split_spelling hw hcolon hs]
  simp

/-- A path with a word behind it is a path. -/
theorem isPath_join (hp : isPath parent = true) (hc : isPlain child.toList = true) :
    isPath (join parent child) = true := by
  rw [isPath, split_join hp (not_mem_of_isPlain hc), List.all_eq_true, List.forall_mem_append]
  exact ⟨isPlain_of_mem_split hp, List.forall_mem_singleton.mpr hc⟩

end FluentBuilders.Name
