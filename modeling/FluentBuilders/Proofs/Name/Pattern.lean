/-
  Patterns — paths by a regular expression, and what they are put together from.

  Whether a text is a path is found out by cutting it at its separators.  Two other descriptions
  give the same paths.  One is a regular expression (`pathPattern`), which knows nothing of cuts and
  of the order in which separators are looked for.  The other says how a path is composed: segments
  with separators between them, and perhaps one in front (`Composed`).  There is one way only to
  compose a path, and it is the cut (`composed_iff`).
-/
import FluentBuilders.Proofs.Name.Paths
import Mathlib.Computability.RegularExpressions

namespace FluentBuilders.Name

variable {c : Char} {w cs : List Char} {ws : List (List Char)} {s : String}

/-! ## Expressions -/

/-- Any one of some characters. -/
def oneOf (cs : List Char) : RegularExpression Char := cs.foldr (fun c r => .char c + r) 0

/-- The separator of a path. -/
def separatorPattern : RegularExpression Char := .char ':' * .char ':'

/-- The characters that begin a word. -/
def startCharacters : List Char :=
  "ABCDEFGHIJKLMNOPQRSTUVWXYZabcdefghijklmnopqrstuvwxyz_".toList

/-- The characters inside a word. -/
def partCharacters : List Char := startCharacters ++ "0123456789".toList

/-- A word: a letter or an underscore, and letters, digits and underscores behind it. -/
def wordPattern : RegularExpression Char := oneOf startCharacters * (oneOf partCharacters).star

/-- A path: perhaps a separator, a word, and any number of words with a separator in front. -/
def pathPattern : RegularExpression Char :=
  (separatorPattern + 1) * (wordPattern * (separatorPattern * wordPattern).star)

theorem mem_oneOf : w ∈ (oneOf cs).matches' ↔ ∃ c ∈ cs, w = [c] := by
  induction cs with
  | nil => exact iff_of_false (fun h => h) fun ⟨_, h, _⟩ => List.not_mem_nil h
  | cons c cs ih =>
    show w = [c] ∨ w ∈ (oneOf cs).matches' ↔ _
    rw [ih, List.exists_mem_cons_iff]

theorem mem_separatorPattern : w ∈ separatorPattern.matches' ↔ w = [':', ':'] := by
  rw [separatorPattern, RegularExpression.matches'_mul, Language.mem_mul]
  constructor
  · rintro ⟨_, rfl, _, rfl, rfl⟩
    rfl
  · rintro rfl
    exact ⟨_, rfl, _, rfl, rfl⟩

/-! ## Words -/

/-- A property of characters that only ASCII characters have can be listed. -/
theorem iff_mem_of_ascii {p : Char → Bool} (hp : ∀ c, p c = true → c.toNat < 0x80)
    (hall : ∀ n < 0x80, p (Char.ofNat n) = true → Char.ofNat n ∈ cs)
    (hcs : cs.all p = true) : p c = true ↔ c ∈ cs := by
  refine ⟨fun h => ?_, List.all_eq_true.mp hcs c⟩
  exact of_ascii (P := fun c => p c = true → c ∈ cs) hall (hp c h) h

/-- The characters that begin a word, one by one. -/
theorem isStart_iff : isStart c = true ↔ c ∈ startCharacters :=
  iff_mem_of_ascii (fun _ h => lt_of_isPart (isPart_of_isStart h)) (by decide +kernel)
    (by decide +kernel)

/-- The characters inside a word, one by one. -/
theorem isPart_iff : isPart c = true ↔ c ∈ partCharacters :=
  iff_mem_of_ascii (fun _ h => lt_of_isPart h) (by decide +kernel) (by decide +kernel)

/-- Any number of characters, each one of those given. -/
theorem mem_star_oneOf : w ∈ (oneOf cs).star.matches' ↔ ∀ c ∈ w, c ∈ cs := by
  rw [RegularExpression.matches'_star, Language.mem_kstar]
  constructor
  · rintro ⟨L, rfl, hL⟩ c hc
    obtain ⟨x, hx, hc⟩ := List.mem_flatten.mp hc
    obtain ⟨d, hd, rfl⟩ := mem_oneOf.mp (hL x hx)
    rw [List.mem_singleton.mp hc]
    exact hd
  · intro h
    have hparts : w = (w.map ([·])).flatten := by
      rw [← List.flatMap_def, List.flatMap_singleton']
    exact ⟨_, hparts, List.forall_mem_map.mpr fun c hc => mem_oneOf.mpr ⟨c, h c hc, rfl⟩⟩

/-- **The words** are those that the expression for words matches. -/
theorem isPlain_iff_matches : isPlain w = true ↔ w ∈ wordPattern.matches' := by
  rw [wordPattern, RegularExpression.matches'_mul, Language.mem_mul]
  constructor
  · intro h
    cases w with
    | nil => cases h
    | cons c r =>
      obtain ⟨hc, hr⟩ := isPlain_cons.mp h
      refine ⟨[c], mem_oneOf.mpr ⟨c, isStart_iff.mp hc, rfl⟩, r, ?_, rfl⟩
      exact mem_star_oneOf.mpr fun x hx => isPart_iff.mp (hr x hx)
  · rintro ⟨x, hx, r, hr, rfl⟩
    obtain ⟨c, hc, rfl⟩ := mem_oneOf.mp hx
    exact isPlain_cons.mpr
      ⟨isStart_iff.mpr hc, fun x hx => isPart_iff.mpr (mem_star_oneOf.mp hr x hx)⟩

/-! ## Paths -/

/-- Words with a separator in front of each of them. -/
theorem mem_star_chained : cs ∈ (separatorPattern * wordPattern).star.matches' ↔
    ∃ ws, (∀ x ∈ ws, isPlain x = true) ∧ cs = chained ws := by
  rw [RegularExpression.matches'_star, Language.mem_kstar]
  constructor
  · rintro ⟨L, rfl, hL⟩
    -- each part is a separator and a word, so the words are found part by part
    induction L with
    | nil => exact ⟨[], fun _ h => absurd h List.not_mem_nil, rfl⟩
    | cons y L ih =>
      obtain ⟨hy, hL⟩ := List.forall_mem_cons.mp hL
      obtain ⟨ws, hws, hrest⟩ := ih hL
      obtain ⟨p, hp, x, hx, rfl⟩ := Language.mem_mul.mp hy
      rw [mem_separatorPattern.mp hp]
      refine ⟨x :: ws, List.forall_mem_cons.mpr ⟨isPlain_iff_matches.mpr hx, hws⟩, ?_⟩
      rw [List.flatten_cons, hrest, chained_cons]
      rfl
  · rintro ⟨ws, hws, rfl⟩
    refine ⟨ws.map fun x => ':' :: ':' :: x, List.flatMap_def, List.forall_mem_map.mpr ?_⟩
    intro x hx
    exact Language.mem_mul.mpr
      ⟨_, mem_separatorPattern.mpr rfl, x, isPlain_iff_matches.mp (hws x hx), rfl⟩

/-- **The paths** are those that the expression for paths matches. -/
theorem isPath_iff_matches : isPath s = true ↔ s.toList ∈ pathPattern.matches' := by
  rw [isPath_iff, pathPattern, RegularExpression.matches'_mul, Language.mem_mul]
  constructor
  · rintro ⟨leading, w, ws, hplain, hs⟩
    obtain ⟨hw, hws⟩ := List.forall_mem_cons.mp hplain
    have hrest : w ++ chained ws ∈ (wordPattern * (separatorPattern * wordPattern).star).matches' :=
      Language.mem_mul.mpr
        ⟨w, isPlain_iff_matches.mp hw, _, mem_star_chained.mpr ⟨ws, hws, rfl⟩, rfl⟩
    rw [hs]
    cases leading with
    | true => exact ⟨[':', ':'], .inl (mem_separatorPattern.mpr rfl), _, hrest, rfl⟩
    | false => exact ⟨[], .inr rfl, _, hrest, rfl⟩
  · rintro ⟨front, hfront, rest, hrest, hs⟩
    obtain ⟨w, hw, _, hchained, rfl⟩ := Language.mem_mul.mp hrest
    obtain ⟨ws, hws, rfl⟩ := mem_star_chained.mp hchained
    have hplain : ∀ x ∈ w :: ws, isPlain x = true :=
      List.forall_mem_cons.mpr ⟨isPlain_iff_matches.mpr hw, hws⟩
    rcases hfront with hfront | rfl
    · rw [mem_separatorPattern.mp hfront] at hs
      exact ⟨true, w, ws, hplain, hs.symm⟩
    · exact ⟨false, w, ws, hplain, hs.symm⟩

/-! ## Composition -/

/-- How a path is composed: whether the separator is in front, and the words that further
    separators stand between. -/
structure Composed (s : String) (leading : Bool) (segments : List String) : Prop where
  nonempty : segments ≠ []
  words : ∀ w ∈ segments, isPlain w.toList = true
  spelled : s = (if leading then "::" else "") ++ "::".intercalate segments

variable {leading : Bool} {segments : List String} {first : String}

theorem toList_intercalate_cons (first : String) (segments : List String) :
    ("::".intercalate (first :: segments)).toList
      = first.toList ++ chained (segments.map String.toList) := by
  rw [String.toList_intercalate, List.map_cons]
  generalize first.toList = w
  induction segments generalizing w with
  | nil =>
    rw [List.map_nil, List.intercalate_singleton]
    exact (List.append_nil w).symm
  | cons x segments ih =>
    rw [List.map_cons, List.intercalate_cons_cons, ih, chained_cons, List.append_assoc]
    rfl

theorem spelled_iff : s = (if leading then "::" else "") ++ "::".intercalate (first :: segments) ↔
    s.toList = spelling leading first.toList (segments.map String.toList) := by
  rw [← String.toList_inj, String.toList_append, toList_intercalate_cons, spelling]
  cases leading <;> rfl

/-- **How a path is composed** is how it is cut. -/
theorem composed_iff : Composed s leading segments ↔
    isPath s = true ∧ split s = (leading, segments) := by
  constructor
  · rintro ⟨hne, hwords, hs⟩
    cases segments with
    | nil => exact absurd rfl hne
    | cons first segments =>
      have hplain : ∀ x ∈ first.toList :: segments.map String.toList, isPlain x = true := by
        rw [← List.map_cons, List.forall_mem_map]
        exact hwords
      have hspelled := spelled_iff.mp hs
      have hfirst : first.toList ≠ [] := by
        intro h
        cases h ▸ hplain _ List.mem_cons_self
      refine ⟨isPath_iff.mpr ⟨_, _, _, hplain, hspelled⟩, ?_⟩
      rw [split_spelling hfirst (fun x hx => not_mem_of_isPlain (hplain x hx)) hspelled,
        ← List.map_cons, List.map_map]
      simp [Function.comp_def]
  · rintro ⟨hpath, hsplit⟩
    obtain ⟨l, w, ws, hplain, hs⟩ := isPath_iff.mp hpath
    have hw : w ≠ [] := by
      rintro rfl
      cases hplain [] List.mem_cons_self
    rw [split_spelling hw (fun x hx => not_mem_of_isPlain (hplain x hx)) hs, Prod.mk.injEq]
      at hsplit
    obtain ⟨rfl, rfl⟩ := hsplit
    refine ⟨List.cons_ne_nil _ _, ?_, spelled_iff.mpr ?_⟩
    · rw [List.forall_mem_map]
      intro x hx
      rw [String.toList_ofList]
      exact hplain x hx
    · rw [hs, List.map_map, String.toList_ofList]
      simp [Function.comp_def]

/-- A path is composed of what it is cut into. -/
theorem composed_split (h : isPath s = true) : Composed s (split s).1 (split s).2 :=
  composed_iff.mpr ⟨h, rfl⟩

/-- A path ends in the last of its segments, wherever the search for it begins. -/
theorem Composed.getLast? (h : Composed s leading segments) :
    segments.getLast? = some (lastSegment s) := by
  obtain ⟨hne, hwords, hs⟩ := h
  obtain ⟨front, last, rfl⟩ := (List.eq_nil_or_concat segments).resolve_left hne
  rw [List.concat_eq_append] at hwords hs ⊢
  have hcolon : ':' ∉ last.toList := not_mem_of_isPlain (hwords last (by simp))
  rw [List.getLast?_concat, Option.some.injEq]
  cases front with
  | nil =>
    cases leading with
    | true =>
      have hjoin : s = join "" last := hs
      rw [hjoin, lastSegment_join hcolon]
    | false =>
      have hlast : s = last := hs.trans (String.empty_append)
      rw [hlast]
      exact (endsIn_iff.mp (.inl ⟨ne_join_of_not_mem hcolon, rfl⟩)).symm
  | cons first front =>
    -- the text in front of the last separator is composed of the other segments
    have hparent := spelled_iff.mp
      (rfl : (if leading then "::" else "") ++ "::".intercalate (first :: front) = _)
    have hjoin : s = join ((if leading then "::" else "") ++ "::".intercalate (first :: front))
        last := by
      rw [List.cons_append] at hs
      rw [← String.toList_inj, toList_join hparent, spelled_iff.mp hs, List.map_append]
      rfl
    rw [hjoin, lastSegment_join hcolon]

end FluentBuilders.Name
