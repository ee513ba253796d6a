/-
  Path grammar — the grammar of paths that all who handle a path text agree on.

  A path text is checked, cut at its separators, written as code, and asked for its last segment.
  Each of these looks for words and separators in its own way, the last one from the end of the
  text.  On paths they find the same: whether the separator is in front, and the segments in order
  (`path_grammar`).  The tokens show these, one identifier for each segment, and without the marks
  of escaped words they are the text again.
-/
import FluentBuilders.Proofs.Code.PrintedTypes
import FluentBuilders.Proofs.Name.Pattern

namespace FluentBuilders.Code

open Name (Composed)

variable {s n w : String} {leading : Bool} {ws : List String}

/-! ## Tokens without marks -/

/-- The characters of a token, without the mark of a raw word. -/
def unmarked : Token → List Char
  | .word v => (Ident.ofWord v).word.toList
  | t => t.text.toList

/-- The identifier of a segment, as it is written. -/
def segmentTokens (w : String) : List Token := Ident.tokens ⟨w, Name.isEscaped w⟩

/-- The tokens of segments with the separator between them, and perhaps in front. -/
def segmentsTokens (leading : Bool) (ws : List String) : List Token :=
  (if leading then Token.marks "::" else [])
    ++ (Token.marks "::").intercalate (ws.map segmentTokens)

/-- A segment without the mark of an escaped word is the word. -/
theorem unmarked_spelled (h : Name.isPlain w.toList = true) :
    (segmentTokens w).flatMap unmarked = w.toList := by
  show (Ident.ofWord (Ident.spelled ⟨w, Name.isEscaped w⟩)).word.toList ++ [] = _
  rw [List.append_nil, Ident.spelled]
  split
  · have hraw : ("r#" ++ w).startsWith "r#" = true := by
      rw [String.startsWith_string_iff, String.toList_append]
      exact List.prefix_append _ _
    rw [Ident.ofWord, if_pos hraw, String.toList_ofList, String.toList_append]
    rfl
  · have hplain := ofWord_of_isPlain h
    rw [String.ofList_toList] at hplain
    rw [hplain]

/-- Without the marks of escaped words, what is written is what the path is composed of. -/
theorem unmarked_segmentsTokens (h : ∀ w ∈ ws, Name.isPlain w.toList = true) :
    (segmentsTokens leading ws).flatMap unmarked
      = ((if leading then "::" else "") ++ "::".intercalate ws).toList := by
  have hsegments : ((Token.marks "::").intercalate (ws.map segmentTokens)).flatMap unmarked
      = ("::".intercalate ws).toList := by
    rw [String.toList_intercalate]
    induction ws with
    | nil => rfl
    | cons w ws ih =>
      obtain ⟨hw, hws⟩ := List.forall_mem_cons.mp h
      cases ws with
      | nil =>
        rw [List.map_singleton, List.map_singleton, List.intercalate_singleton,
          List.intercalate_singleton, unmarked_spelled hw]
      | cons x ws =>
        rw [List.map_cons, List.map_cons, List.map_cons, List.map_cons,
          List.intercalate_cons_cons, List.intercalate_cons_cons, List.flatMap_append,
          List.flatMap_append, unmarked_spelled hw]
        exact congrArg (w.toList ++ "::".toList ++ ·) (ih hws)
  rw [segmentsTokens, List.flatMap_append, hsegments, String.toList_append]
  cases leading <;> rfl

/-! ## The tokens of a path -/

/-- Segments with separators between them are the first one and the further ones. -/
theorem intercalate_segmentTokens (w : String) (ws : List String) :
    (Token.marks "::").intercalate ((w :: ws).map segmentTokens)
      = segmentTokens w ++ furtherSegments ws := by
  induction ws generalizing w with
  | nil => simp [furtherSegments]
  | cons x ws ih =>
    rw [List.map_cons, List.map_cons, List.intercalate_cons_cons, ← List.map_cons, ih,
      List.append_assoc]
    rfl

/-- **What is written for a path**: its segments as they were cut. -/
theorem tokens_of_composed (h : Composed s leading ws) :
    ∃ p, Path.ofName? s = some p ∧ p.tokens = segmentsTokens leading ws := by
  obtain ⟨hpath, hsplit⟩ := Name.composed_iff.mp h
  obtain ⟨w, ws', rfl⟩ := List.exists_cons_of_ne_nil h.nonempty
  refine ⟨pathOf s, ofName?_of_isPath hpath, ?_⟩
  have hsegments : (Name.split s).2 = w :: ws' := by rw [hsplit]
  rw [tokens_pathOf hsegments, hsplit, segmentsTokens, intercalate_segmentTokens]
  rfl

/-- A segment more is a separator and an identifier more. -/
theorem segmentsTokens_concat (h : ws ≠ []) : segmentsTokens leading (ws ++ [n])
    = segmentsTokens leading ws ++ Token.marks "::" ++ segmentTokens n := by
  obtain ⟨w, ws', rfl⟩ := List.exists_cons_of_ne_nil h
  have hfurther : furtherSegments (ws' ++ [n])
      = furtherSegments ws' ++ (Token.marks "::" ++ segmentTokens n) := by
    rw [furtherSegments, List.flatMap_append, List.flatMap_singleton]
    rfl
  rw [segmentsTokens, segmentsTokens, List.cons_append, intercalate_segmentTokens,
    intercalate_segmentTokens, hfurther]
  simp only [List.append_assoc]

/-! ## The grammar -/

/-- **One grammar for all who handle a path.**  A text is accepted as a path exactly if the regular
    expression for paths matches it, and exactly if it is composed of plain words.  There is one way
    only to compose it: what the cut gives, what the tokens show and what the last segment is the
    last of.  And a name that is joined to a path is one segment more, for all of them. -/
theorem path_grammar (s : String) :
    (Name.isPath s = true ↔ s.toList ∈ Name.pathPattern.matches') ∧
    (Name.isPath s = true ↔ ∃ leading ws, Composed s leading ws) ∧
    (∀ leading ws, Composed s leading ws →
      (∀ leading' ws', Composed s leading' ws' → leading' = leading ∧ ws' = ws) ∧
      Name.split s = (leading, ws) ∧
      (∃ p, Path.ofName? s = some p ∧ p.tokens = segmentsTokens leading ws ∧
        p.tokens.flatMap unmarked = s.toList) ∧
      ws.getLast? = some (Name.lastSegment s)) ∧
    (Name.isPath s = true → ∀ n, Name.isIdentifier n = true →
      Name.isPath (Name.join s n) = true ∧
      Name.lastSegment (Name.join s n) = n ∧
      ∃ p q, Path.ofName? s = some p ∧ Path.ofName? (Name.join s n) = some q ∧
        q.tokens = p.tokens ++ Token.marks "::" ++ segmentTokens n) := by
  refine ⟨Name.isPath_iff_matches, ⟨fun h => ⟨_, _, Name.composed_split h⟩, ?_⟩, ?_, ?_⟩
  · rintro ⟨leading, ws, h⟩
    exact (Name.composed_iff.mp h).1
  · intro leading ws h
    have hsplit := (Name.composed_iff.mp h).2
    obtain ⟨p, hp, htokens⟩ := tokens_of_composed h
    refine ⟨fun leading' ws' h' => ?_, hsplit, ⟨p, hp, htokens, ?_⟩, h.getLast?⟩
    · exact Prod.mk.inj ((Name.composed_iff.mp h').2.symm.trans hsplit)
    · rw [htokens, unmarked_segmentsTokens h.words, ← h.spelled]
  · intro hpath n hn
    have hcolon := Name.not_mem_of_isIdentifier hn
    have hjoin := Name.isPath_join hpath (Name.isIdentifier_iff.mp hn).1
    have hparent := Name.composed_split hpath
    obtain ⟨p, hp, htokens⟩ := tokens_of_composed hparent
    obtain ⟨q, hq, htokens'⟩ := tokens_of_composed (Name.composed_split hjoin)
    refine ⟨hjoin, Name.lastSegment_join hcolon, p, q, hp, hq, ?_⟩
    rw [htokens, htokens', Name.split_join hpath hcolon, segmentsTokens_concat hparent.nonempty]

/-- An absolute path with two keywords in it, one of which is escaped where it is written, and one
    keyword more. -/
theorem path_grammar_keywords :
    "::crate::type".toList ∈ Name.pathPattern.matches' ∧
      Name.lastSegment "::crate::type::match" = "match" ∧
      ∃ p q, Path.ofName? "::crate::type" = some p ∧ Path.ofName? "::crate::type::match" = some q ∧
        p.tokens = Token.marks "::" ++ [.word "crate"] ++ Token.marks "::" ++ [.word "r#type"] ∧
        q.tokens = p.tokens ++ Token.marks "::" ++ [.word "r#match"] := by
  have hpath : Name.isPath "::crate::type" = true := by decide
  obtain ⟨hmatches, -, hread, hjoin⟩ := path_grammar "::crate::type"
  obtain ⟨-, hlast, p, q, hp, hq, htokens⟩ := hjoin hpath "match" (by decide)
  obtain ⟨-, -, ⟨p', hp', htokens', -⟩, -⟩ := hread _ _ (Name.composed_split hpath)
  cases hp.symm.trans hp'
  refine ⟨hmatches.mp hpath, hlast, p, q, hp, hq, htokens'.trans ?_, htokens⟩
  decide

end FluentBuilders.Code
