/-
  Respelling — a path that was read, and what its text is read as when it is cut into names.

  The path of the support library is used in two ways: as a tree, and as a text behind which the
  name of its set is put.  The text is cut at its separators and each piece made an identifier
  again.  That works exactly if the path is words alone (`Path.Bare`), and it gives the same tokens
  exactly if none of the words is one that a name has to be escaped for and a path does not
  (`Path.Verbatim`).
-/
import FluentBuilders.Catalogue
import FluentBuilders.Proofs.Code.Segments
import FluentBuilders.Proofs.Code.Spelling

namespace FluentBuilders.Code

open Name (chained spelling)

variable {p : Path} {name : String} {leading : Bool} {w : String} {ws : List String} {x : Char}
  {seg : Segment} {segs : List Segment}

/-- A path of words that are written as they are. -/
def Path.Bare (p : Path) : Prop := ∀ s ∈ p.segments, ∃ w, s = .word w

/-- A path of words that are written as they are, in a path and as a name. -/
def Path.Verbatim (p : Path) : Prop :=
  ∀ s ∈ p.segments, ∃ w, s = .word w ∧ w ≠ "try" ∧ w ≠ "gen"

/-- What is written verbatim is bare. -/
theorem Path.Verbatim.bare (h : p.Verbatim) : p.Bare := by
  intro s hs
  obtain ⟨w, hw, -⟩ := h s hs
  exact ⟨w, hw⟩

/-! ## Marks -/

/-- A text with a character that stands in no word is no path of names. -/
theorem ofName?_eq_none (hx : x ∈ name.toList) (hcolon : x ≠ ':') (hstar : x ≠ '*')
    (hpart : Text.isWordPart x = false) : Path.ofName? name = none := by
  rw [← Option.not_isSome_iff_eq_none, isSome_pathOfName?]
  intro hspelled
  -- the character is in one of the pieces, and that piece is no word
  have hrest : x ∈ (Name.stripLeading name.toList).2 := by
    rw [Name.stripLeading.eq_def]
    split
    · rename_i r hr
      rw [hr] at hx
      simpa [hcolon] using hx
    · exact hx
  obtain ⟨w, ws, hpieces, hjoined⟩ := Name.eq_of_pieces (Name.stripLeading name.toList).2
  have hpiece : ∃ y ∈ w :: ws, x ∈ y := by
    rw [hjoined] at hrest
    rcases List.mem_append.mp hrest with h | h
    · exact ⟨w, List.mem_cons_self, h⟩
    · obtain ⟨y, hy, h⟩ := List.mem_flatMap.mp h
      exact ⟨y, List.mem_cons_of_mem _ hy, by simpa [hcolon] using h⟩
  obtain ⟨y, hy, hxy⟩ := hpiece
  have hmem : String.ofList y ∈ (Name.split name).2 := by
    rw [Name.split_eq, hpieces]
    exact List.mem_map_of_mem hy
  have hne : String.ofList y ≠ "*" := by
    intro h
    have hy := congrArg String.toList h
    rw [String.toList_ofList] at hy
    rw [hy] at hxy
    exact hstar (List.mem_singleton.mp hxy)
  have hword := hspelled _ (List.mem_filter.mpr ⟨hmem, decide_eq_true hne⟩)
  rw [String.toList_ofList] at hword
  exact Bool.false_ne_true (hpart.symm.trans (isWordPart_of_isWord hword x hxy))

/-- A mark leaves a character behind that stands in no word. -/
theorem exists_of_marked (h : seg.Marked) :
    ∃ t ∈ seg.tokens, ∃ x ∈ t.text.toList, x = '#' ∨ x = '<' := by
  cases h with
  | @raw i a hr =>
    refine ⟨.word i.spelled, List.mem_cons_self, '#', ?_, .inl rfl⟩
    show '#' ∈ i.spelled.toList
    rw [Ident.spelled, if_pos hr, String.toList_append]
    exact List.mem_append_left _ (by decide)
  | @applied i turbo items comma =>
    refine ⟨.mark '<', ?_, '<', List.mem_singleton.mpr rfl, .inr rfl⟩
    rw [Segment.tokens, Arguments.tokens, Token.between]
    simp

theorem mem_tokensList (h : seg ∈ segs) : seg.tokens ⊆ Segment.tokensList segs := by
  induction segs with
  | nil => cases h
  | cons s r ih =>
    cases r with
    | nil => rw [List.mem_singleton.mp h]; exact List.Subset.refl _
    | cons u r =>
      rw [Segment.tokensList]
      rcases List.mem_cons.mp h with rfl | h
      · exact fun t ht => List.mem_append_left _ (List.mem_append_left _ ht)
      · exact fun t ht => List.mem_append_right _ (ih h ht)

/-- **A path with a mark** on one of its segments has no text that could be cut into names, whatever
    is put behind it. -/
theorem ofName?_join_of_marked {child : String} (h : ∃ seg ∈ p.segments, seg.Marked) :
    Path.ofName? (Name.join p.compact child) = none := by
  obtain ⟨seg, hseg, hm⟩ := h
  obtain ⟨t, ht, x, hx, hmark⟩ := exists_of_marked hm
  obtain ⟨leading, segs⟩ := p
  have htokens : t ∈ (Path.mk leading segs).tokens :=
    List.mem_append_right _ (mem_tokensList hseg ht)
  have hblank : (x != ' ') = true := by
    rcases hmark with rfl | rfl <;> rfl
  have hcompact : x ∈ (Path.mk leading segs).compact.toList := by
    rw [Path.compact, String.toList_ofList, List.mem_filter]
    exact ⟨List.mem_flatMap.mpr ⟨t, htokens, hx⟩, hblank⟩
  have hjoin : x ∈ (Name.join (Path.mk leading segs).compact child).toList := by
    rw [Name.join, String.toList_append, String.toList_append]
    exact List.mem_append_left _ (List.mem_append_left _ hcompact)
  rcases hmark with rfl | rfl
  · exact ofName?_eq_none hjoin (by decide) (by decide) (by decide)
  · exact ofName?_eq_none hjoin (by decide) (by decide) (by decide)

/-! ## Words -/

/-- The words of a path as identifiers that are escaped as names are. -/
def escapedSegments (ws : List String) : List Segment :=
  ws.map fun w => .ofIdent ⟨w, Name.isEscaped w⟩

/-- A word is a segment, escaped where it has to be. -/
theorem ofName?_of_isWord (h : Text.isWord w.toList = true) :
    Segment.ofName? w = some (.ofIdent ⟨w, Name.isEscaped w⟩) := by
  have hstar : w ≠ "*" := by
    rintro rfl
    revert h
    decide
  rw [Segment.ofName?, if_neg hstar, Ident.ofName?, if_pos h]
  rfl

theorem mapM_ofName? (h : ∀ w ∈ ws, Text.isWord w.toList = true) :
    ws.mapM Segment.ofName? = some (escapedSegments ws) := by
  induction ws with
  | nil => rfl
  | cons w ws ih =>
    obtain ⟨hw, hws⟩ := List.forall_mem_cons.mp h
    rw [List.mapM_cons, ofName?_of_isWord hw, ih hws]
    rfl

/-- The text of words with separators between them, and perhaps one in front. -/
theorem toList_compact (h : ∀ x ∈ w :: ws, Text.isWord x.toList = true) :
    (Path.mk leading (wordSegments (w :: ws))).compact.toList
      = spelling leading w.toList (ws.map String.toList) := by
  have hsegments : wordSegments (w :: ws)
      = (w.toList :: ws.map String.toList).map fun x => .word (String.ofList x) := by
    simp [wordSegments, Function.comp_def]
  have htokens : runTogether (Path.mk leading (wordSegments (w :: ws))).tokens
      = spelling leading w.toList (ws.map String.toList) := by
    rw [Path.tokens, runTogether_append, hsegments, runTogether_tokensList]
    cases leading <;> rfl
  have hblank : ∀ c ∈ spelling leading w.toList (ws.map String.toList), (c != ' ') = true := by
    refine Name.forall_mem_spelling rfl ?_
    rw [← List.map_cons, List.forall_mem_map]
    exact fun x hx c hc => bne_iff_ne.mpr (ne_of_mem_word (h x hx) hc (by decide))
  rw [Path.compact, String.toList_ofList]
  show (runTogether _).filter _ = _
  rw [htokens, List.filter_eq_self.mpr hblank]

/-- **A path of words** is cut into its words again, with what is put behind it. -/
theorem ofName?_join_of_words {child : String} (h : ∀ x ∈ w :: ws, Text.isWord x.toList = true)
    (hc : Text.isWord child.toList = true) :
    Path.ofName? (Name.join (Path.mk leading (wordSegments (w :: ws))).compact child)
      = some (.mk leading (escapedSegments (w :: ws ++ [child]))) := by
  have hall : ∀ x ∈ w :: ws ++ [child], Text.isWord x.toList = true :=
    List.forall_mem_append.mpr ⟨h, List.forall_mem_singleton.mpr hc⟩
  have hcolon : ∀ x ∈ w.toList :: (ws.map String.toList ++ [child.toList]), ':' ∉ x := by
    have hm : w.toList :: (ws.map String.toList ++ [child.toList])
        = (w :: ws ++ [child]).map String.toList := by simp
    rw [hm, List.forall_mem_map]
    exact fun x hx hmem => ne_of_mem_word (hall x hx) hmem (by decide) rfl
  have hne : w.toList ≠ [] := by
    intro hw
    have hword := h w List.mem_cons_self
    rw [hw] at hword
    cases hword
  have hsplit : Name.split (Name.join (Path.mk leading (wordSegments (w :: ws))).compact child)
      = (leading, w :: ws ++ [child]) := by
    rw [Name.split_spelling hne hcolon (Name.toList_join (toList_compact h))]
    simp [Function.comp_def]
  rw [Path.ofName?, hsplit, mapM_ofName? hall]
  rfl

/-! ## Tokens -/

/-- The words among some tokens. -/
def wordsOf (ts : List Token) : List String :=
  ts.filterMap fun t =>
    match t with
    | .word w => some w
    | _ => none

theorem wordsOf_append (ts us : List Token) : wordsOf (ts ++ us) = wordsOf ts ++ wordsOf us :=
  List.filterMap_append

/-- The words among the tokens of a path are those of its segments, as they are spelled. -/
theorem wordsOf_tokensList (f : String → Ident) : ∀ ws : List String,
    wordsOf (Segment.tokensList (ws.map fun w => .ofIdent (f w))) = ws.map fun w => (f w).spelled
  | [] => rfl
  | [_] => rfl
  | w :: x :: ws => by
    have ih := wordsOf_tokensList f (x :: ws)
    rw [List.map_cons, List.map_cons] at ih ⊢
    rw [Segment.tokensList, wordsOf_append, ih]
    rfl

/-- Escaping a word changes what is written. -/
theorem tokensList_escaped_eq_iff :
    Segment.tokensList (escapedSegments ws) = Segment.tokensList (wordSegments ws) ↔
      ∀ w ∈ ws, Name.isEscaped w = false := by
  constructor
  · intro h w hw
    have hwords := congrArg wordsOf h
    rw [escapedSegments, wordsOf_tokensList] at hwords
    rw [wordSegments, show (Segment.word : String → Segment)
      = fun w => .ofIdent ⟨w, false⟩ from rfl, wordsOf_tokensList] at hwords
    have hspelled := List.map_inj_left.mp hwords w hw
    cases he : Name.isEscaped w with
    | false => rfl
    | true =>
      have hlen := congrArg String.length hspelled
      simp [Ident.spelled, he] at hlen
  · intro h
    refine congrArg Segment.tokensList (List.map_congr_left fun w hw => ?_)
    rw [h w hw]
    rfl

/-- Of the words that may be segments two are escaped as names. -/
theorem isEscaped_iff (h : Admitted w) : Name.isEscaped w = true ↔ w = "try" ∨ w = "gen" := by
  constructor
  · intro he
    rw [Name.isEscaped, Bool.and_eq_true, List.contains_iff_mem] at he
    have hkeywords : ∀ x ∈ Name.keywords, x = "try" ∨ x = "gen" ∨ x ∈ Name.placeWords ∨
        x ∈ reservedWords ∧ x ∉ segmentWords := by
      decide +kernel
    rcases hkeywords w he.1 with ht | hg | hp | ⟨hr, hs⟩
    · exact .inl ht
    · exact .inr hg
    · rw [List.contains_iff_mem.mpr hp] at he
      cases he.2
    · exact (h.free.elim (absurd hr) (absurd · hs))
  · rintro (rfl | rfl) <;> decide

theorem tokensList_concat {s : Segment} (h : segs ≠ []) : Segment.tokensList (segs ++ [s])
    = Segment.tokensList segs ++ Token.marks "::" ++ s.tokens := by
  induction segs with
  | nil => exact absurd rfl h
  | cons u r ih =>
    cases r with
    | nil => rfl
    | cons v r =>
      have hr := ih (List.cons_ne_nil v r)
      rw [List.cons_append] at hr
      rw [List.cons_append, List.cons_append, Segment.tokensList, hr, Segment.tokensList]
      simp only [List.append_assoc]

theorem applyLast_concat {s : Segment} (a : Arguments) : ∀ segs : List Segment,
    Path.applyLast a (segs ++ [s]) = segs ++ [s.withArguments a]
  | [] => rfl
  | [_] => rfl
  | u :: v :: r => by
    rw [List.cons_append, List.cons_append, Path.applyLast, ← List.cons_append,
      applyLast_concat a (v :: r)]
    rfl

/-- A path with one more word behind it, applied to a type. -/
theorem tokens_of_push (h : p.segments ≠ []) (w : String) (t : Ty) :
    ((p.push (.word w)).of [t]).tokens
      = p.tokens ++ Token.marks "::" ++ .word w :: Token.between '<' '>' t.tokens := by
  obtain ⟨leading, segs⟩ := p
  have happlied : ((Path.mk leading segs).push (.word w)).of [t]
      = .mk leading (segs ++ [.mk (.ident ⟨w, false⟩) (.types false [.type t] false)]) := by
    show Path.mk leading (Path.applyLast _ (segs ++ [.word w])) = _
    rw [applyLast_concat]
    rfl
  have hsegs : segs ≠ [] := h
  rw [happlied, Path.tokens, tokensList_concat hsegs, Path.tokens]
  simp [Segment.tokens, Head.tokens, Ident.tokens, Ident.spelled, Arguments.tokens,
    Argument.tokensList, Argument.tokens, optionalMark]

/-! ## The set of the support library -/

/-- A path that was read has a segment. -/
theorem segments_ne_nil {text : String} (h : Path.ofText text = .ok p) : p.segments ≠ [] := by
  rcases ofText_cases h with ⟨seg, hseg, -⟩ | ⟨w, ws, hws, -⟩
  · exact List.ne_nil_of_mem hseg
  · rw [hws]
    exact List.cons_ne_nil _ _

/-- **The name of the set** behind the text of the support path: it can be made a path exactly if
    the support path is bare, and that path is written as the support path is, with the name of the
    set behind it, exactly if the support path is verbatim. -/
theorem ofName?_supportSet {text : String} (h : Path.ofText text = .ok p) :
    ¬ p.Bare ∧ Path.ofName? (Catalogue.supportSet p.compact) = none ∨
      p.Bare ∧ ∃ q : Path, Path.ofName? (Catalogue.supportSet p.compact)
          = some (q.push (.word "IndexSet")) ∧
        q.segments ≠ [] ∧ (q.tokens = p.tokens ↔ p.Verbatim) := by
  rcases ofText_cases h with hm | ⟨w, ws, hws, hall⟩
  · refine .inl ⟨?_, ofName?_join_of_marked hm⟩
    intro hbare
    obtain ⟨seg, hseg, hm⟩ := hm
    obtain ⟨w, rfl⟩ := hbare seg hseg
    cases hm with
    | raw hr => cases hr
  · obtain ⟨leading, segs⟩ := p
    have hsegs : segs = wordSegments (w :: ws) := hws
    subst hsegs
    have hverbatim : (Path.mk leading (wordSegments (w :: ws))).Verbatim ↔
        ∀ x ∈ w :: ws, x ≠ "try" ∧ x ≠ "gen" := by
      show (∀ s ∈ (w :: ws).map Segment.word, _) ↔ _
      rw [List.forall_mem_map]
      refine forall₂_congr fun x _ => ⟨?_, fun hx => ⟨x, rfl, hx⟩⟩
      rintro ⟨y, hy, hne⟩
      cases hy
      exact hne
    refine .inr ⟨List.forall_mem_map.mpr fun x _ => ⟨x, rfl⟩,
      .mk leading (escapedSegments (w :: ws)), ?_, List.cons_ne_nil _ _, ?_⟩
    · rw [Catalogue.supportSet, ofName?_join_of_words (fun x hx => (hall x hx).1) (by decide)]
      rw [escapedSegments, List.map_append]
      rfl
    · rw [Path.tokens, Path.tokens, List.append_cancel_left_eq, tokensList_escaped_eq_iff,
        hverbatim]
      refine forall₂_congr fun x hx => ?_
      rw [← not_or, ← isEscaped_iff (hall x hx).2, Bool.not_eq_true]

end FluentBuilders.Code
