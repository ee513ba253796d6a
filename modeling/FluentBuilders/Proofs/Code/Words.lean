/-
  Words — what the words among the tokens of a text are.

  Wherever the tokens of a text hold a word, the text holds one: a word in the sense of the
  generated language, or such a word with the raw mark in front of it (`proper_of_ofText?`).
  Documentation adds the only word that is not written down.
-/
import FluentBuilders.Code.Reserved
import FluentBuilders.Code.TokenText

namespace FluentBuilders.Code

variable {cs rest due : List Char} {v : String} {t : Token} {ts : List Token} {n : Nat}

/-! ## Words -/

theorem isWordPart_of_isWordStart {c : Char} (h : Text.isWordStart c = true) :
    Text.isWordPart c = true := by
  rw [Text.isWordStart] at h
  rw [Text.isWordPart]
  split
  · rename_i hc
    rw [if_pos hc, Bool.or_eq_true] at h
    rw [Bool.or_eq_true, Char.isAlphanum, Bool.or_eq_true]
    exact h.imp_left .inl
  · rename_i hc
    rw [if_neg hc] at h
    rw [h]
    rfl

theorem isWordPart_of_isWord (h : Text.isWord cs = true) : ∀ c ∈ cs, Text.isWordPart c = true := by
  cases cs with
  | nil => cases h
  | cons c r =>
    rw [Text.isWord, Bool.and_eq_true, List.all_eq_true] at h
    exact List.forall_mem_cons.mpr ⟨isWordPart_of_isWordStart h.1, h.2⟩

/-- What stands in no word is not in one. -/
theorem ne_of_mem_word {c x : Char} (h : Text.isWord cs = true) (hc : c ∈ cs)
    (hx : Text.isWordPart x = false) : c ≠ x := by
  rintro rfl
  cases hx.symm.trans (isWordPart_of_isWord h c hc)

/-! ## Tokens -/

/-- A token that is no word, or is one, or is written raw. -/
def Token.Proper : Token → Prop
  | .word v => v.startsWith "r#" = true ∨ Text.isWord v.toList = true
  | _ => True

/-- What stands in front of the rest is a word. -/
theorem isWord_of_afterWord? (h : Literal.afterWord? cs = some rest) :
    Text.isWord (cs.take (cs.length - rest.length)) = true := by
  cases cs with
  | nil => cases h
  | cons c r =>
    rw [Literal.afterWord?] at h
    split at h
    · rename_i hc
      cases h
      have hsplit : c :: r = (c :: r.takeWhile Text.isWordPart) ++ r.dropWhile Text.isWordPart := by
        rw [List.cons_append, List.takeWhile_append_dropWhile]
      have hfront : (c :: r).take ((c :: r).length - (r.dropWhile Text.isWordPart).length)
          = c :: r.takeWhile Text.isWordPart := by
        rw [hsplit, List.length_append, Nat.add_sub_cancel, List.take_left]
      rw [hfront, Text.isWord, hc]
      exact List.all_takeWhile
    · cases h

theorem proper_of_word? (h : TokenText.word? cs = some (v, rest)) : (Token.word v).Proper := by
  rw [TokenText.word?.eq_def] at h
  split at h
  · obtain ⟨s, -, h⟩ := Option.bind_eq_some_iff.mp h
    dsimp only at h
    split at h
    · cases h
    · cases h
      exact .inl (String.startsWith_string_iff.mpr (by simp))
  · obtain ⟨s, hs, h⟩ := Option.bind_eq_some_iff.mp h
    cases h
    refine .inr ?_
    rw [String.toList_ofList]
    exact isWord_of_afterWord? hs

theorem proper_of_leaf? (h : TokenText.leaf? cs = some (t, rest)) : t.Proper := by
  rw [TokenText.leaf?.eq_def] at h
  split at h
  · cases h
    trivial
  · obtain ⟨⟨w, s⟩, -, h⟩ := Option.bind_eq_some_iff.mp h
    dsimp only at h
    split at h
    · cases h
    · cases h
      trivial
  · split at h
    · cases h
      trivial
    · split at h
      · cases h
      · obtain ⟨⟨w, s⟩, hw, h⟩ := Option.map_eq_some_iff.mp h
        cases h
        exact proper_of_word? hw
  · cases h

/-- The word that documentation adds is one. -/
theorem proper_of_documentation? (h : TokenText.documentation? cs = some (ts, rest)) :
    ∀ t ∈ ts, t.Proper := by
  have hdescribing : ∀ (inner : Bool) (text : List Char),
      ∀ t ∈ TokenText.describing inner text, t.Proper := by
    intro inner text t ht
    cases t with
    | word v =>
      have hv : v = "doc" := by
        cases inner <;> simpa [TokenText.describing, Token.between] using ht
      rw [hv]
      exact .inr (by decide)
    | mark c joint => trivial
    | literal s => trivial
  rw [TokenText.documentation?.eq_def] at h
  split at h
  · split at h
    · dsimp only at h
      split at h
      · cases h
        exact hdescribing _ _
      · cases h
    · cases h
  · split at h
    · cases h
    · obtain ⟨s, -, h⟩ := Option.bind_eq_some_iff.mp h
      dsimp only at h
      split at h
      · cases h
        exact hdescribing _ _
      · cases h
  · cases h

/-- **Tokens that are read are proper.** -/
theorem proper_of_tokens (h : TokenText.tokens n due cs = some ts) : ∀ t ∈ ts, t.Proper := by
  induction n generalizing due cs ts with
  | zero => cases h
  | succ n ih =>
    -- one token or the annotation of some documentation, then the tokens of the rest
    have hcons : ∀ {t : Token} {due rest}, t.Proper →
        (t :: ·) <$> TokenText.tokens n due rest = some ts → ∀ t ∈ ts, t.Proper := by
      intro t due rest ht hr
      obtain ⟨us, hus, hr⟩ := Option.map_eq_some_iff.mp hr
      cases hr
      exact List.forall_mem_cons.mpr ⟨ht, ih hus⟩
    rw [TokenText.tokens] at h
    dsimp only at h
    split at h
    · rename_i hdoc
      obtain ⟨us, hus, h⟩ := Option.map_eq_some_iff.mp h
      cases h
      exact List.forall_mem_append.mpr ⟨proper_of_documentation? hdoc, ih hus⟩
    · split at h
      · cases h
        exact fun _ ht => absurd ht List.not_mem_nil
      · cases h
    · split at h
      · exact hcons (t := .mark _ _) trivial h
      · split at h
        · split at h
          · exact hcons (t := .mark _ _) trivial h
          · cases h
        · obtain ⟨⟨t, rest⟩, ht, h⟩ := Option.bind_eq_some_iff.mp h
          exact hcons (proper_of_leaf? ht) h

/-- **The words of a text** are words, or written raw. -/
theorem proper_of_ofText? {s : String} (h : Token.ofText? s = some ts) : ∀ t ∈ ts, t.Proper :=
  proper_of_tokens h

/-- A word that is not written raw is the identifier as it stands. -/
theorem ofWord_of_not_raw (h : (Ident.ofWord v).raw = false) : Ident.ofWord v = ⟨v, false⟩ := by
  rw [Ident.ofWord] at h ⊢
  split
  · rename_i hr
    rw [if_pos hr] at h
    cases h
  · rfl

/-- A word among the tokens of a text that is not written raw is a word. -/
theorem isWord_of_proper (h : (Token.word v).Proper) (hr : (Ident.ofWord v).raw = false) :
    Text.isWord v.toList = true := by
  rcases h with h | h
  · rw [Ident.ofWord, if_pos h] at hr
    cases hr
  · exact h

end FluentBuilders.Code
