/-
  Path texts — a path of plain words is read as what is written.

  In such a text there are no blanks, no comments and no quotes, so each segment is one word and
  each separator two marks (`tokens_chained`).  A reader of paths takes them all, and nothing can be
  applied to a segment, because what follows is a separator with a word behind it or the end.  So
  what is read is written with the same characters again (`compact_of_isPath`).
-/
import FluentBuilders.Code.PathText
import FluentBuilders.Proofs.Name.Paths
import FluentBuilders.Proofs.Outcome

namespace FluentBuilders.Code

open Name (isPart isPlain chained chained_cons spelling isPart_of_isPlain isPlain_cons)

variable {w cs : List Char} {ws : List (List Char)} {due : List Char} {n : Nat}

/-! ## Words -/

/-- The rest of a path behind a segment: nothing, or a separator. -/
def IsRest (cs : List Char) : Prop := cs = [] ∨ ∃ r, cs = ':' :: r

/-- Behind a word of a path comes a separator or nothing. -/
theorem isRest_chained (ws : List (List Char)) : IsRest (chained ws) := by
  cases ws with
  | nil => exact .inl rfl
  | cons w ws => exact .inr ⟨_, rfl⟩

theorem isWordStart_of_isStart {c : Char} (h : Name.isStart c = true) :
    Text.isWordStart c = true := by
  rw [Text.isWordStart, if_pos (Name.lt_of_isPart (Name.isPart_of_isStart h))]
  exact h

theorem isWordPart_of_isPart {c : Char} (h : isPart c = true) : Text.isWordPart c = true := by
  rw [Text.isWordPart, if_pos (Name.lt_of_isPart h)]
  exact h

theorem dropWhile_isWordPart (hw : ∀ c ∈ w, isPart c = true) (hr : IsRest cs) :
    (w ++ cs).dropWhile Text.isWordPart = cs := by
  have hcs : cs.dropWhile Text.isWordPart = cs := by
    rcases hr with rfl | ⟨r, rfl⟩
    · rfl
    · rw [List.dropWhile_cons_of_neg (by decide)]
  rw [List.dropWhile_append_of_pos fun c hc => isWordPart_of_isPart (hw c hc), hcs]

theorem afterWord?_append (hw : isPlain w = true) (hr : IsRest cs) :
    Literal.afterWord? (w ++ cs) = some cs := by
  cases w with
  | nil => cases hw
  | cons c w =>
    obtain ⟨hc, hw⟩ := isPlain_cons.mp hw
    rw [List.cons_append, Literal.afterWord?, if_pos (isWordStart_of_isStart hc),
      dropWhile_isWordPart hw hr]

/-! ## Tokens -/

/-- The characters that a path is written with. -/
def isPathChar (c : Char) : Bool := isPart c || c == ':'

theorem isPathChar_of_isPart {c : Char} (h : isPart c = true) : isPathChar c = true := by
  rw [isPathChar, h]
  rfl

theorem isPathChar_chained (hws : ∀ w ∈ ws, isPlain w = true) :
    ∀ c ∈ chained ws, isPathChar c = true :=
  Name.forall_mem_chained rfl fun w hw c hc =>
    isPathChar_of_isPart (isPart_of_isPlain (hws w hw) c hc)

theorem isPathChar_append (hw : ∀ c ∈ w, isPart c = true) (hcs : ∀ c ∈ cs, isPathChar c = true) :
    ∀ c ∈ w ++ cs, isPathChar c = true :=
  List.forall_mem_append.mpr ⟨fun c hc => isPathChar_of_isPart (hw c hc), hcs⟩

theorem isPathChar_spelling {leading : Bool} (hws : ∀ x ∈ w :: ws, isPlain x = true) :
    ∀ c ∈ spelling leading w ws, isPathChar c = true :=
  Name.forall_mem_spelling rfl fun x hx c hc =>
    isPathChar_of_isPart (isPart_of_isPlain (hws x hx) c hc)

/-- What holds of the characters of paths can be found out one by one. -/
theorem of_isPathChar {P : Char → Prop} {c : Char} (h : isPathChar c = true)
    (hP : ∀ n < 0x80, isPathChar (Char.ofNat n) = true → P (Char.ofNat n)) : P c := by
  have hc : c.toNat < 0x80 := by
    rw [isPathChar, Bool.or_eq_true, beq_iff_eq] at h
    rcases h with h | rfl
    · exact Name.lt_of_isPart h
    · decide
  exact Name.of_ascii (P := fun c => isPathChar c = true → P c) hP hc h

/-- A path holds no quotes, no hash marks and no slashes. -/
theorem ne_of_isPathChar {c x : Char} (h : isPathChar c = true) (hx : isPathChar x = false) :
    c ≠ x := by
  rintro rfl
  cases h.symm.trans hx

/-- Nothing in a path text begins a raw literal. -/
theorem afterRaw_eq_none (q : Literal.Quoting) (h : ∀ c ∈ cs, isPathChar c = true) :
    Literal.afterRaw q cs = none := by
  cases cs with
  | nil => rfl
  | cons c r =>
    have hc := h c List.mem_cons_self
    have hash : c ≠ '#' := ne_of_isPathChar hc (by decide)
    have quote : c ≠ '"' := ne_of_isPathChar hc (by decide)
    rw [Literal.afterRaw, List.takeWhile_cons_of_neg (by simpa using hash)]
    simp only [List.length_nil, List.drop_zero]
    split
    · rename_i he
      exact absurd (List.cons.inj he).1 quote
    · rfl

/-- No literal begins where a path goes on. -/
theorem after?_eq_none {c : Char} (hc : c.isDigit = false)
    (h : ∀ x ∈ c :: cs, isPathChar x = true) : Literal.after? (c :: cs) = none := by
  have hq : ∀ x ∈ c :: cs, x ≠ '"' ∧ x ≠ '\'' := fun x hx =>
    ⟨ne_of_isPathChar (h x hx) (by decide), ne_of_isPathChar (h x hx) (by decide)⟩
  rw [Literal.after?.eq_def]
  split <;> rename_i he
  · exact absurd (List.cons.inj he).1 (hq c List.mem_cons_self).1
  · rw [(List.cons.inj he).2] at h
    exact afterRaw_eq_none _ (List.forall_mem_cons.mp h).2
  · rw [he] at hq
    exact absurd rfl (hq '"' (by simp)).1
  · rw [he] at h
    exact afterRaw_eq_none _ (List.forall_mem_cons.mp (List.forall_mem_cons.mp h).2).2
  · rw [he] at hq
    exact absurd rfl (hq '\'' (by simp)).2
  · rw [he] at hq
    exact absurd rfl (hq '"' (by simp)).1
  · rw [he] at h
    exact afterRaw_eq_none _ (List.forall_mem_cons.mp (List.forall_mem_cons.mp h).2).2
  · rw [he] at hq
    exact absurd rfl (hq '\'' (by simp)).2
  · rw [Literal.afterNumber, hc]
    rfl

/-- No beginning of a text or a byte is made of the characters of paths. -/
theorem quoteBeginnings_eq_false (h : ∀ x ∈ cs, isPathChar x = true) :
    TokenText.quoteBeginnings.any (·.isPrefixOf cs) = false := by
  have hq : TokenText.quoteBeginnings.all (·.any (!isPathChar ·)) = true := by decide
  rw [List.any_eq_false]
  intro q hm hp
  obtain ⟨x, hx, hn⟩ := List.any_eq_true.mp (List.all_eq_true.mp hq q hm)
  have hx' := (List.isPrefixOf_iff_prefix.mp hp).subset hx
  rw [h x hx'] at hn
  cases hn

theorem startsWithMark_cons {c : Char} (h : isPathChar c = true) :
    TokenText.startsWithMark (c :: cs) = (c == ':') := by
  have hslash : c ≠ '/' := ne_of_isPathChar h (by decide)
  have hmark : TokenText.isMark c = (c == ':') :=
    of_isPathChar (P := fun c => TokenText.isMark c = (c == ':')) h (by decide)
  rw [TokenText.startsWithMark, hmark]
  · rintro _ rfl -
    exact hslash rfl
  · rintro _ rfl -
    exact hslash rfl

/-- Where a path goes on there is a colon or a word. -/
theorem leaf?_cons {c : Char} (hc : c.isDigit = false) (h : ∀ x ∈ c :: cs, isPathChar x = true) :
    TokenText.leaf? (c :: cs) =
      if c == ':' then some (.mark c (TokenText.startsWithMark cs), cs)
      else (TokenText.word? (c :: cs)).map fun (w, rest) => (.word w, rest) := by
  have hpath := h c List.mem_cons_self
  have hquote : c ≠ '\'' := ne_of_isPathChar hpath (by decide)
  rw [TokenText.leaf?.eq_def, after?_eq_none hc h]
  split
  · rename_i he
    cases he
  · rename_i he
    exact absurd (List.cons.inj he).1 hquote
  · rename_i he
    cases he
    rw [startsWithMark_cons hpath, quoteBeginnings_eq_false h]
    rfl
  · rename_i he
    cases he

/-- A colon is joint to a colon behind it. -/
theorem leaf?_colon (h : ∀ c ∈ cs, isPathChar c = true) :
    TokenText.leaf? (':' :: cs) = some (.mark ':' (cs.head? == some ':'), cs) := by
  have hjoint : TokenText.startsWithMark cs = (cs.head? == some ':') := by
    cases cs with
    | nil => rfl
    | cons c r => exact startsWithMark_cons (h c List.mem_cons_self)
  rw [leaf?_cons (by decide) (List.forall_mem_cons.mpr ⟨by decide, h⟩), hjoint]
  rfl

/-- The word at the front of a path text is read as it stands. -/
theorem word?_append (hw : isPlain w = true) (hr : IsRest cs)
    (h : ∀ c ∈ cs, isPathChar c = true) :
    TokenText.word? (w ++ cs) = some (String.ofList w, cs) := by
  have htake : (w ++ cs).take ((w ++ cs).length - cs.length) = w := by
    rw [List.length_append, Nat.add_sub_cancel, List.take_left]
  rw [TokenText.word?.eq_2, afterWord?_append hw hr]
  · show some (String.ofList ((w ++ cs).take ((w ++ cs).length - cs.length)), cs) = _
    rw [htake]
  · -- nothing is written raw without a hash mark
    intro r he
    have hash := isPathChar_append (isPart_of_isPlain hw) h '#' (by rw [he]; simp)
    cases hash

/-- At the front of a path text, a word is the first token. -/
theorem leaf?_word (hw : isPlain w = true) (hr : IsRest cs)
    (h : ∀ c ∈ cs, isPathChar c = true) :
    TokenText.leaf? (w ++ cs) = some (.word (String.ofList w), cs) := by
  have hall := isPathChar_append (isPart_of_isPlain hw) h
  have hword := word?_append hw hr h
  cases w with
  | nil => cases hw
  | cons c w =>
    obtain ⟨hc, -⟩ := isPlain_cons.mp hw
    have hpath := isPathChar_of_isPart (Name.isPart_of_isStart hc)
    have hfirst : c.isDigit = false ∧ (c == ':') = false :=
      of_isPathChar (P := fun c => Name.isStart c = true → c.isDigit = false ∧ (c == ':') = false)
        hpath (by decide) hc
    rw [List.cons_append] at hall hword ⊢
    rw [leaf?_cons hfirst.1 hall, hfirst.2, hword]
    rfl

theorem afterGaps_cons {c : Char} (h : isPathChar c = true) :
    TokenText.afterGaps n (c :: cs) = c :: cs := by
  have hslash : c ≠ '/' := ne_of_isPathChar h (by decide)
  have hgap : TokenText.isGap c = false :=
    of_isPathChar (P := fun c => TokenText.isGap c = false) h (by decide)
  cases n with
  | zero => rfl
  | succ n =>
    rw [TokenText.afterGaps, hgap]
    · rfl
    · rintro _ rfl -
      exact hslash rfl
    · rintro _ rfl -
      exact hslash rfl

/-- One token of a path. -/
theorem tokens_cons {c : Char} {t : Token} {rest : List Char} {ts : List Token}
    (h : isPathChar c = true) (hl : TokenText.leaf? (c :: cs) = some (t, rest))
    (ht : TokenText.tokens n due rest = some ts) :
    TokenText.tokens (n + 1) due (c :: cs) = some (t :: ts) := by
  have hslash : c ≠ '/' := ne_of_isPathChar h (by decide)
  have hdoc : TokenText.documentation? (c :: cs) = none := by
    rw [TokenText.documentation?.eq_def]
    split
    · rename_i he
      exact absurd (List.cons.inj he).1 hslash
    · rename_i he
      exact absurd (List.cons.inj he).1 hslash
    · rfl
  have hbracket : Token.closing? c = none ∧ Token.isClosing c = false :=
    of_isPathChar (P := fun c => Token.closing? c = none ∧ Token.isClosing c = false) h (by decide)
  rw [TokenText.tokens, afterGaps_cons h]
  simp only [hdoc, hbracket.1, hbracket.2, hl]
  show (t :: ·) <$> TokenText.tokens n due rest = _
  rw [ht]
  rfl

/-- The tokens of segments with the separator in front of each of them. -/
def chainTokens (ws : List (List Char)) : List Token :=
  ws.flatMap fun w => [.mark ':' true, .mark ':', .word (String.ofList w)]

/-- The tokens of a path. -/
def pathTokens (leading : Bool) (w : List Char) (ws : List (List Char)) : List Token :=
  if leading then chainTokens (w :: ws) else .word (String.ofList w) :: chainTokens ws

/-- The tokens of a path text are its first word and those of the rest. -/
theorem tokens_word {ts : List Token} (hw : isPlain w = true) (hr : IsRest cs)
    (h : ∀ c ∈ cs, isPathChar c = true) (ht : TokenText.tokens n due cs = some ts) :
    TokenText.tokens (n + 1) due (w ++ cs) = some (.word (String.ofList w) :: ts) := by
  have hleaf := leaf?_word hw hr h
  cases w with
  | nil => cases hw
  | cons c w =>
    obtain ⟨hc, -⟩ := isPlain_cons.mp hw
    rw [List.cons_append] at hleaf ⊢
    exact tokens_cons (isPathChar_of_isPart (Name.isPart_of_isStart hc)) hleaf ht

/-- **The tokens of a path**, given steps enough. -/
theorem tokens_chained (hws : ∀ w ∈ ws, isPlain w = true) (hn : (chained ws).length < n) :
    TokenText.tokens n [] (chained ws) = some (chainTokens ws) := by
  induction ws generalizing n with
  | nil =>
    obtain ⟨n, rfl⟩ := Nat.exists_eq_succ_of_ne_zero (Nat.ne_of_gt hn)
    rfl
  | cons w ws ih =>
    obtain ⟨hw, hws⟩ := List.forall_mem_cons.mp hws
    have hlen : 0 < w.length := by
      cases w with
      | nil => cases hw
      | cons c w => exact Nat.succ_pos _
    -- two marks and a word are three steps
    obtain ⟨m, rfl⟩ : ∃ m, n = m + 3 := ⟨n - 3, by
      simp only [chained_cons, List.length_cons, List.length_append] at hn
      omega⟩
    have hm : (chained ws).length < m := by
      simp only [chained_cons, List.length_cons, List.length_append] at hn
      omega
    have hchars := isPathChar_chained hws
    have hword := isPathChar_append (isPart_of_isPlain hw) hchars
    have hcolon : (w ++ chained ws).head? ≠ some ':' := by
      cases w with
      | nil => cases hw
      | cons c w =>
        intro h
        have hc := isPart_of_isPlain hw c List.mem_cons_self
        rw [Option.some.inj h] at hc
        cases hc
    have hsecond := leaf?_colon hword
    rw [beq_eq_false_iff_ne.mpr hcolon] at hsecond
    have hboth : ∀ c ∈ ':' :: (w ++ chained ws), isPathChar c = true :=
      List.forall_mem_cons.mpr ⟨by decide, hword⟩
    have hfirst := leaf?_colon hboth
    rw [chained_cons]
    exact tokens_cons (by decide) hfirst
      (tokens_cons (by decide) hsecond (tokens_word hw (isRest_chained ws) hchars (ih hws hm)))

/-- **The tokens of a path text** are its words and the separators between them. -/
theorem ofText?_spelling {leading : Bool} {s : String} (hws : ∀ x ∈ w :: ws, isPlain x = true)
    (hs : s.toList = spelling leading w ws) :
    Token.ofText? s = some (pathTokens leading w ws) := by
  obtain ⟨hw, hrest⟩ := List.forall_mem_cons.mp hws
  have hmark : TokenText.withoutMark s.toList = spelling leading w ws := by
    rw [hs, TokenText.withoutMark.eq_def]
    split
    · rename_i he
      cases isPathChar_spelling hws '\uFEFF' (by rw [he]; exact List.mem_cons_self)
    · rfl
  rw [Token.ofText?, hmark]
  cases leading with
  | true => exact tokens_chained hws (Nat.lt_succ_self _)
  | false =>
    have hlen : (chained ws).length < (w ++ chained ws).length := by
      cases w with
      | nil => cases hw
      | cons c w =>
        simp only [List.length_append, List.length_cons]
        omega
    exact tokens_word hw (isRest_chained ws) (isPathChar_chained hrest) (tokens_chained hrest hlen)

/-! ## Reading -/

section Reading

open Reader Ahead

variable {α β : Type} {s s' : Source} {ts : List Token} {lo : Option Char}

/-- A chain of readers gives a value if both parts do, the second one on what the first one left. -/
theorem read_bind_eq_ok {r : Reader α} {f : α → Reader β} {b : β} :
    (r >>= f) s = .ok (b, s') ↔ ∃ a s₁, r s = .ok (a, s₁) ∧ f a s₁ = .ok (b, s') := by
  show (r s >>= fun p => f p.1 p.2) = _ ↔ _
  rw [bind_eq_ok, Prod.exists]

/-- An identifier is the word that comes next, if that is not reserved. -/
theorem ident_eq_ok {i : Ident} (h : ident ⟨ts, lo⟩ = .ok (i, s')) :
    ∃ v us, ts = .word v :: us ∧ (Ident.ofWord v).isFree = true ∧ i = Ident.ofWord v ∧
      s' = ⟨us, lo⟩ := by
  obtain ⟨_, _, hr, h⟩ := read_bind_eq_ok.mp h
  cases hr
  dsimp only at h
  split at h
  · split at h
    · rename_i hfree
      cases h
      exact ⟨_, _, rfl, hfree, rfl, rfl⟩
    · cases h
  · obtain ⟨_, _, -, h⟩ := read_bind_eq_ok.mp h
    cases h

theorem ofWord_of_isPlain (hw : isPlain w = true) :
    Ident.ofWord (String.ofList w) = ⟨String.ofList w, false⟩ := by
  rw [Ident.ofWord, if_neg]
  intro h
  -- a raw word has a hash mark
  have hash := (String.startsWith_string_iff.mp h).subset
    (List.mem_cons_of_mem 'r' List.mem_cons_self)
  rw [String.toList_ofList] at hash
  cases isPart_of_isPlain hw '#' hash

/-- Nothing is applied to a segment where further ones follow or nothing does. -/
theorem not_applied (ws : List (List Char)) :
    ¬ (!false && takesArguments (chainTokens ws) || takesTurbo (chainTokens ws)) = true := by
  cases ws <;> exact Bool.false_ne_true

/-- A segment that is read off the tokens of a path text is the word in front. -/
theorem readSegment_eq {seg : Segment} (hw : isPlain w = true)
    (h : readSegment false n ⟨.word (String.ofList w) :: chainTokens ws, lo⟩ = .ok (seg, s')) :
    seg = .word (String.ofList w) ∧ s' = ⟨chainTokens ws, lo⟩ := by
  cases n with
  | zero => cases h
  | succ n =>
    -- a place word has nothing applied to it, and to any other word there is nothing to apply
    rw [readSegment] at h
    obtain ⟨_, _, hs, h⟩ := read_bind_eq_ok.mp h
    cases hs
    split at h
    · obtain ⟨_, _, hi, h⟩ := read_bind_eq_ok.mp h
      cases hi
      cases h
      rw [ofWord_of_isPlain hw]
      exact ⟨rfl, rfl⟩
    · obtain ⟨_, _, hs, h⟩ := read_bind_eq_ok.mp h
      cases hs
      split at h
      · obtain ⟨_, _, hi, h⟩ := read_bind_eq_ok.mp h
        cases hi
        obtain ⟨_, _, hs, h⟩ := read_bind_eq_ok.mp h
        cases hs
        rw [if_neg (not_applied ws)] at h
        cases h
        rw [ofWord_of_isPlain hw]
        exact ⟨rfl, rfl⟩
      · obtain ⟨_, _, hi, h⟩ := read_bind_eq_ok.mp h
        obtain ⟨v, us, hts, -, rfl, rfl⟩ := ident_eq_ok hi
        cases hts
        obtain ⟨_, _, hs, h⟩ := read_bind_eq_ok.mp h
        cases hs
        rw [if_neg (not_applied ws)] at h
        cases h
        rw [ofWord_of_isPlain hw]
        exact ⟨rfl, rfl⟩

/-- The run over the segments: the step of `readSegment_eq` at every one of them. -/
theorem readSegments_eq {segs : List Segment} (hws : ∀ x ∈ w :: ws, isPlain x = true)
    (h : readSegments false true n ⟨.word (String.ofList w) :: chainTokens ws, lo⟩
      = .ok (segs, s')) :
    segs = (w :: ws).map (fun x => .word (String.ofList x)) ∧ s' = ⟨[], lo⟩ := by
  induction ws generalizing n w segs s' with
  | nil =>
    cases n with
    | zero => cases h
    | succ n =>
      rw [readSegments] at h
      obtain ⟨_, _, hseg, h⟩ := read_bind_eq_ok.mp h
      obtain ⟨rfl, rfl⟩ := readSegment_eq (hws w List.mem_cons_self) hseg
      cases h
      exact ⟨rfl, rfl⟩
  | cons x ws ih =>
    obtain ⟨hw, hws⟩ := List.forall_mem_cons.mp hws
    cases n with
    | zero => cases h
    | succ n =>
      rw [readSegments] at h
      obtain ⟨_, _, hseg, h⟩ := read_bind_eq_ok.mp h
      obtain ⟨rfl, rfl⟩ := readSegment_eq hw hseg
      obtain ⟨_, _, hs, h⟩ := read_bind_eq_ok.mp h
      cases hs
      obtain ⟨_, _, hs, h⟩ := read_bind_eq_ok.mp h
      cases hs
      obtain ⟨segs, _, hs, h⟩ := read_bind_eq_ok.mp h
      obtain ⟨rfl, rfl⟩ := ih hws hs
      cases h
      exact ⟨rfl, rfl⟩

/-- A path of plain words, as a tree. -/
theorem ofTokens_pathTokens {leading : Bool} {p : Path} (hws : ∀ x ∈ w :: ws, isPlain x = true)
    (h : Path.ofTokens (pathTokens leading w ws) = .ok p) :
    p = .mk leading ((w :: ws).map fun x => .word (String.ofList x)) := by
  rw [Path.ofTokens, run, stepsFor] at h
  obtain ⟨⟨q, s⟩, hq, h⟩ := bind_eq_ok.mp h
  have hp : q = p := by
    simp only at h
    split at h
    · cases h
    · cases h
      rfl
  rw [← hp]
  obtain ⟨n, hn⟩ : ∃ n, 16 * ((pathTokens leading w ws).length + 1) = n + 1 := ⟨_, rfl⟩
  rw [hn, readPath] at hq
  obtain ⟨l, s₁, hl, hq⟩ := read_bind_eq_ok.mp hq
  have hsign : l = leading ∧ s₁ = ⟨.word (String.ofList w) :: chainTokens ws, none⟩ := by
    cases leading <;> (cases hl; exact ⟨rfl, rfl⟩)
  obtain ⟨rfl, rfl⟩ := hsign
  obtain ⟨segs, _, hs, hq⟩ := read_bind_eq_ok.mp hq
  obtain ⟨rfl, -⟩ := readSegments_eq hws hs
  cases hq
  rfl

end Reading

/-- **The tree of a path text**, if it has one: a segment for each of its words. -/
theorem ofText_spelling {leading : Bool} {s : String} {p : Path}
    (hws : ∀ x ∈ w :: ws, isPlain x = true) (hs : s.toList = spelling leading w ws)
    (h : Path.ofText s = .ok p) :
    p = .mk leading ((w :: ws).map fun x => .word (String.ofList x)) := by
  rw [Path.ofText, ofText?_spelling hws hs] at h
  exact ofTokens_pathTokens hws h

/-! ## Writing -/

/-- The characters of some tokens, run together. -/
def runTogether (ts : List Token) : List Char := ts.flatMap fun t => t.text.toList

theorem runTogether_append (ts us : List Token) :
    runTogether (ts ++ us) = runTogether ts ++ runTogether us := List.flatMap_append

theorem runTogether_tokens (w : List Char) :
    runTogether (Segment.word (String.ofList w)).tokens = w := by
  show (String.ofList w).toList ++ [] = w
  rw [String.toList_ofList, List.append_nil]

/-- The tokens of words, run together, are the words with separators between them. -/
theorem runTogether_tokensList (w : List Char) (ws : List (List Char)) :
    runTogether (Segment.tokensList ((w :: ws).map fun x => .word (String.ofList x)))
      = w ++ chained ws := by
  induction ws generalizing w with
  | nil =>
    show runTogether (Segment.word (String.ofList w)).tokens = w ++ []
    rw [runTogether_tokens, List.append_nil]
  | cons x ws ih =>
    have hstep : Segment.tokensList ((w :: x :: ws).map fun x => .word (String.ofList x))
        = (Segment.word (String.ofList w)).tokens ++ Token.marks "::"
          ++ Segment.tokensList ((x :: ws).map fun x => .word (String.ofList x)) := rfl
    rw [hstep, runTogether_append, runTogether_append, runTogether_tokens, ih, chained_cons,
      List.append_assoc]
    rfl

/-- **A path of plain words is read as what is written.** -/
theorem compact_of_isPath {s : String} {p : Path} (hs : Name.isPath s = true)
    (h : Path.ofText s = .ok p) : p.compact = s := by
  obtain ⟨leading, w, ws, hws, hspelling⟩ := Name.isPath_iff.mp hs
  have htokens : runTogether p.tokens = s.toList := by
    rw [ofText_spelling hws hspelling h, hspelling, Path.tokens, runTogether_append,
      runTogether_tokensList]
    cases leading <;> rfl
  have hblank : ∀ c ∈ s.toList, (c != ' ') = true := by
    intro c hc
    rw [hspelling] at hc
    exact bne_iff_ne.mpr (ne_of_isPathChar (isPathChar_spelling hws c hc) (by decide))
  show String.ofList ((runTogether p.tokens).filter (· != ' ')) = s
  rw [htokens, List.filter_eq_self.mpr hblank, String.ofList_toList]

end FluentBuilders.Code
