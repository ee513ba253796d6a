/-
  Segments — what a path that was read from a text is made of.

  Either one of its segments carries a mark, because it is written raw or applied to something, or
  the path is words with separators between them, each a word of the text (`ofText_cases`).  A
  reader that meets a mark may go on anywhere in the grammar, so nothing is said of what it reads
  behind one.
-/
import FluentBuilders.Proofs.Code.PathText
import FluentBuilders.Proofs.Code.Words

namespace FluentBuilders.Code

open Reader Ahead

variable {ts us : List Token} {lo : Option Char} {n : Nat} {s s' : Source} {seg : Segment}
  {segs : List Segment} {i : Ident} {v : String}

/-! ## Words that are segments -/

/-- The reserved words that may be segments of a path. -/
def segmentWords : List String := ["super", "self", "crate", "try", "Self"]

/-- A word that may be a segment of a path as it stands. -/
structure Admitted (v : String) : Prop where
  raw : (Ident.ofWord v).raw = false
  free : v ∉ reservedWords ∨ v ∈ segmentWords

/-- A segment that is written raw or applied to something. -/
inductive Segment.Marked : Segment → Prop
  | raw {i : Ident} {a : Arguments} : i.raw = true → Marked (.mk (.ident i) a)
  | applied {i : Ident} {turbo : Bool} {items : List Argument} {comma : Bool} :
    Marked (.mk (.ident i) (.types turbo items comma))

/-- A segment of a path text begins with a word, and is that word unless it carries a mark. -/
def Heads (ts : List Token) (seg : Segment) (s' : Source) (lo : Option Char) : Prop :=
  ∃ v us, ts = .word v :: us ∧
    (seg.Marked ∨ seg = .word v ∧ Admitted v ∧ s' = ⟨us, lo⟩)

/-! ## Reading -/

/-- A word of the language that stands here is taken as it is. -/
theorem anyIdent_eq_ok {ws : List String} (ho : isOneOf ws ts = true)
    (h : anyIdent ⟨ts, lo⟩ = .ok (i, s')) :
    ∃ v us, ts = .word v :: us ∧ v ∈ ws ∧ i = Ident.ofWord v ∧ s' = ⟨us, lo⟩ := by
  obtain ⟨v, hv, ho⟩ := List.any_eq_true.mp ho
  cases ts with
  | nil => cases ho
  | cons t us =>
    have ht : t = .word v := Option.some.inj (beq_iff_eq.mp ho)
    rw [ht] at h
    cases h
    exact ⟨v, us, by rw [ht], hv, rfl, rfl⟩

theorem ofWord_of_mem_segmentWords : ∀ v ∈ segmentWords, Ident.ofWord v = ⟨v, false⟩ := by
  decide +kernel

theorem admitted_of_mem (h : v ∈ segmentWords) : Admitted v where
  raw := by rw [ofWord_of_mem_segmentWords v h]
  free := .inr h

theorem admitted_of_isFree (hf : (Ident.ofWord v).isFree = true)
    (hr : (Ident.ofWord v).raw = false) : Admitted v where
  raw := hr
  free := by
    rw [ofWord_of_not_raw hr, Ident.isFree, Bool.false_or] at hf
    exact .inl (by simpa using hf)

/-- What is behind the identifier of a segment: arguments, or nothing that belongs to it. -/
theorem applied_cases
    (h : (do
      if ← sees fun ts => !false && takesArguments ts || takesTurbo ts then
        let turbo ← sign? "::"
        return .mk (.ident i) (← readArguments turbo n)
      else return .ofIdent i : Reader Segment) s = .ok (seg, s')) :
    seg.Marked ∨ seg = .ofIdent i ∧ s' = s := by
  obtain ⟨_, _, hs, h⟩ := read_bind_eq_ok.mp h
  cases hs
  split at h
  · obtain ⟨turbo, s₁, -, h⟩ := read_bind_eq_ok.mp h
    obtain ⟨a, s₂, ha, h⟩ := read_bind_eq_ok.mp h
    cases h
    cases n with
    | zero => cases ha
    | succ n =>
      rw [readArguments] at ha
      obtain ⟨_, _, -, ha⟩ := read_bind_eq_ok.mp ha
      obtain ⟨_, _, -, ha⟩ := read_bind_eq_ok.mp ha
      obtain ⟨_, _, -, ha⟩ := read_bind_eq_ok.mp ha
      cases ha
      exact .inl .applied
  · cases h
    exact .inr ⟨rfl, rfl⟩

/-- A segment that is read is headed by a word in front of the tokens. -/
theorem readSegment_heads (h : readSegment false n ⟨ts, lo⟩ = .ok (seg, s')) :
    Heads ts seg s' lo := by
  cases n with
  | zero => cases h
  | succ n =>
    rw [readSegment] at h
    obtain ⟨_, _, hs, h⟩ := read_bind_eq_ok.mp h
    cases hs
    split at h
    · -- a place word has nothing applied to it
      rename_i ho
      obtain ⟨_, _, hi, h⟩ := read_bind_eq_ok.mp h
      obtain ⟨v, us, rfl, hv, rfl, rfl⟩ := anyIdent_eq_ok ho hi
      cases h
      have hmem : v ∈ segmentWords := List.mem_append_left ["Self"] hv
      rw [ofWord_of_mem_segmentWords v hmem]
      exact ⟨v, us, rfl, .inr ⟨rfl, admitted_of_mem hmem, rfl⟩⟩
    · obtain ⟨_, _, hs, h⟩ := read_bind_eq_ok.mp h
      cases hs
      split at h
      · rename_i ho
        obtain ⟨_, _, hi, h⟩ := read_bind_eq_ok.mp h
        have ho' : isOneOf ["Self"] ts = true := by
          rw [isOneOf, List.any_cons, ho]
          rfl
        obtain ⟨v, us, rfl, hv, rfl, rfl⟩ := anyIdent_eq_ok ho' hi
        have hmem : v ∈ segmentWords := List.mem_append_right ["super", "self", "crate", "try"] hv
        refine ⟨v, us, rfl, (applied_cases h).imp_right ?_⟩
        rintro ⟨rfl, rfl⟩
        rw [ofWord_of_mem_segmentWords v hmem]
        exact ⟨rfl, admitted_of_mem hmem, rfl⟩
      · obtain ⟨_, _, hi, h⟩ := read_bind_eq_ok.mp h
        obtain ⟨v, us, rfl, hfree, rfl, rfl⟩ := ident_eq_ok hi
        refine ⟨v, us, rfl, ?_⟩
        rcases applied_cases h with hm | ⟨rfl, rfl⟩
        · exact .inl hm
        · cases hr : (Ident.ofWord v).raw with
          | true => exact .inl (.raw hr)
          | false =>
            refine .inr ⟨?_, admitted_of_isFree hfree hr, rfl⟩
            rw [ofWord_of_not_raw hr]
            rfl

theorem subset_of_afterSign? {cs : List Char} (h : afterSign? cs ts = some us) : us ⊆ ts := by
  fun_induction afterSign? cs ts with
  | case1 => cases h; exact List.Subset.refl _
  | case2 c d j ts hc => cases h; exact List.subset_cons_self _ _
  | case3 => cases h
  | case4 c cs d ts _ hc ih => exact List.subset_cons_of_subset _ (ih h)
  | case5 => cases h
  | case6 => cases h

/-- A sign is taken from the front of the source. -/
theorem subset_of_sign {sg : String} {x : Unit} (h : sign sg ⟨ts, lo⟩ = .ok (x, s')) :
    ∃ us, s' = ⟨us, lo⟩ ∧ us ⊆ ts := by
  obtain ⟨_, _, hr, h⟩ := read_bind_eq_ok.mp h
  cases hr
  cases hus : afterSign? sg.toList ts with
  | none =>
    rw [hus] at h
    cases h
  | some us =>
    rw [hus] at h
    cases h
    exact ⟨us, rfl, subset_of_afterSign? hus⟩

theorem subset_of_sign? {sg : String} {b : Bool} (h : sign? sg ⟨ts, lo⟩ = .ok (b, s')) :
    s'.rest ⊆ ts := by
  obtain ⟨_, _, hr, h⟩ := read_bind_eq_ok.mp h
  cases hr
  cases hus : afterSign? sg.toList ts with
  | none =>
    rw [hus] at h
    cases h
    exact List.Subset.refl _
  | some us =>
    rw [hus] at h
    cases h
    exact subset_of_afterSign? hus

/-- The words of a path, as its segments. -/
def wordSegments (ws : List String) : List Segment := ws.map .word

/-- **What segments are made of**: one of them carries a mark, or they are words of the source.
    As long as no mark was met, all that is left of the source was there before. -/
theorem readSegments_cases (h : readSegments false true n ⟨ts, lo⟩ = .ok (segs, s')) :
    (∃ seg ∈ segs, seg.Marked) ∨
      ∃ w ws, segs = wordSegments (w :: ws) ∧
        ∀ x ∈ w :: ws, Token.word x ∈ ts ∧ Admitted x := by
  induction n generalizing ts lo segs s' with
  | zero => cases h
  | succ n ih =>
    rw [readSegments] at h
    obtain ⟨seg, s₁, hseg, hmore⟩ := read_bind_eq_ok.mp h
    obtain ⟨v, us, rfl, hv⟩ := readSegment_heads hseg
    obtain ⟨_, _, hs, h⟩ := read_bind_eq_ok.mp hmore
    cases hs
    have hword : Token.word v ∈ Token.word v :: us := List.mem_cons_self
    simp only [↓reduceIte] at h
    split at h
    · obtain ⟨_, _, hsign, h⟩ := read_bind_eq_ok.mp h
      obtain ⟨rest, _, hrest, h⟩ := read_bind_eq_ok.mp h
      cases h
      rcases hv with hm | ⟨rfl, hadmitted, rfl⟩
      · exact .inl ⟨seg, List.mem_cons_self, hm⟩
      obtain ⟨us', rfl, hsub⟩ := subset_of_sign hsign
      rcases ih hrest with ⟨seg', hseg', hm⟩ | ⟨w, ws, rfl, hws⟩
      · exact .inl ⟨seg', List.mem_cons_of_mem _ hseg', hm⟩
      · refine .inr ⟨v, w :: ws, rfl, List.forall_mem_cons.mpr ⟨⟨hword, hadmitted⟩, ?_⟩⟩
        intro x hx
        exact ⟨List.mem_cons_of_mem _ (hsub (hws x hx).1), (hws x hx).2⟩
    · cases h
      rcases hv with hm | ⟨rfl, hadmitted, -⟩
      · exact .inl ⟨seg, List.mem_cons_self, hm⟩
      · exact .inr ⟨v, [], rfl, List.forall_mem_singleton.mpr ⟨hword, hadmitted⟩⟩

/-! ## Paths -/

/-- **What a path text stands for**: a path with a mark on one of its segments, or a path of words
    that may be segments as they stand. -/
theorem ofText_cases {text : String} {p : Path} (h : Path.ofText text = .ok p) :
    (∃ seg ∈ p.segments, seg.Marked) ∨
      ∃ w ws, p.segments = wordSegments (w :: ws) ∧
        ∀ x ∈ w :: ws, Text.isWord x.toList = true ∧ Admitted x := by
  rw [Path.ofText] at h
  split at h
  · rename_i ts hts
    rw [Path.ofTokens, run] at h
    obtain ⟨⟨q, s⟩, hq, h⟩ := bind_eq_ok.mp h
    have hp : q = p := by
      dsimp only at h
      split at h
      · cases h
      · cases h
        rfl
    obtain ⟨m, hm⟩ : ∃ m, stepsFor ts = m + 1 := ⟨_, rfl⟩
    rw [hm, readPath] at hq
    obtain ⟨leading, ⟨us, lo⟩, hl, hq⟩ := read_bind_eq_ok.mp hq
    obtain ⟨segs, _, hs, hq⟩ := read_bind_eq_ok.mp hq
    cases hq
    rw [← hp]
    refine (readSegments_cases hs).imp_right ?_
    rintro ⟨w, ws, hws, hall⟩
    refine ⟨w, ws, hws, fun x hx => ?_⟩
    obtain ⟨hx, hadmitted⟩ := hall x hx
    have hproper := proper_of_ofText? hts _ (subset_of_sign? hl hx)
    exact ⟨isWord_of_proper hproper hadmitted.raw, hadmitted⟩
  · cases h

end FluentBuilders.Code
