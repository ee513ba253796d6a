/-
  Printed types — a type can be read off its tokens.

  A nullable type is printed as the option type of what it would be otherwise, so two types may be
  printed alike.  They are if they are the same once nullability is written out
  (`TypeRef.explicit`), and not otherwise (`printed_alike_iff`).

  What is printed is followed through three levels.  A path ends where no further segment follows
  (`pathTokens_append_inj`); what it is applied to ends with the bracket; and an argument ends in
  front of a comma or the bracket, neither of which goes on with a type (`Ends`).  So the induction
  over types carries what is behind the tokens along (`tokens_append_inj`).
-/
import FluentBuilders.Proofs.Code.Respelling

namespace FluentBuilders

open Code

/-! ## Nullability written out -/

namespace TypeRef

/-- The path of the option type. -/
def optionPath : String := "::core::option::Option"

mutual

/-- A type in which what is nullable is the option type of it, at every depth. -/
def explicit : TypeRef → TypeRef
  | ⟨name, arguments, nullable⟩ =>
    let base : TypeRef := { name, arguments := explicitIn arguments }
    if nullable then { name := optionPath, arguments := [base] } else base

/-- Several types in which nullability is written out. -/
def explicitIn : List TypeRef → List TypeRef
  | [] => []
  | t :: ts => explicit t :: explicitIn ts

end

variable {t u : TypeRef} {ts us : List TypeRef} {name : String}

mutual

/-- Nothing is left to be written out. -/
theorem explicit_explicit : ∀ t : TypeRef, t.explicit.explicit = t.explicit
  | ⟨name, arguments, nullable⟩ => by
    have ih := explicitIn_explicitIn arguments
    cases nullable with
    | false => simp [explicit, ih]
    | true => simp [explicit, explicitIn, ih]

theorem explicitIn_explicitIn : ∀ ts : List TypeRef, explicitIn (explicitIn ts) = explicitIn ts
  | [] => rfl
  | t :: ts => by rw [explicitIn, explicitIn, explicit_explicit t, explicitIn_explicitIn ts]

end

theorem badName?_mk {arguments : List TypeRef} {nullable : Bool} :
    (TypeRef.mk name arguments nullable).badName? = none ↔
      Name.isPath name = true ∧ badNameIn? arguments = none := by
  rw [badName?]
  split <;> simp_all

theorem badNameIn?_cons : badNameIn? (t :: ts) = none ↔
    t.badName? = none ∧ badNameIn? ts = none := by
  rw [badNameIn?, Option.orElse_eq_none]

mutual

/-- The path of the option type is one, so names stay well formed. -/
theorem badName?_explicit : ∀ {t : TypeRef}, t.badName? = none → t.explicit.badName? = none
  | ⟨name, arguments, nullable⟩, h => by
    obtain ⟨hname, harguments⟩ := badName?_mk.mp h
    have hbase : (TypeRef.mk name (explicitIn arguments) false).badName? = none :=
      badName?_mk.mpr ⟨hname, badNameIn?_explicitIn harguments⟩
    cases nullable with
    | false => exact hbase
    | true =>
      exact badName?_mk.mpr ⟨by decide, badNameIn?_cons.mpr ⟨hbase, rfl⟩⟩

theorem badNameIn?_explicitIn : ∀ {ts : List TypeRef},
    badNameIn? ts = none → badNameIn? (explicitIn ts) = none
  | [], _ => rfl
  | t :: ts, h => by
    obtain ⟨ht, hts⟩ := badNameIn?_cons.mp h
    exact badNameIn?_cons.mpr ⟨badName?_explicit ht, badNameIn?_explicitIn hts⟩

end

/-- A type that is written out, with paths for names: what is to be read off its tokens. -/
def WrittenOut (t : TypeRef) : Prop := t.explicit = t ∧ t.badName? = none

/-- Several such types. -/
def WrittenOutIn (ts : List TypeRef) : Prop := explicitIn ts = ts ∧ badNameIn? ts = none

/-- What is written out is written out at every depth. -/
theorem writtenOut_explicit (h : t.badName? = none) : t.explicit.WrittenOut :=
  ⟨t.explicit_explicit, badName?_explicit h⟩

theorem writtenOutIn_explicitIn (h : badNameIn? ts = none) : WrittenOutIn (explicitIn ts) :=
  ⟨explicitIn_explicitIn ts, badNameIn?_explicitIn h⟩

theorem WrittenOut.of_mk {arguments : List TypeRef} {nullable : Bool}
    (h : (TypeRef.mk name arguments nullable).WrittenOut) :
    nullable = false ∧ Name.isPath name = true ∧ WrittenOutIn arguments := by
  obtain ⟨hname, harguments⟩ := badName?_mk.mp h.2
  cases nullable with
  | false => exact ⟨rfl, hname, congrArg TypeRef.arguments h.1, harguments⟩
  | true => cases congrArg TypeRef.nullable h.1

theorem WrittenOutIn.of_cons (h : WrittenOutIn (t :: ts)) : t.WrittenOut ∧ WrittenOutIn ts := by
  obtain ⟨ht, hts⟩ := List.cons.inj h.1
  obtain ⟨hbad, hbads⟩ := badNameIn?_cons.mp h.2
  exact ⟨⟨ht, hbad⟩, hts, hbads⟩

theorem mentions_mk {arguments : List TypeRef} {nullable : Bool} {n : String} :
    (TypeRef.mk n arguments nullable).mentions name = false ↔
      n ≠ name ∧ mentionsAny name arguments = false := by
  rw [mentions, Bool.or_eq_false_iff, beq_eq_false_iff_ne]

mutual

/-- Types that do not write the option type out themselves are different if they are different once
    nullability is written out. -/
theorem explicit_inj : ∀ {t u : TypeRef}, t.mentions optionPath = false →
    u.mentions optionPath = false → t.explicit = u.explicit → t = u
  | ⟨n, ts, nullable⟩, ⟨m, us, nullable'⟩, ht, hu, h => by
    obtain ⟨hn, hts⟩ := mentions_mk.mp ht
    obtain ⟨hm, hus⟩ := mentions_mk.mp hu
    cases nullable <;> cases nullable' <;>
      simp only [explicit, Bool.false_eq_true, if_true, if_false, TypeRef.mk.injEq, List.cons.injEq,
        and_true, true_and] at h
    · rw [h.1, explicitIn_inj hts hus h.2]
    · exact absurd h.1 hn
    · exact absurd h.1.symm hm
    · rw [h.1, explicitIn_inj hts hus h.2]

/-- Arguments that do not mention the absent value are determined by how they are written out. -/
theorem explicitIn_inj : ∀ {ts us : List TypeRef}, mentionsAny optionPath ts = false →
    mentionsAny optionPath us = false → explicitIn ts = explicitIn us → ts = us
  | [], [], _, _, _ => rfl
  | [], _ :: _, _, _, h => by cases h
  | _ :: _, [], _, _, h => by cases h
  | t :: ts, u :: us, ht, hu, h => by
    rw [mentionsAny, Bool.or_eq_false_iff] at ht hu
    obtain ⟨h, hs⟩ := List.cons.inj h
    rw [explicit_inj ht.1 hu.1 h, explicitIn_inj ht.2 hu.2 hs]

end

end TypeRef

namespace Code

/-! ## Paths -/

/-- The tree of a path that is given as a text. -/
def pathOf (name : String) : Path :=
  .mk (Name.split name).1 (escapedSegments (Name.split name).2)

/-- Every path can be written. -/
theorem ofName?_of_isPath {name : String} (h : Name.isPath name = true) :
    Path.ofName? name = some (pathOf name) := by
  have hwords : ∀ w ∈ (Name.split name).2, Text.isWord w.toList = true :=
    fun w hw => Name.isWord_of_isPlain (Name.isPlain_of_mem_split h w hw)
  rw [Path.ofName?, mapM_ofName? hwords]
  rfl

/-- The tokens of the segments behind the first, each behind a separator. -/
def furtherSegments (ws : List String) : List Token :=
  ws.flatMap fun w => Token.marks "::" ++ Ident.tokens ⟨w, Name.isEscaped w⟩

theorem tokensList_escapedSegments (w : String) (ws : List String) :
    Segment.tokensList (escapedSegments (w :: ws))
      = Ident.tokens ⟨w, Name.isEscaped w⟩ ++ furtherSegments ws := by
  induction ws generalizing w with
  | nil => rfl
  | cons x ws ih =>
    have hx := ih x
    rw [escapedSegments, List.map_cons] at hx
    rw [escapedSegments, List.map_cons, List.map_cons, Segment.tokensList, hx]
    simp [Segment.tokens, Segment.ofIdent, Head.tokens, Arguments.tokens, furtherSegments]

/-- A plain word is known from how it is spelled: the mark of an escaped one is in no plain word. -/
theorem spelled_inj {w x : String} (hw : Name.isPlain w.toList = true)
    (hx : Name.isPlain x.toList = true)
    (h : Ident.spelled ⟨w, Name.isEscaped w⟩ = Ident.spelled ⟨x, Name.isEscaped x⟩) : w = x := by
  have hmark : ∀ {y z : String}, Name.isPlain y.toList = true → y ≠ "r#" ++ z := by
    rintro y z hy rfl
    have hpart := Name.isPart_of_isPlain hy '#' (by simp)
    revert hpart
    decide
  rw [Ident.spelled, Ident.spelled] at h
  split at h <;> split at h
  · have hlist := congrArg String.toList h
    rw [String.toList_append, String.toList_append] at hlist
    exact String.toList_inj.mp (List.append_cancel_left hlist)
  · exact absurd h.symm (hmark hx)
  · exact absurd h (hmark hw)
  · exact h

theorem furtherSegments_cons (w : String) (ws : List String) : furtherSegments (w :: ws)
    = Token.marks "::" ++ .word (Ident.spelled ⟨w, Name.isEscaped w⟩) :: furtherSegments ws := rfl

/-- What does not go on with a path. -/
def Apart (r : List Token) : Prop := ∀ w r', r ≠ Token.marks "::" ++ .word w :: r'

variable {r s : List Token}

/-- **Further segments are found again** in front of anything that does not begin with a
    separator. -/
theorem furtherSegments_append_inj (hr : Apart r) (hs : Apart s) :
    ∀ {ws xs : List String}, (∀ w ∈ ws, Name.isPlain w.toList = true) →
      (∀ x ∈ xs, Name.isPlain x.toList = true) →
      furtherSegments ws ++ r = furtherSegments xs ++ s → ws = xs ∧ r = s
  | [], [], _, _, h => ⟨rfl, h⟩
  | [], x :: xs, _, _, h => absurd h (hr _ _)
  | w :: ws, [], _, _, h => absurd h.symm (hs _ _)
  | w :: ws, x :: xs, hw, hx, h => by
    obtain ⟨hw, hws⟩ := List.forall_mem_cons.mp hw
    obtain ⟨hx, hxs⟩ := List.forall_mem_cons.mp hx
    rw [furtherSegments_cons, furtherSegments_cons, List.append_assoc, List.append_assoc,
      List.append_cancel_left_eq, List.cons_append, List.cons_append, List.cons.injEq,
      Token.word.injEq] at h
    obtain ⟨hsame, hrest⟩ := furtherSegments_append_inj hr hs hws hxs h.2
    exact ⟨List.cons_eq_cons.mpr ⟨spelled_inj hw hx h.1, hsame⟩, hrest⟩

/-- What is written for a path: the separator in front, if there is one, and its segments. -/
theorem tokens_pathOf {name w : String} {ws : List String} (h : (Name.split name).2 = w :: ws) :
    (pathOf name).tokens = (if (Name.split name).1 then Token.marks "::" else [])
      ++ .word (Ident.spelled ⟨w, Name.isEscaped w⟩) :: furtherSegments ws := by
  rw [pathOf, Path.tokens, h, tokensList_escapedSegments]
  rfl

/-- **A path can be read off** the front of some tokens if what is behind it does not go on with
    it. -/
theorem pathOf_append_inj {n m : String} (hn : Name.isPath n = true) (hm : Name.isPath m = true)
    (hr : Apart r) (hs : Apart s) (h : (pathOf n).tokens ++ r = (pathOf m).tokens ++ s) :
    n = m ∧ r = s := by
  obtain ⟨w, ws, hw⟩ := Name.exists_segment n
  obtain ⟨x, xs, hx⟩ := Name.exists_segment m
  have hplain := Name.isPlain_of_mem_split hn
  have hplain' := Name.isPlain_of_mem_split hm
  rw [hw, List.forall_mem_cons] at hplain
  rw [hx, List.forall_mem_cons] at hplain'
  rw [tokens_pathOf hw, tokens_pathOf hx] at h
  have hsegments : ∀ {leading : Bool}, (Name.split n).1 = leading → (Name.split m).1 = leading →
      Token.word (Ident.spelled ⟨w, Name.isEscaped w⟩) :: furtherSegments ws ++ r
        = Token.word (Ident.spelled ⟨x, Name.isEscaped x⟩) :: furtherSegments xs ++ s →
      n = m ∧ r = s := by
    intro leading hleading hleading' h
    obtain ⟨hword, hrest⟩ := List.cons.inj h
    obtain ⟨hsame, hrest⟩ := furtherSegments_append_inj hr hs hplain.2 hplain'.2 hrest
    have hwx := spelled_inj hplain.1 hplain'.1 (Token.word.inj hword)
    refine ⟨Name.split_inj (Prod.ext (hleading.trans hleading'.symm) ?_), hrest⟩
    rw [hw, hx, hwx, hsame]
  -- one path is absolute and the other is not only if a mark is a word
  cases hl : (Name.split n).1 <;> cases hl' : (Name.split m).1 <;> rw [hl, hl'] at h
  · exact hsegments hl hl' h
  · cases h
  · cases h
  · rw [List.append_assoc, List.append_assoc] at h
    exact hsegments hl hl' (List.append_cancel_left h)

/-! ## The tokens of a type -/

/-- What is behind the first of several arguments: the others, each behind a comma, and the
    bracket. -/
def behind : List (List Token) → List Token
  | [] => [.mark '>']
  | t :: ts => .mark ',' :: (t ++ behind ts)

/-- What a path in a type is applied to, between brackets. -/
def angled : List (List Token) → List Token
  | [] => []
  | t :: ts => .mark '<' :: (t ++ behind ts)

/-- What a path in an expression is applied to. -/
def called : List (List Token) → List Token
  | [] => []
  | t :: ts => Token.marks "::" ++ angled (t :: ts)

mutual

/-- The tokens of a type, said of the type itself. -/
def printed : TypeRef → List Token
  | ⟨name, arguments, nullable⟩ =>
    let base := (pathOf name).tokens ++ angled (printedAll arguments)
    if nullable then (pathOf TypeRef.optionPath).tokens ++ angled [base] else base

/-- The tokens of each of several types. -/
def printedAll : List TypeRef → List (List Token)
  | [] => []
  | t :: ts => printed t :: printedAll ts

end

theorem tokensList_types (t : Ty) (items : List Ty) :
    Argument.tokensList false ((t :: items).map .type) ++ [.mark '>']
      = t.tokens ++ behind (items.map Ty.tokens) := by
  induction items generalizing t with
  | nil => simp [Argument.tokensList, Argument.tokens, optionalMark, behind]
  | cons u items ih =>
    have hu := ih u
    rw [List.map_cons] at hu
    rw [List.map_cons, List.map_cons, Argument.tokensList, List.append_assoc, List.cons_append, hu]
    rfl

theorem tokensList_withArguments (segs : List Segment) (i : Ident) (a : Arguments) :
    Segment.tokensList (segs ++ [(Segment.ofIdent i).withArguments a])
      = Segment.tokensList (segs ++ [.ofIdent i]) ++ a.tokens := by
  cases segs with
  | nil => simp [Segment.tokensList, Segment.tokens, Segment.ofIdent, Segment.withArguments,
      Arguments.tokens]
  | cons seg segs =>
    rw [tokensList_concat (List.cons_ne_nil _ _), tokensList_concat (List.cons_ne_nil _ _)]
    simp [Segment.tokens, Segment.ofIdent, Segment.withArguments, Arguments.tokens]

/-- What a path is applied to is written behind it. -/
theorem tokens_apply (name : String) (a : Arguments) :
    ((pathOf name).apply a).tokens = (pathOf name).tokens ++ a.tokens := by
  obtain ⟨w, ws, hw⟩ := Name.exists_segment name
  obtain ⟨init, last, hlast⟩ :=
    (List.eq_nil_or_concat (w :: ws)).resolve_left (List.cons_ne_nil w ws)
  rw [List.concat_eq_append] at hlast
  have hsegments : escapedSegments (Name.split name).2
      = escapedSegments init ++ [.ofIdent ⟨last, Name.isEscaped last⟩] := by
    rw [hw, hlast, escapedSegments, List.map_append]
    rfl
  show Path.tokens (.mk (Name.split name).1 (Path.applyLast a (escapedSegments _))) = _
  rw [pathOf, hsegments, applyLast_concat, Path.tokens, Path.tokens, tokensList_withArguments,
    List.append_assoc]

theorem tokens_of (name : String) (items : List Ty) : ((pathOf name).of items).tokens
    = (pathOf name).tokens ++ angled (items.map Ty.tokens) := by
  cases items with
  | nil => exact (List.append_nil _).symm
  | cons t items =>
    show ((pathOf name).apply _).tokens = _
    rw [tokens_apply, Arguments.tokens, Token.between, List.cons_append, tokensList_types]
    rfl

theorem tokens_turbo (name : String) (items : List Ty) : ((pathOf name).turbo items).tokens
    = (pathOf name).tokens ++ called (items.map Ty.tokens) := by
  cases items with
  | nil => exact (List.append_nil _).symm
  | cons t items =>
    show ((pathOf name).apply _).tokens = _
    rw [tokens_apply, Arguments.tokens, Token.between, List.cons_append, tokensList_types]
    rfl

theorem tokens_optionOf (t : Ty) : (Path.optionOf t).tokens
    = (pathOf TypeRef.optionPath).tokens ++ angled [t.tokens] := by
  have hroot : pathOf TypeRef.optionPath = Path.root ["core", "option", "Option"] := rfl
  rw [Path.optionOf, ← hroot, tokens_of]
  rfl

mutual

/-- **A type whose names are paths is printed.** -/
theorem exists_ofRef? : ∀ {t : TypeRef}, t.badName? = none →
    ∃ p, Path.ofRef? t = some p ∧ p.tokens = printed t
  | ⟨name, arguments, nullable⟩, h => by
    obtain ⟨hname, harguments⟩ := TypeRef.badName?_mk.mp h
    obtain ⟨items, hitems, htokens⟩ := exists_ofRefs? harguments
    have hbase : ((pathOf name).of items).tokens
        = (pathOf name).tokens ++ angled (printedAll arguments) := by rw [tokens_of, htokens]
    rw [Path.ofRef?, ofName?_of_isPath hname, hitems]
    refine ⟨_, rfl, ?_⟩
    cases nullable with
    | false => exact hbase
    | true =>
      show (Path.optionOf _).tokens = _
      rw [tokens_optionOf, Ty.tokens, hbase]
      rfl

theorem exists_ofRefs? : ∀ {ts : List TypeRef}, TypeRef.badNameIn? ts = none →
    ∃ items, Ty.ofRefs? ts = some items ∧ items.map Ty.tokens = printedAll ts
  | [], _ => ⟨[], rfl, rfl⟩
  | t :: ts, h => by
    obtain ⟨ht, hts⟩ := TypeRef.badNameIn?_cons.mp h
    obtain ⟨p, hp, htokens⟩ := exists_ofRef? ht
    obtain ⟨items, hitems, htokens'⟩ := exists_ofRefs? hts
    refine ⟨.path p :: items, ?_, ?_⟩
    · rw [Ty.ofRefs?, hp, hitems]
      rfl
    · rw [List.map_cons, Ty.tokens, htokens, htokens', printedAll]

end

/-- The same where functions of a type are called. -/
theorem exists_calledRef? {t : TypeRef} (h : t.badName? = none) : ∃ p, Path.calledRef? t = some p ∧
    p.tokens = (pathOf t.name).tokens ++ called (printedAll t.arguments) := by
  obtain ⟨name, arguments, nullable⟩ := t
  obtain ⟨hname, harguments⟩ := TypeRef.badName?_mk.mp h
  obtain ⟨items, hitems, htokens⟩ := exists_ofRefs? harguments
  rw [Path.calledRef?, ofName?_of_isPath hname, hitems]
  refine ⟨_, rfl, ?_⟩
  rw [tokens_turbo, htokens]

mutual

/-- Writing nullability out changes nothing of what is printed. -/
theorem printed_explicit : ∀ t : TypeRef, printed t.explicit = printed t
  | ⟨name, arguments, nullable⟩ => by
    have ih := printedAll_explicitIn arguments
    cases nullable with
    | false => simp [TypeRef.explicit, printed, ih]
    | true => simp [TypeRef.explicit, printed, printedAll, ih]

theorem printedAll_explicitIn : ∀ ts : List TypeRef,
    printedAll (TypeRef.explicitIn ts) = printedAll ts
  | [] => rfl
  | t :: ts => by
    rw [TypeRef.explicitIn, printedAll, printedAll, printed_explicit t, printedAll_explicitIn ts]

end

/-! ## Reading a type off its tokens -/

/-- What does not go on with a type: nothing, or a comma or bracket in front. -/
def Ends (r : List Token) : Prop := ∀ t, r.head? = some t → t = .mark ',' ∨ t = .mark '>'

theorem ends_nil : Ends [] := fun _ h => by cases h

/-- What stands behind the first of several types ends it. -/
theorem ends_behind (ts : List (List Token)) (r : List Token) : Ends (behind ts ++ r) := by
  intro t ht
  cases ts with
  | nil => exact .inr (Option.some.inj ht).symm
  | cons u ts => exact .inl (Option.some.inj ht).symm

/-- Arguments and what ends a type do not go on with a path. -/
theorem Ends.apart {ts : List (List Token)} (hr : Ends r) : Apart (angled ts ++ r) := by
  intro w r' h
  cases ts with
  | nil =>
    have hr' : r = Token.marks "::" ++ .word w :: r' := h
    rcases hr (.mark ':' true) (hr' ▸ rfl) with h | h <;> cases h
  | cons t ts => cases h

theorem apart_called (ts : List (List Token)) : Apart (called ts) := by
  intro w r' h
  cases ts with
  | nil => cases h
  | cons t ts => cases List.append_cancel_left h

/-- Whether there are arguments or none is seen at the first token. -/
theorem behind_of_angled {ts us : List (List Token)} (hr : Ends r) (hs : Ends s)
    (h : angled ts ++ r = angled us ++ s) : behind ts ++ r = behind us ++ s := by
  have hbracket : ∀ {r : List Token}, Ends r → r.head? ≠ some (.mark '<') := by
    intro r hr he
    rcases hr _ he with h | h <;> cases h
  cases ts <;> cases us
  · exact congrArg (.mark '>' :: ·) h
  · exact absurd (congrArg List.head? h) (hbracket hr)
  · exact absurd (congrArg List.head? h).symm (hbracket hs)
  · exact congrArg (.mark ',' :: ·) (List.cons.inj h).2

/-- The arguments of a call are read off the call. -/
theorem behind_of_called {ts us : List (List Token)} (h : called ts = called us) :
    behind ts = behind us := by
  cases ts <;> cases us
  · rfl
  · cases h
  · cases h
  · exact congrArg (.mark ',' :: ·) (List.cons.inj (List.append_cancel_left h)).2

mutual

/-- **A type can be read off** the front of some tokens if what is behind it does not go on with
    it. -/
theorem printed_append_inj : ∀ {t u : TypeRef} {r s : List Token}, t.WrittenOut → u.WrittenOut →
    Ends r → Ends s → printed t ++ r = printed u ++ s → t = u ∧ r = s
  | ⟨n, ts, _⟩, ⟨m, us, _⟩, r, s, ht, hu, hr, hs, h => by
    obtain ⟨rfl, hn, hts⟩ := ht.of_mk
    obtain ⟨rfl, hm, hus⟩ := hu.of_mk
    have h' : (pathOf n).tokens ++ (angled (printedAll ts) ++ r)
        = (pathOf m).tokens ++ (angled (printedAll us) ++ s) := by
      rw [← List.append_assoc, ← List.append_assoc]
      exact h
    obtain ⟨rfl, hrest⟩ := pathOf_append_inj hn hm hr.apart hs.apart h'
    obtain ⟨rfl, hrs⟩ := behind_append_inj hts hus (behind_of_angled hr hs hrest)
    exact ⟨rfl, hrs⟩

/-- The closing bracket tells where the arguments end, so nothing has to be known of what is behind
    them. -/
theorem behind_append_inj : ∀ {ts us : List TypeRef} {r s : List Token},
    TypeRef.WrittenOutIn ts → TypeRef.WrittenOutIn us →
    behind (printedAll ts) ++ r = behind (printedAll us) ++ s → ts = us ∧ r = s
  | [], [], _, _, _, _, h => ⟨rfl, (List.cons.inj h).2⟩
  | [], _ :: _, _, _, _, _, h => by cases (List.cons.inj h).1
  | _ :: _, [], _, _, _, _, h => by cases (List.cons.inj h).1
  | t :: ts, u :: us, r, s, ht, hu, h => by
    obtain ⟨ht, hts⟩ := ht.of_cons
    obtain ⟨hu, hus⟩ := hu.of_cons
    have h' : printed t ++ (behind (printedAll ts) ++ r)
        = printed u ++ (behind (printedAll us) ++ s) := by
      rw [← List.append_assoc, ← List.append_assoc]
      exact (List.cons.inj h).2
    -- what is behind an argument is a comma or the bracket
    obtain ⟨rfl, hrest⟩ := printed_append_inj ht hu (ends_behind _ r) (ends_behind _ s) h'
    obtain ⟨rfl, hrs⟩ := behind_append_inj hts hus hrest
    exact ⟨rfl, hrs⟩

end

variable {t u : TypeRef}

/-- **Types are printed alike** exactly if they are the same when written out. -/
theorem printed_eq_iff (ht : t.badName? = none) (hu : u.badName? = none) :
    printed t = printed u ↔ t.explicit = u.explicit := by
  constructor
  · intro h
    rw [← printed_explicit t, ← printed_explicit u, ← List.append_cancel_right_eq _ [] _] at h
    exact (printed_append_inj (TypeRef.writtenOut_explicit ht) (TypeRef.writtenOut_explicit hu)
      ends_nil ends_nil h).1
  · intro h
    rw [← printed_explicit t, h, printed_explicit]

/-- **Types are printed alike in calls** exactly if they are the same when written out, given that
    neither admits the absent value. -/
theorem called_eq_iff (ht : t.badName? = none) (hu : u.badName? = none)
    (hrequired : t.nullable = false) (hrequired' : u.nullable = false) :
    (pathOf t.name).tokens ++ called (printedAll t.arguments)
        = (pathOf u.name).tokens ++ called (printedAll u.arguments) ↔
      t.explicit = u.explicit := by
  obtain ⟨n, ts, _⟩ := t
  obtain ⟨m, us, _⟩ := u
  cases hrequired
  cases hrequired'
  obtain ⟨hn, hts⟩ := TypeRef.badName?_mk.mp ht
  obtain ⟨hm, hus⟩ := TypeRef.badName?_mk.mp hu
  show (pathOf n).tokens ++ called (printedAll ts) = (pathOf m).tokens ++ called (printedAll us) ↔
    TypeRef.mk n (TypeRef.explicitIn ts) false = TypeRef.mk m (TypeRef.explicitIn us) false
  rw [← printedAll_explicitIn ts, ← printedAll_explicitIn us, TypeRef.mk.injEq]
  constructor
  · intro h
    obtain ⟨hname, hrest⟩ := pathOf_append_inj hn hm (apart_called _) (apart_called _) h
    have hbehind := congrArg (· ++ []) (behind_of_called hrest)
    have hsame := behind_append_inj (TypeRef.writtenOutIn_explicitIn hts)
      (TypeRef.writtenOutIn_explicitIn hus) hbehind
    exact ⟨hname, hsame.1, rfl⟩
  · rintro ⟨rfl, h, -⟩
    rw [h]

/-- **Types that are printed alike** are the same once nullability is written out, in a type and
    where functions of a type that is not nullable are called.  So types that do not write the
    option type out themselves are printed alike only if they are the same. -/
theorem printed_alike_iff (ht : t.badName? = none) (hu : u.badName? = none) :
    (∃ a b, Ty.ofRef? t = some a ∧ Ty.ofRef? u = some b ∧
      (a.tokens = b.tokens ↔ t.explicit = u.explicit)) ∧
    (t.nullable = false → u.nullable = false →
      ∃ p q, Path.calledRef? t = some p ∧ Path.calledRef? u = some q ∧
        (p.tokens = q.tokens ↔ t.explicit = u.explicit)) ∧
    (t.mentions TypeRef.optionPath = false → u.mentions TypeRef.optionPath = false → t ≠ u →
      (Ty.ofRef? t).map Ty.tokens ≠ (Ty.ofRef? u).map Ty.tokens) := by
  obtain ⟨p, hp, htokens⟩ := exists_ofRef? ht
  obtain ⟨q, hq, htokens'⟩ := exists_ofRef? hu
  have htype : Ty.ofRef? t = some (.path p) := by rw [Ty.ofRef?, hp]; rfl
  have htype' : Ty.ofRef? u = some (.path q) := by rw [Ty.ofRef?, hq]; rfl
  have halike : (Ty.path p).tokens = (Ty.path q).tokens ↔ t.explicit = u.explicit := by
    rw [Ty.tokens, Ty.tokens, htokens, htokens', printed_eq_iff ht hu]
  refine ⟨⟨_, _, htype, htype', halike⟩, fun hrequired hrequired' => ?_, fun hm hm' hne h => ?_⟩
  · obtain ⟨p, hp, htokens⟩ := exists_calledRef? ht
    obtain ⟨q, hq, htokens'⟩ := exists_calledRef? hu
    refine ⟨p, q, hp, hq, ?_⟩
    rw [htokens, htokens', called_eq_iff ht hu hrequired hrequired']
  · rw [htype, htype', Option.map_some, Option.map_some, Option.some.injEq, halike] at h
    exact hne (TypeRef.explicit_inj hm hm' h)

/-- A map from texts to what may be a list, of a type whose path has a keyword in it. -/
def listsByName : TypeRef where
  name := "HashMap"
  arguments := [{ name := "String" },
    { name := "crate::type::List", arguments := [{ name := "u8" }], nullable := true }]

/-- The same map, with the option type written out. -/
def optionsByName : TypeRef where
  name := "HashMap"
  arguments := [{ name := "String" },
    { name := "::core::option::Option", arguments :=
        [{ name := "crate::type::List", arguments := [{ name := "u8" }] }] }]

theorem printed_alike_iff_maps : ∃ a b, Ty.ofRef? listsByName = some a ∧
    Ty.ofRef? optionsByName = some b ∧ a.tokens = b.tokens := by
  obtain ⟨⟨a, b, ha, hb, halike⟩, -⟩ :=
    printed_alike_iff (show listsByName.badName? = none by decide)
      (show optionsByName.badName? = none by decide)
  exact ⟨a, b, ha, hb, halike.mpr rfl⟩

end Code

end FluentBuilders
