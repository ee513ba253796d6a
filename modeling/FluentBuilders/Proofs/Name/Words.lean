/-
  Words — what becomes of a plain word when other names are made of it.

  The names in a generated builder are made of names that a descriptor gives: with a text in front
  of them or behind them, in snake case or in Pascal case, or with the first letter in lower case.
  A plain word has only ASCII characters, and of these each is in either case one character again,
  of the same kind; so what is made of a plain word is one (`isPlain_snakeFrom`,
  `isPlain_pascalFrom`, `isPlain_append`).

  That leaves the place words, which are plain words but name nothing.  None of them begins or ends
  like a name that has a text added to it.  A name with its first letter in lower case may be one of
  them, and there are exactly two names that this happens to (`isIdentifier_decapitalized`).
-/
import FluentBuilders.Code.Reserved
import FluentBuilders.Name.Member
import Mathlib.Data.List.Infix

namespace FluentBuilders.Name

open FluentBuilders.Text

variable {c x : Char} {cs xs ys : List Char} {s front : String}

/-! ## Characters -/

/-- What holds of the first 128 characters holds of every one that is among them. -/
theorem of_ascii {P : Char → Prop} (h : ∀ n < 0x80, P (Char.ofNat n)) (hc : c.toNat < 0x80) :
    P c := by
  have hn := h c.toNat hc
  rwa [Char.ofNat_toNat] at hn

/-- The characters of words are ASCII. -/
theorem lt_of_isPart (h : isPart c = true) : c.toNat < 0x80 := by
  -- a capital letter, a small letter, a digit or the underscore
  have hkinds : ((decide (c.val ≥ 'A'.val ∧ c.val ≤ 'Z'.val)
      || (decide (c.val ≥ 'a'.val) && decide (c.val ≤ 'z'.val)))
      || (decide (c.val ≥ '0'.val) && decide (c.val ≤ '9'.val)) || c == '_') = true := h
  simp only [Bool.or_eq_true, Bool.and_eq_true, decide_eq_true_eq, beq_iff_eq,
    UInt32.le_iff_toNat_le] at hkinds
  rcases hkinds with ((h | h) | h) | rfl
  · exact Nat.lt_of_le_of_lt h.2 (by decide)
  · exact Nat.lt_of_le_of_lt h.2 (by decide)
  · exact Nat.lt_of_le_of_lt h.2 (by decide)
  · decide

theorem isPart_of_isStart (h : isStart c = true) : isPart c = true := by
  simp only [isStart, isPart, Char.isAlphanum, Bool.or_eq_true] at h ⊢
  rcases h with h | h
  · exact .inl (.inl h)
  · exact .inr h

theorem isPart_toLower (h : isPart c = true) : isPart c.toLower = true :=
  of_ascii (P := fun c => isPart c = true → isPart c.toLower = true) (by decide) (lt_of_isPart h) h

theorem isPart_toUpper (h : isPart c = true) : isPart c.toUpper = true :=
  of_ascii (P := fun c => isPart c = true → isPart c.toUpper = true) (by decide) (lt_of_isPart h) h

theorem isStart_toLower (h : isStart c = true) : isStart c.toLower = true :=
  of_ascii (P := fun c => isStart c = true → isStart c.toLower = true) (by decide)
    (lt_of_isPart (isPart_of_isStart h)) h

theorem isStart_toUpper (h : isStart c = true) : isStart c.toUpper = true :=
  of_ascii (P := fun c => isStart c = true → isStart c.toUpper = true) (by decide)
    (lt_of_isPart (isPart_of_isStart h)) h

theorem isBlank_of_isPart (h : isPart c = true) : isBlank c = false :=
  of_ascii (P := fun c => isPart c = true → isBlank c = false) (by decide) (lt_of_isPart h) h

theorem lowered_of_isPart (h : isPart c = true) : lowered c = [c.toLower] := by
  rw [lowered, if_pos (lt_of_isPart h)]

theorem raised_of_isPart (h : isPart c = true) : raised c = [c.toUpper] := by
  rw [raised, if_pos (lt_of_isPart h)]

/-! ## Plain words -/

/-- A plain word is a character that begins one, and characters inside of one. -/
theorem isPlain_cons : isPlain (c :: cs) = true ↔ isStart c = true ∧ ∀ x ∈ cs, isPart x = true := by
  rw [isPlain, Bool.and_eq_true, List.all_eq_true]

theorem isPart_of_isPlain (h : isPlain cs = true) : ∀ x ∈ cs, isPart x = true := by
  cases cs with
  | nil => cases h
  | cons c r =>
    obtain ⟨hc, hr⟩ := isPlain_cons.mp h
    intro x hx
    rcases List.mem_cons.mp hx with rfl | hx
    · exact isPart_of_isStart hc
    · exact hr x hx

theorem isPlain_append (hx : isPlain xs = true) (hy : ∀ y ∈ ys, isPart y = true) :
    isPlain (xs ++ ys) = true := by
  cases xs with
  | nil => cases hx
  | cons c r =>
    obtain ⟨hc, hr⟩ := isPlain_cons.mp hx
    refine isPlain_cons.mpr ⟨hc, fun y h => ?_⟩
    rcases List.mem_append.mp h with h | h
    · exact hr y h
    · exact hy y h

/-- An identifier is a plain word that names no place. -/
theorem isIdentifier_iff : isIdentifier s = true ↔ isPlain s.toList = true ∧ s ∉ placeWords := by
  rw [isIdentifier, Bool.and_eq_true, Bool.not_eq_true', List.contains_eq_mem,
    decide_eq_false_iff_not]

/-- A plain word that begins as no place word does is an identifier. -/
theorem isIdentifier_of_prefix (hs : isPlain s.toList = true) (hp : xs <+: s.toList)
    (hw : ∀ w ∈ placeWords, ¬ xs <+: w.toList) : isIdentifier s = true :=
  isIdentifier_iff.mpr ⟨hs, fun hm => hw s hm hp⟩

/-- A plain word that ends as no place word does is an identifier. -/
theorem isIdentifier_of_suffix (hs : isPlain s.toList = true) (hp : xs <:+ s.toList)
    (hw : ∀ w ∈ placeWords, ¬ xs <:+ w.toList) : isIdentifier s = true :=
  isIdentifier_iff.mpr ⟨hs, fun hm => hw s hm hp⟩

/-- A name with a text in front of it. -/
theorem isIdentifier_behind (hf : isPlain front.toList = true)
    (hw : ∀ w ∈ placeWords, ¬ front.toList <+: w.toList) (hs : isIdentifier s = true) :
    isIdentifier (front ++ s) = true := by
  have hparts := isPart_of_isPlain (isIdentifier_iff.mp hs).1
  refine isIdentifier_of_prefix ?_ ?_ hw
  · rw [String.toList_append]
    exact isPlain_append hf hparts
  · rw [String.toList_append]
    exact List.prefix_append _ _

/-- A name with a text behind it. -/
theorem isIdentifier_before {back : String} (hs : isPlain s.toList = true)
    (hb : back.toList.all isPart = true)
    (hw : ∀ w ∈ placeWords, ¬ back.toList <:+ w.toList) : isIdentifier (s ++ back) = true := by
  refine isIdentifier_of_suffix ?_ ?_ hw
  · rw [String.toList_append]
    exact isPlain_append hs (List.all_eq_true.mp hb)
  · rw [String.toList_append]
    exact List.suffix_append _ _

/-! ## Snake case -/

/-- A character of a snake-case word: it is part of a word, and lowering leaves it as it is. -/
def IsLow (x : Char) : Prop := isPart x = true ∧ lowered x = [x]

theorem isLow_toLower (h : isPart c = true) : IsLow c.toLower := by
  have hl : c.toLower.toLower = c.toLower :=
    of_ascii (P := fun c => c.toLower.toLower = c.toLower) (by decide) (lt_of_isPart h)
  refine ⟨isPart_toLower h, ?_⟩
  rw [lowered_of_isPart (isPart_toLower h), hl]

theorem mem_snakeStep {last : Option Char} (h : x ∈ snakeStep last c) :
    x = '_' ∨ x ∈ lowered c := by
  rw [snakeStep] at h
  split at h
  · exact .inl (List.mem_singleton.mp h)
  · split at h
    · exact List.mem_cons.mp h
    · exact .inr h

/-- Snake case has no upper-case letters. -/
theorem isLow_snakeFrom : ∀ {cs : List Char} {last : Option Char},
    (∀ c ∈ cs, isPart c = true) → ∀ x ∈ snakeFrom last cs, IsLow x
  | [], _, _, _, hx => absurd hx List.not_mem_nil
  | c :: cs, last, h, x, hx => by
    rw [snakeFrom] at hx
    rcases List.mem_append.mp hx with hx | hx
    · have hc := h c List.mem_cons_self
      rcases mem_snakeStep hx with rfl | hx
      · exact ⟨by decide, by decide⟩
      · rw [lowered_of_isPart hc] at hx
        rw [List.mem_singleton.mp hx]
        exact isLow_toLower hc
    · exact isLow_snakeFrom (fun d hd => h d (List.mem_cons_of_mem _ hd)) x hx

/-- A plain word in snake case is plain. -/
theorem isPlain_snakeFrom (h : isPlain cs = true) : isPlain (snakeFrom none cs) = true := by
  cases cs with
  | nil => cases h
  | cons c r =>
    obtain ⟨hc, hr⟩ := isPlain_cons.mp h
    have hrest : ∀ x ∈ snakeFrom (some c) r, isPart x = true :=
      fun x hx => (isLow_snakeFrom hr x hx).1
    -- nothing stands before the first character, so no underscore is put in front of it
    have hfirst : snakeStep none c = ['_'] ∨ snakeStep none c = [c.toLower] := by
      rw [snakeStep, lowered_of_isPart (isPart_of_isStart hc)]
      split
      · exact .inl rfl
      · exact .inr rfl
    rw [snakeFrom]
    rcases hfirst with hf | hf
    · rw [hf]
      exact isPlain_cons.mpr ⟨by decide, hrest⟩
    · rw [hf]
      exact isPlain_cons.mpr ⟨isStart_toLower hc, hrest⟩

/-- Snake case goes through a word character by character, and looks one back. -/
theorem snakeFrom_append : ∀ (xs ys : List Char) (last : Option Char),
    snakeFrom last (xs ++ ys) = snakeFrom last xs ++ snakeFrom (xs.getLast?.or last) ys
  | [], _, _ => rfl
  | c :: xs, ys, last => by
    have hlast : (c :: xs).getLast?.or last = xs.getLast?.or (some c) := by
      rw [List.getLast?_cons]
      cases xs.getLast? <;> rfl
    rw [List.cons_append, snakeFrom, snakeFrom, snakeFrom_append xs ys, hlast, List.append_assoc]

/-! ## Pascal case -/

theorem isPart_pascalFrom : ∀ {cs : List Char} {up : Bool} {last : Option Char},
    (∀ c ∈ cs, isPart c = true) → ∀ x ∈ pascalFrom up last cs, isPart x = true
  | [], _, _, _, _, hx => by
    rw [pascalFrom] at hx
    exact absurd hx List.not_mem_nil
  | c :: cs, true, last, h, x, hx => by
    have hc := h c List.mem_cons_self
    have hcs := fun d hd => h d (List.mem_cons_of_mem c hd)
    rw [pascalFrom, raised_of_isPart hc] at hx
    rcases List.mem_cons.mp hx with rfl | hx
    · exact isPart_toUpper hc
    · exact isPart_pascalFrom hcs x hx
  | c :: cs, false, last, h, x, hx => by
    have hc := h c List.mem_cons_self
    have hcs := fun d hd => h d (List.mem_cons_of_mem c hd)
    rw [pascalFrom, lowered_of_isPart hc] at hx
    split at hx
    · exact isPart_pascalFrom hcs x hx
    split at hx
    · rcases List.mem_cons.mp hx with rfl | hx
      · exact hc
      · exact isPart_pascalFrom hcs x hx
    · rcases List.mem_cons.mp hx with rfl | hx
      · exact isPart_toLower hc
      · exact isPart_pascalFrom hcs x hx

/-- A plain word in Pascal case is plain. -/
theorem isPlain_pascalFrom (h : isPlain cs = true) : isPlain (pascalFrom true none cs) = true := by
  cases cs with
  | nil => cases h
  | cons c r =>
    obtain ⟨hc, hr⟩ := isPlain_cons.mp h
    rw [pascalFrom, raised_of_isPart (isPart_of_isStart hc)]
    exact isPlain_cons.mpr ⟨isStart_toUpper hc, isPart_pascalFrom hr⟩

/-! ## The first letter in lower case -/

theorem toList_decapitalized (h : isPlain (c :: cs) = true) :
    (decapitalized (String.ofList (c :: cs))).toList = c.toLower :: cs := by
  rw [decapitalized, String.toList_ofList]
  simp only [lowered_of_isPart (isPart_of_isStart (isPlain_cons.mp h).1)]
  exact String.toList_ofList

/-- A plain word without its capital is plain. -/
theorem isPlain_decapitalized (h : isPlain s.toList = true) :
    isPlain (decapitalized s).toList = true := by
  obtain ⟨cs, rfl⟩ : ∃ cs, s = String.ofList cs := ⟨s.toList, String.ofList_toList.symm⟩
  rw [String.toList_ofList] at h
  cases cs with
  | nil => cases h
  | cons c r =>
    obtain ⟨hc, hr⟩ := isPlain_cons.mp h
    rw [toList_decapitalized h]
    exact isPlain_cons.mpr ⟨isStart_toLower hc, hr⟩

/-- **The two names that are lost.**  With its first letter in lower case a name is still one,
    unless it is `Crate` or `Super`. -/
theorem isIdentifier_decapitalized (h : isIdentifier s = true) :
    isIdentifier (decapitalized s) = true ↔ s ≠ "Crate" ∧ s ≠ "Super" := by
  constructor
  · intro hd
    constructor
    · rintro rfl
      exact absurd hd (by decide)
    · rintro rfl
      exact absurd hd (by decide)
  · rintro ⟨hcrate, hsuper⟩
    obtain ⟨hplain, hplace⟩ := isIdentifier_iff.mp h
    refine isIdentifier_iff.mpr ⟨isPlain_decapitalized hplain, fun hm => ?_⟩
    obtain ⟨cs, rfl⟩ : ∃ cs, s = String.ofList cs := ⟨s.toList, String.ofList_toList.symm⟩
    rw [String.toList_ofList] at hplain
    cases cs with
    | nil => cases hplain
    | cons c r =>
      obtain ⟨hc, -⟩ := isPlain_cons.mp hplain
      have hlow := toList_decapitalized hplain
      -- the name is the place word itself, or it with its first letter in upper case
      have hupper : ∀ w ∈ placeWords, String.ofList (w.toList.modifyHead Char.toUpper)
          ∈ "Crate" :: "Super" :: placeWords := by decide +kernel
      have hcase : c.toLower = c ∨ c.toLower.toUpper = c :=
        of_ascii (P := fun c => c.toLower = c ∨ c.toLower.toUpper = c) (by decide)
          (lt_of_isPart (isPart_of_isStart hc))
      rcases hcase with he | he
      · have hsame : decapitalized (String.ofList (c :: r)) = String.ofList (c :: r) := by
          apply String.toList_injective
          rw [hlow, he, String.toList_ofList]
        rw [hsame] at hm
        exact hplace hm
      · have hs := hupper _ hm
        rw [hlow, List.modifyHead_cons, he] at hs
        rcases List.mem_cons.mp hs with hs | hs
        · exact hcrate hs
        · rcases List.mem_cons.mp hs with hs | hs
          · exact hsuper hs
          · exact hplace hs

/-! ## Spelling -/

/-- A name that can be declared: it is an identifier, and as code it is a word that is free, escaped
    if it has to be. -/
structure Declarable (s : String) : Prop where
  valid : isIdentifier s = true
  spelled : ∃ i : Code.Ident, Code.Ident.ofName? s = some i ∧ i.isFree = true

/-- A plain word is a word of the language that is written. -/
theorem isWord_of_isPlain (h : isPlain cs = true) : isWord cs = true := by
  cases cs with
  | nil => cases h
  | cons c r =>
    obtain ⟨hc, hr⟩ := isPlain_cons.mp h
    rw [isWord, Bool.and_eq_true, List.all_eq_true]
    constructor
    · rw [isWordStart, if_pos (lt_of_isPart (isPart_of_isStart hc))]
      exact hc
    · intro x hx
      rw [isWordPart, if_pos (lt_of_isPart (hr x hx))]
      exact hr x hx

/-- The identifier for a plain word. -/
theorem ofName?_of_isPlain (h : isPlain s.toList = true) :
    Code.Ident.ofName? s = some ⟨s, isEscaped s⟩ := by
  rw [Code.Ident.ofName?, if_pos (isWord_of_isPlain h)]

/-- **Every identifier can be declared**: a reserved word that is no place word is escaped. -/
theorem declarable_iff : Declarable s ↔ isIdentifier s = true := by
  have hreserved : ∀ w ∈ Code.reservedWords, isEscaped w = true ∨ w ∈ placeWords := by
    decide +kernel
  constructor
  · intro h
    exact h.valid
  · intro h
    obtain ⟨hplain, hplace⟩ := isIdentifier_iff.mp h
    refine ⟨h, _, ofName?_of_isPlain hplain, ?_⟩
    rw [Code.Ident.isFree, Bool.or_eq_true, Bool.not_eq_true', List.contains_eq_mem,
      decide_eq_false_iff_not]
    by_cases hr : s ∈ Code.reservedWords
    · exact .inl ((hreserved s hr).resolve_right hplace)
    · exact .inr hr

/-! ## Names of generated things -/

variable {n : String}

/-- The builder of a class can be declared. -/
theorem isIdentifier_builder (h : isIdentifier n = true) : isIdentifier (builder n) = true :=
  isIdentifier_before (isIdentifier_iff.mp h).1 (by decide) (by decide)

theorem isIdentifier_setter (h : isIdentifier n = true) : isIdentifier (setter n) = true :=
  isIdentifier_behind (by decide) (by decide) h

theorem isIdentifier_mutator (h : isIdentifier n = true) : isIdentifier (mutator n) = true :=
  isIdentifier_behind (by decide) (by decide) h

theorem isIdentifier_insert (h : isIdentifier n = true) : isIdentifier (insert n) = true :=
  isIdentifier_behind (by decide) (by decide) h

theorem isIdentifier_storage (h : isIdentifier n = true) : isIdentifier (storage n) = true :=
  isIdentifier_before (isIdentifier_iff.mp h).1 (by decide) (by decide)

theorem isIdentifier_scope (h : isIdentifier n = true) : isIdentifier (scope n) = true := by
  refine isIdentifier_before ?_ (by decide) (by decide)
  rw [pascalCase, String.toList_ofList]
  exact isPlain_pascalFrom (isIdentifier_iff.mp h).1

/-- The module of a builder ends like its builder, in lower case. -/
theorem suffix_moduleOf (n : String) : "builder".toList <:+ (moduleOf (builder n)).toList := by
  -- an underscore may stand in front of the ending, and nothing else changes
  have hending : ∀ last, "builder".toList <:+ snakeFrom last "Builder".toList := by
    intro last
    have hcons : snakeFrom last "Builder".toList = snakeStep last 'B' ++ "uilder".toList := by
      rfl
    rw [hcons, snakeStep, if_neg (by decide)]
    split
    · decide
    · decide
  have hmodule : (moduleOf (builder n)).toList
      = snakeFrom none n.toList ++ snakeFrom (n.toList.getLast?.or none) "Builder".toList := by
    rw [moduleOf, snakeCase, String.toList_ofList, builder, String.toList_append, snakeFrom_append]
  rw [hmodule]
  exact (hending _).trans (List.suffix_append _ _)

/-- The module of a builder can be declared. -/
theorem isIdentifier_moduleOf (h : isIdentifier n = true) :
    isIdentifier (moduleOf (builder n)) = true := by
  refine isIdentifier_of_suffix ?_ (suffix_moduleOf n) (by decide)
  rw [moduleOf, snakeCase, String.toList_ofList]
  exact isPlain_snakeFrom (isIdentifier_iff.mp (isIdentifier_builder h)).1

/-- A name has no blanks around it. -/
theorem trimmed?_of_isIdentifier (h : isIdentifier n = true) : trimmed? n = some n := by
  have hplain := (isIdentifier_iff.mp h).1
  have hblank : ∀ c ∈ n.toList, isBlank c = false :=
    fun c hc => isBlank_of_isPart (isPart_of_isPlain hplain c hc)
  have hdrop : ∀ cs : List Char, (∀ c ∈ cs, isBlank c = false) → cs.dropWhile isBlank = cs := by
    intro cs hcs
    cases cs with
    | nil => rfl
    | cons c r => rw [List.dropWhile_cons_of_neg (by rw [hcs c List.mem_cons_self]; decide)]
  have htrim : trimBlanks n.toList = n.toList := by
    rw [trimBlanks, hdrop _ hblank, hdrop _ fun c hc => hblank c (List.mem_reverse.mp hc),
      List.reverse_reverse]
  rw [trimmed?, htrim]
  split
  · rename_i hnil
    rw [hnil] at hplain
    cases hplain
  · exact congrArg some String.ofList_toList

/-- **The entry function of a class** can be declared, unless the class is called `Crate` or `Super`
    and has no name for it. -/
theorem isIdentifier_entry {display : Option String} (hn : isIdentifier n = true)
    (hd : ∀ name, display = some name → isIdentifier name = true) :
    isIdentifier (entry display n) = true ↔ display.isSome = true ∨ n ≠ "Crate" ∧ n ≠ "Super" := by
  cases display with
  | none =>
    rw [← isIdentifier_decapitalized hn]
    simp [entry]
  | some name =>
    have hname := hd name rfl
    have he : entry (some name) n = name := by
      rw [entry, Option.bind_some, trimmed?_of_isIdentifier hname]
    rw [he]
    simp [hname]

/-- The entry function of a class is a plain word in any case, be it a place word. -/
theorem isPlain_entry {display : Option String} (hn : isPlain n.toList = true)
    (hd : ∀ name, display = some name → isIdentifier name = true) :
    isPlain (entry display n).toList = true := by
  cases display with
  | some name =>
    rw [entry, Option.bind_some, trimmed?_of_isIdentifier (hd name rfl)]
    exact (isIdentifier_iff.mp (hd name rfl)).1
  | none => exact isPlain_decapitalized hn

end FluentBuilders.Name
