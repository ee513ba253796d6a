/-
  Spellings — which texts have to be words for something to have a tree.

  Every identifier of a tree is made of a text, and the tree is there exactly when each of these
  texts is a word (`isSome_ofName?`, `isSome_ofRef?`, `isSome_genericsOf?`).  A star stands for
  itself and is not counted among them.

  A path that was checked gives words only, and so does a type whose names were checked
  (`spelled_of_isPath`, `spelled_of_badName?`).
-/
import FluentBuilders.Code.Spelling
import FluentBuilders.Proofs.Name.Paths
import FluentBuilders.Proofs.Outcome
import Mathlib.Data.Option.Basic

namespace FluentBuilders

/-! ## Words -/

/-- Texts each of which is a word. -/
def Spelled (ws : List String) : Prop := ∀ w ∈ ws, Text.isWord w.toList = true

@[simp]
theorem spelled_nil : Spelled [] := fun _ h => absurd h List.not_mem_nil

@[simp]
theorem spelled_cons {w : String} {ws : List String} :
    Spelled (w :: ws) ↔ Text.isWord w.toList = true ∧ Spelled ws := List.forall_mem_cons

@[simp]
theorem spelled_append {xs ys : List String} : Spelled (xs ++ ys) ↔ Spelled xs ∧ Spelled ys :=
  List.forall_mem_append

@[simp]
theorem spelled_flatMap {α : Type} {f : α → List String} {l : List α} :
    Spelled (l.flatMap f) ↔ ∀ a ∈ l, Spelled (f a) := List.forall_mem_flatMap

@[simp]
theorem spelled_map {α : Type} {f : α → String} {l : List α} :
    Spelled (l.map f) ↔ ∀ a ∈ l, Text.isWord (f a).toList = true := List.forall_mem_map

/-- The texts that the segments of a path are written with. -/
def pathWords (name : String) : List String := (Name.split name).2.filter (· ≠ "*")

mutual

/-- The texts that a type is written with. -/
def TypeRef.words : TypeRef → List String
  | ⟨name, arguments, _⟩ => pathWords name ++ TypeRef.wordsIn arguments

/-- The texts that several types are written with. -/
def TypeRef.wordsIn : List TypeRef → List String
  | [] => []
  | t :: ts => t.words ++ TypeRef.wordsIn ts

end

/-- The texts that a type parameter is written with. -/
def Descriptor.TypeParameter.words (p : Descriptor.TypeParameter) : List String :=
  p.name :: TypeRef.wordsIn p.bounds

/-- The texts of a type are those of its name and of its arguments, nullability aside. -/
theorem spelled_words {t : TypeRef} :
    Spelled t.words ↔ Spelled (pathWords t.name) ∧ Spelled (TypeRef.wordsIn t.arguments) := by
  obtain ⟨name, arguments, nullable⟩ := t
  rw [TypeRef.words, spelled_append]

theorem spelled_wordsIn {ts : List TypeRef} :
    Spelled (TypeRef.wordsIn ts) ↔ ∀ t ∈ ts, Spelled t.words := by
  induction ts with
  | nil => simp [TypeRef.wordsIn]
  | cons t ts ih => rw [TypeRef.wordsIn, spelled_append, List.forall_mem_cons, ih]

/-! ## Checked names -/

variable {name parent : String}

/-- An identifier is a word. -/
theorem isWord_of_isIdentifier (h : Name.isIdentifier name = true) :
    Text.isWord name.toList = true :=
  Name.isWord_of_isPlain (Name.isIdentifier_iff.mp h).1

/-- The segments of a path are words. -/
theorem spelled_of_isPath (h : Name.isPath name = true) : Spelled (pathWords name) :=
  fun w hw => Name.isWord_of_isPlain (Name.isPlain_of_mem_split h w (List.mem_filter.mp hw).1)

/-- All things of a module are imported by a star behind its path. -/
theorem spelled_star (h : Name.isPath parent = true) :
    Spelled (pathWords (Name.join parent "*")) := by
  rw [pathWords, Name.split_join h (by decide), List.filter_append, spelled_append]
  exact ⟨spelled_of_isPath h, spelled_nil⟩

mutual

/-- A type with proper names has words only. -/
theorem spelled_of_badName? : ∀ {t : TypeRef}, t.badName? = none → Spelled t.words
  | ⟨name, arguments, nullable⟩, h => by
    rw [TypeRef.badName?] at h
    split at h
    · rename_i hname
      exact spelled_words.mpr ⟨spelled_of_isPath hname, spelled_of_badNameIn? h⟩
    · cases h

theorem spelled_of_badNameIn? : ∀ {ts : List TypeRef},
    TypeRef.badNameIn? ts = none → Spelled (TypeRef.wordsIn ts)
  | [], _ => spelled_nil
  | t :: ts, h => by
    rw [TypeRef.badNameIn?, Option.orElse_eq_none] at h
    rw [TypeRef.wordsIn, spelled_append]
    exact ⟨spelled_of_badName? h.1, spelled_of_badNameIn? h.2⟩

end

/-- A type applied to type parameters. -/
theorem spelled_applied {parameters : List String} (hn : Name.isPath name = true)
    (hp : ∀ p ∈ parameters, Name.isIdentifier p = true) :
    Spelled (TypeRef.applied name parameters).words := by
  have harguments : Spelled (TypeRef.wordsIn (parameters.map fun p => { name := p })) := by
    rw [spelled_wordsIn, List.forall_mem_map]
    intro p hm
    exact spelled_words.mpr
      ⟨spelled_of_isPath (Name.isPath_of_isIdentifier (hp p hm)), spelled_nil⟩
  exact spelled_words.mpr ⟨spelled_of_isPath hn, harguments⟩

namespace Code

open Descriptor (TypeParameter)

variable {name : String}

/-! ## Paths -/

/-- An identifier is there for every word, and for nothing else. -/
@[simp]
theorem isSome_ofName? : (Ident.ofName? name).isSome = true ↔ Text.isWord name.toList = true := by
  rw [Ident.ofName?]
  split <;> simp_all

/-- A path can be written if its segments are words. -/
@[simp]
theorem isSome_pathOfName? : (Path.ofName? name).isSome = true ↔ Spelled (pathWords name) := by
  have hsegment : ∀ w, (Segment.ofName? w).isSome = true ↔
      (w ≠ "*" → Text.isWord w.toList = true) := by
    intro w
    rw [Segment.ofName?]
    split <;> simp_all
  rw [Path.ofName?, isSome_bind_some, isSome_mapM]
  simp only [hsegment, Spelled, pathWords, List.mem_filter, decide_eq_true_eq, and_imp]

/-! ## Types -/

mutual

/-- A type can be written if the words in it are words. -/
theorem isSome_ofRef? : ∀ {t : TypeRef}, (Path.ofRef? t).isSome = true ↔ Spelled t.words
  | ⟨name, arguments, nullable⟩ => by
    rw [Path.ofRef?, TypeRef.words, spelled_append, ← isSome_pathOfName?, ← isSome_ofRefs?]
    exact isSome_bind_of_iff fun _ => isSome_bind_some

theorem isSome_ofRefs? {ts : List TypeRef} :
    (Ty.ofRefs? ts).isSome = true ↔ Spelled (TypeRef.wordsIn ts) := by
  cases ts with
  | nil => simp [Ty.ofRefs?, TypeRef.wordsIn]
  | cons t ts =>
    rw [Ty.ofRefs?, TypeRef.wordsIn, spelled_append, ← isSome_ofRef?, ← isSome_ofRefs?]
    exact isSome_bind_of_iff fun _ => isSome_bind_some

end

/-- A type can be written where a type stands if the words in it are words. -/
@[simp]
theorem isSome_tyOfRef? {t : TypeRef} : (Ty.ofRef? t).isSome = true ↔ Spelled t.words := by
  rw [Ty.ofRef?, Option.map_eq_map, Option.isSome_map, isSome_ofRef?]

@[simp]
theorem isSome_calledRef? {t : TypeRef} : (Path.calledRef? t).isSome = true ↔ Spelled t.words := by
  rw [Path.calledRef?, spelled_words, ← isSome_pathOfName?, ← isSome_ofRefs?]
  exact isSome_bind_of_iff fun _ => isSome_bind_some

/-! ## Type parameters -/

@[simp]
theorem isSome_genericsOf? {ps : List TypeParameter} :
    (genericsOf? ps).isSome = true ↔ Spelled (ps.flatMap (·.words)) := by
  have hparameter : ∀ p, (Generic.ofParameter? p).isSome = true ↔ Spelled p.words := by
    intro p
    rw [Generic.ofParameter?, TypeParameter.words, spelled_cons, ← isSome_ofName?, spelled_wordsIn]
    refine isSome_bind_of_iff fun _ => ?_
    rw [isSome_bind_some, isSome_mapM]
    simp only [isSome_ofRef?]
  rw [genericsOf?, isSome_mapM]
  simp only [hparameter, spelled_flatMap]

@[simp]
theorem isSome_phantomOf? {ps : List TypeParameter} :
    (phantomOf? ps).isSome = true ↔ Spelled (ps.map (·.name)) := by
  rw [phantomOf?, isSome_bind_some, isSome_mapM]
  simp only [isSome_ofName?, spelled_map]

end Code

end FluentBuilders
