/-
  Lookup — which declaration a type name stands for.

  A catalogue forgets where its entries come from.  To say of a nested builder that it belongs to a
  class of the batch, and not to a type that is declared elsewhere, the declarations themselves are
  carried along here (`Origin`): they replace one another by path just as the entries do, and
  looking up a name among them finds the declaration of the entry that `resolve` finds.

  What is changed in a declaration without touching its name and its path changes nothing in where
  a name leads (`origin_of_map`).
-/
import FluentBuilders.Catalogue

namespace FluentBuilders.Catalogue

open Descriptor (ClassEntry TypeEntry)

/-- What declares a type: the generator itself, a class, or the entry of a further type. -/
inductive Origin
  | container (t : KnownType)
  | ofClass (e : ClassEntry)
  | ofType (t : TypeEntry)

/-- The type that is declared. -/
def Origin.known : Origin → KnownType
  | .container t => t
  | .ofClass e => Catalogue.ofClass e
  | .ofType t => Catalogue.ofType t

/-- All that a descriptor declares, in order. -/
def origins (d : Descriptor) (support : String) : List Origin :=
  (containers support).map .container ++ d.classes.map .ofClass ++ d.types.map .ofType

/-- Declares once more: in place of what has the same path, or at the end. -/
def declareOrigin (os : List Origin) (o : Origin) : List Origin :=
  match os with
  | [] => [o]
  | u :: r => if u.known.path == o.known.path then o :: r else u :: declareOrigin r o

/-- The declarations behind the entries of a catalogue. -/
def standing (d : Descriptor) (support : String) : List Origin :=
  (origins d support).foldl declareOrigin []

/-- The declaration that a type name stands for: the one of that path, or else the last one whose
    name is the last segment. -/
def origin (d : Descriptor) (support name : String) : Option Origin :=
  (standing d support).find? (·.known.path == name)
    <|> (standing d support).reverse.find? (·.known.name == Name.lastSegment name)

/-! ## Declarations and entries -/

variable {d d' : Descriptor} {support name : String} {o : Origin}

/-- The origins of a catalogue are origins of its declarations, one for each. -/
theorem map_known_origins (d : Descriptor) (support : String) :
    (origins d support).map Origin.known = declarations d support := by
  simp [origins, declarations, Function.comp_def, Origin.known]

theorem map_known_declareOrigin (o : Origin) : ∀ os : List Origin,
    (declareOrigin os o).map Origin.known = declare (os.map Origin.known) o.known
  | [] => rfl
  | u :: r => by
    rw [declareOrigin, List.map_cons, declare]
    split
    · rfl
    · rw [List.map_cons, map_known_declareOrigin o r]

theorem map_known_foldl : ∀ xs os : List Origin,
    (xs.foldl declareOrigin os).map Origin.known
      = (xs.map Origin.known).foldl declare (os.map Origin.known)
  | [], _ => rfl
  | x :: xs, os => by
    rw [List.foldl_cons, map_known_foldl xs, map_known_declareOrigin]
    rfl

/-- What a catalogue knows is what its standing origins are origins of. -/
theorem types_ofDescriptor (d : Descriptor) (support : String) :
    (ofDescriptor d support).types = (standing d support).map Origin.known := by
  rw [standing, map_known_foldl, map_known_origins]
  rfl

/-- **The catalogue looks up what the declarations say.** -/
theorem resolve_ofDescriptor (d : Descriptor) (support name : String) :
    (ofDescriptor d support).resolve name = (origin d support name).map Origin.known := by
  rw [resolve, types_ofDescriptor, origin, ← List.map_reverse, List.find?_map, List.find?_map]
  cases h : (standing d support).find? (·.known.path == name) with
  | some o =>
    have hc : (standing d support).find? ((·.path == name) ∘ Origin.known) = some o := h
    rw [hc]
    rfl
  | none =>
    have hc : (standing d support).find? ((·.path == name) ∘ Origin.known) = none := h
    rw [hc]
    rfl

/-! ## What is found was declared -/

theorem mem_declareOrigin {x : Origin} : ∀ {os : List Origin},
    x ∈ declareOrigin os o → x ∈ os ∨ x = o
  | [], h => .inr (List.mem_singleton.mp h)
  | u :: r, h => by
    rw [declareOrigin] at h
    split at h
    · rcases List.mem_cons.mp h with h | h
      · exact .inr h
      · exact .inl (List.mem_cons_of_mem _ h)
    · rcases List.mem_cons.mp h with h | h
      · exact .inl (h ▸ List.mem_cons_self)
      · rcases mem_declareOrigin h with h | h
        · exact .inl (List.mem_cons_of_mem _ h)
        · exact .inr h

theorem mem_foldl_declareOrigin {x : Origin} : ∀ {xs os : List Origin},
    x ∈ xs.foldl declareOrigin os → x ∈ os ∨ x ∈ xs
  | [], _, h => .inl h
  | y :: xs, os, h => by
    have h' : x ∈ xs.foldl declareOrigin (declareOrigin os y) := h
    rcases mem_foldl_declareOrigin h' with h | h
    · rcases mem_declareOrigin h with h | h
      · exact .inl h
      · exact .inr (h ▸ List.mem_cons_self)
    · exact .inr (List.mem_cons_of_mem _ h)

theorem mem_origins_of_origin (h : origin d support name = some o) : o ∈ origins d support := by
  have hs : o ∈ standing d support := by
    rw [origin] at h
    cases hp : (standing d support).find? (·.known.path == name) with
    | some u =>
      rw [hp] at h
      exact Option.some.inj h ▸ List.mem_of_find?_eq_some hp
    | none =>
      rw [hp] at h
      exact List.mem_reverse.mp (List.mem_of_find?_eq_some h)
  rcases mem_foldl_declareOrigin hs with h | h
  · exact absurd h List.not_mem_nil
  · exact h

/-! ## Changes that leave names and paths alone -/

variable {w : Origin → Origin}

/-- A change of origins that leaves the paths alone may be made before or after one is declared. -/
theorem map_declareOrigin (hw : ∀ o, (w o).known.path = o.known.path) (o : Origin) :
    ∀ os : List Origin, (declareOrigin os o).map w = declareOrigin (os.map w) (w o)
  | [] => rfl
  | u :: r => by
    rw [declareOrigin, List.map_cons, declareOrigin, hw, hw]
    split
    · rfl
    · rw [List.map_cons, map_declareOrigin hw o r]

theorem map_foldl_declareOrigin (hw : ∀ o, (w o).known.path = o.known.path) :
    ∀ xs os : List Origin,
      (xs.foldl declareOrigin os).map w = (xs.map w).foldl declareOrigin (os.map w)
  | [], _ => rfl
  | x :: xs, os => by
    rw [List.foldl_cons, map_foldl_declareOrigin hw xs, map_declareOrigin hw]
    rfl

/-- **Where a name leads** does not depend on anything but names and paths. -/
theorem origin_of_map (hp : ∀ o, (w o).known.path = o.known.path)
    (hn : ∀ o, (w o).known.name = o.known.name)
    (hd : origins d' support = (origins d support).map w) :
    origin d' support name = (origin d support name).map w := by
  have hs : standing d' support = (standing d support).map w := by
    rw [standing, standing, hd, map_foldl_declareOrigin hp]
    rfl
  rw [origin, hs, origin, ← List.map_reverse, List.find?_map, List.find?_map]
  simp only [Function.comp_def, hp, hn]
  cases (standing d support).find? (·.known.path == name) <;> rfl

end FluentBuilders.Catalogue
