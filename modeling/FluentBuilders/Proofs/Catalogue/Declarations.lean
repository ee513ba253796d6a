/-
  Declarations — a path leads to the last declaration of it.

  The catalogue is made by declaring one type after the other, and a declaration takes the place of
  an earlier one of the same path.  So no two entries have one path (`nodup_paths`), and what is
  found at a path is what was declared there last (`find?_path`), whoever declared it before.  The
  default containers are declared first of all: a descriptor may declare their paths again
  (`redeclared`), and then that is what stands there (`find?_defaultPath`).
-/
import FluentBuilders.Catalogue
import FluentBuilders.Proofs.Name.Segments
import Mathlib.Data.List.Nodup

namespace FluentBuilders.Catalogue

variable {t u : KnownType} {ts xs : List KnownType} {path : String} {d : Descriptor}
  {support : String}

theorem path_of_find? (h : ts.find? (·.path == path) = some t) : t.path = path := by
  have hp := List.find?_some h
  exact beq_iff_eq.mp hp

/-! ## Declaring -/

/-- A declaration changes what is found at its own path, and nowhere else. -/
theorem find?_declare : ∀ {ts : List KnownType}, (declare ts t).find? (·.path == path)
    = if t.path = path then some t else ts.find? (·.path == path)
  | [] => by
    rw [declare, List.find?_cons, List.find?_nil]
    by_cases h : t.path = path
    · rw [if_pos h, beq_iff_eq.mpr h]
    · rw [if_neg h, beq_eq_false_iff_ne.mpr h]
  | u :: r => by
    rw [declare]
    by_cases hu : u.path = t.path
    · -- the entry that is replaced has the path of the new one
      rw [if_pos (beq_iff_eq.mpr hu), List.find?_cons, List.find?_cons, hu]
      by_cases h : t.path = path
      · rw [if_pos h, beq_iff_eq.mpr h]
      · rw [if_neg h, beq_eq_false_iff_ne.mpr h]
    · rw [if_neg (by simpa using hu), List.find?_cons, List.find?_cons, find?_declare]
      by_cases h : u.path = path
      · have ht : t.path ≠ path := fun ht => hu (h.trans ht.symm)
        rw [beq_iff_eq.mpr h]
        exact (if_neg ht).symm
      · rw [beq_eq_false_iff_ne.mpr h]

/-- Under a path stands what was last declared there. -/
theorem find?_foldl_declare : ∀ {xs ts : List KnownType},
    (xs.foldl declare ts).find? (·.path == path)
      = (xs.reverse.find? (·.path == path)).or (ts.find? (·.path == path))
  | [], _ => rfl
  | x :: xs, ts => by
    rw [List.foldl_cons, find?_foldl_declare, find?_declare, List.reverse_cons, List.find?_append,
      Option.or_assoc, List.find?_singleton]
    by_cases h : x.path = path
    · rw [if_pos h, if_pos (beq_iff_eq.mpr h)]
      rfl
    · rw [if_neg h, if_neg (by simpa using h)]
      rfl

/-- Declaring adds a path or leaves the paths as they are. -/
theorem paths_declare : ∀ {ts : List KnownType}, (declare ts t).map (·.path)
    = if t.path ∈ ts.map (·.path) then ts.map (·.path) else ts.map (·.path) ++ [t.path]
  | [] => rfl
  | u :: r => by
    rw [declare]
    by_cases hu : u.path = t.path
    · rw [if_pos (beq_iff_eq.mpr hu), List.map_cons, List.map_cons, ← hu,
        if_pos List.mem_cons_self]
    · rw [if_neg (by simpa using hu), List.map_cons, List.map_cons, paths_declare]
      by_cases h : t.path ∈ r.map (·.path)
      · rw [if_pos h, if_pos (List.mem_cons_of_mem _ h)]
      · rw [if_neg h, if_neg (List.not_mem_cons_of_ne_of_not_mem (Ne.symm hu) h)]
        rfl

/-- Declaring once more keeps one entry for each path. -/
theorem nodup_paths_declare {ts : List KnownType} (h : (ts.map (·.path)).Nodup) :
    ((declare ts t).map (·.path)).Nodup := by
  rw [paths_declare]
  split
  · exact h
  · rename_i ht
    refine List.nodup_append.mpr ⟨h, List.nodup_singleton _, fun a ha b hb hab => ?_⟩
    exact ht (List.mem_singleton.mp hb ▸ hab ▸ ha)

/-- However much is declared, there is one entry for each path. -/
theorem nodup_paths_foldl : ∀ {xs ts : List KnownType}, (ts.map (·.path)).Nodup →
    ((xs.foldl declare ts).map (·.path)).Nodup
  | [], _, h => h
  | _ :: _, _, h => by
    rw [List.foldl_cons]
    exact nodup_paths_foldl (nodup_paths_declare h)

/-! ## The catalogue of a descriptor -/

/-- No two entries have one path. -/
theorem nodup_paths (d : Descriptor) (support : String) :
    ((ofDescriptor d support).types.map (·.path)).Nodup :=
  nodup_paths_foldl List.nodup_nil

/-- **What is found at a path** is the last declaration of it. -/
theorem find?_path (d : Descriptor) (support path : String) :
    (ofDescriptor d support).types.find? (·.path == path)
      = (declarations d support).reverse.find? (·.path == path) := by
  show ((declarations d support).foldl declare []).find? _ = _
  rw [find?_foldl_declare, List.find?_nil, Option.or_none]

/-- What is in a list of entries is found at its own path, if no two entries have one path. -/
theorem find?_of_mem {ts : List KnownType} (hn : (ts.map (·.path)).Nodup) (h : t ∈ ts) :
    ts.find? (·.path == t.path) = some t := by
  cases hf : ts.find? (·.path == t.path) with
  | none => exact absurd (beq_self_eq_true t.path) (List.find?_eq_none.mp hf t h)
  | some u =>
    rw [List.inj_on_of_nodup_map hn (List.mem_of_find?_eq_some hf) h (path_of_find? hf)]

/-- An entry is found at its own path, however it was come by. -/
theorem find?_path_of_resolve {name : String} (h : (ofDescriptor d support).resolve name = some t) :
    (ofDescriptor d support).types.find? (·.path == t.path) = some t := by
  refine find?_of_mem (nodup_paths d support) ?_
  rw [resolve] at h
  cases hp : (ofDescriptor d support).types.find? (·.path == name) with
  | some u =>
    rw [hp] at h
    exact Option.some.inj h ▸ List.mem_of_find?_eq_some hp
  | none =>
    rw [hp] at h
    exact List.mem_reverse.mp (List.mem_of_find?_eq_some h)

/-! ## Default containers -/

/-- The path of the default container of a shape. -/
def defaultPath (support : String) : Shape → String
  | .list => "::std::vec::Vec"
  | .set => supportSet support

/-- The container of a shape is what its path resolves to. -/
theorem defaultContainer_eq (k : Catalogue) (s : Shape) :
    k.defaultContainer s = k.resolve (defaultPath k.support s) := by
  cases s <;> rfl

/-- What a descriptor itself declares at a path, last of all. -/
def redeclared (d : Descriptor) (path : String) : Option KnownType :=
  (d.classes.map ofClass ++ d.types.map ofType).reverse.find? (·.path == path)

/-- The container that stands at the default path of a shape before a descriptor declares
    anything. -/
def builtin (support : String) : Shape → KnownType
  | .list => { name := "Vec", path := "::std::vec::Vec", shape := some .list }
  | .set => { name := "IndexSet", path := supportSet support, shape := some .set }

/-- The built-in container of a shape is found by its path. -/
theorem find?_builtin (support : String) (s : Shape) :
    (containers support).reverse.find? (·.path == defaultPath support s)
      = some (builtin support s) := by
  cases s with
  | list =>
    -- the other path that is not fixed ends in another segment
    have hset : (supportSet support == "::std::vec::Vec") = false := by
      refine beq_eq_false_iff_ne.mpr fun h => ?_
      have hlast := congrArg Name.lastSegment h
      rw [show Name.lastSegment (supportSet support) = "IndexSet" from
        Name.lastSegment_join (by decide)] at hlast
      exact absurd hlast (by decide)
    show (builtin support .set :: _).find? (·.path == "::std::vec::Vec") = _
    rw [List.find?_cons, show (builtin support .set).path = supportSet support from rfl, hset]
    rfl
  | set =>
    exact List.find?_cons_of_pos (beq_self_eq_true (supportSet support))

/-- **What stands at the path of a default container** is what the descriptor declares there, and
    the container of the generator only if it declares nothing. -/
theorem find?_defaultPath (d : Descriptor) (support : String) (s : Shape) :
    (ofDescriptor d support).types.find? (·.path == defaultPath support s)
      = some ((redeclared d (defaultPath support s)).getD (builtin support s)) := by
  rw [find?_path, declarations, List.append_assoc, List.reverse_append, List.find?_append,
    find?_builtin, redeclared]
  cases List.find? _ (d.classes.map ofClass ++ d.types.map ofType).reverse <;> rfl

/-- What a name that is the path of an entry stands for is that entry. -/
theorem resolve_of_find? {k : Catalogue} (h : k.types.find? (·.path == path) = some t) :
    k.resolve path = some t := by
  rw [resolve, h]
  rfl

end FluentBuilders.Catalogue
