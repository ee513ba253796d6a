/-
  Order — when the order in which classes are declared does not show in a catalogue.

  A declaration replaces what has its path in place, so a list of declarations has a closed form
  (`foldl_declareOrigin`): what was there, each entry replaced by the latest declaration of its
  path, and then the declarations of new paths.  Over the containers, the classes and the further
  types this gives three blocks, of which the order of the classes touches the middle one alone.

  A lookup finds at most one entry in that block, by path or by last segment, if no two classes
  have one name; so reordering the block cannot change what is found (`find?_perm`).
-/
import FluentBuilders.Proofs.Lookup
import FluentBuilders.Proofs.Name.Segments
import Mathlib.Data.List.Nodup
import Mathlib.Data.List.Induction

namespace FluentBuilders.Catalogue

open Descriptor (ClassEntry TypeEntry)

/-! ## Declaring one after the other -/

/-- The paths of some declarations. -/
def paths (os : List Origin) : List String := os.map (·.known.path)

/-- The last of some declarations that has the path of another, or else that other. -/
def latest (xs : List Origin) (u : Origin) : Origin :=
  (xs.reverse.find? (·.known.path == u.known.path)).getD u

/-- The latest declaration of a path is the last one, if that is of this path. -/
theorem latest_concat (xs : List Origin) (x u : Origin) :
    latest (xs ++ [x]) u = if x.known.path = u.known.path then x else latest xs u := by
  rw [latest, List.reverse_concat, List.find?_cons]
  by_cases h : x.known.path = u.known.path
  · rw [beq_iff_eq.mpr h, if_pos h]
    rfl
  · rw [beq_eq_false_iff_ne.mpr h, if_neg h]
    rfl

/-- A later declaration in place of another has its path. -/
theorem path_latest (xs : List Origin) (u : Origin) :
    (latest xs u).known.path = u.known.path := by
  induction xs using List.reverseRecOn with
  | nil => rfl
  | append_singleton xs x ih =>
    rw [latest_concat]
    split
    · assumption
    · exact ih

theorem paths_map_latest (xs os : List Origin) : paths (os.map (latest xs)) = paths os := by
  rw [paths, List.map_map]
  exact List.map_congr_left fun u _ => path_latest xs u

/-- A path that is there already is declared anew in its place. -/
theorem declareOrigin_of_mem (x : Origin) (bs : List Origin) :
    ∀ {as : List Origin}, x.known.path ∈ paths as → (paths as).Nodup →
      declareOrigin (as ++ bs) x
        = as.map (fun u => if x.known.path = u.known.path then x else u) ++ bs
  | u :: r, hm, hn => by
    obtain ⟨hu, hn⟩ := List.nodup_cons.mp hn
    rw [List.cons_append, declareOrigin, List.map_cons]
    by_cases h : u.known.path = x.known.path
    · rw [if_pos (beq_iff_eq.mpr h), if_pos h.symm]
      -- no other entry has the path
      have hr : r.map (fun u => if x.known.path = u.known.path then x else u) = r := by
        refine (List.map_congr_left fun v hv => ?_).trans (List.map_id r)
        refine if_neg fun hx => hu ?_
        show u.known.path ∈ paths r
        rw [h, hx]
        exact List.mem_map_of_mem hv
      rw [hr]
      rfl
    · rw [if_neg (by simpa using h), if_neg (Ne.symm h), List.cons_append]
      rcases List.mem_cons.mp hm with hx | hm
      · exact absurd hx.symm h
      · rw [declareOrigin_of_mem x bs hm hn]

/-- A path that is not there yet is passed on to what follows. -/
theorem declareOrigin_of_not_mem (x : Origin) (bs : List Origin) :
    ∀ {as : List Origin}, x.known.path ∉ paths as →
      declareOrigin (as ++ bs) x = as ++ declareOrigin bs x
  | [], _ => rfl
  | u :: r, hm => by
    obtain ⟨hu, hr⟩ := not_or.mp (List.mem_cons.not.mp hm)
    rw [List.cons_append, declareOrigin, if_neg (by simpa using Ne.symm hu),
      declareOrigin_of_not_mem x bs hr]
    rfl

/-- **A list of declarations in closed form.** -/
theorem foldl_declareOrigin {os : List Origin} (hn : (paths os).Nodup) (xs : List Origin) :
    xs.foldl declareOrigin os
      = os.map (latest xs)
        ++ (xs.filter fun x => x.known.path ∉ paths os).foldl declareOrigin [] := by
  induction xs using List.reverseRecOn with
  | nil =>
    show os = os.map id ++ []
    simp
  | append_singleton xs x ih =>
    rw [List.foldl_append, ih, List.filter_append]
    show declareOrigin _ x = _
    by_cases hx : x.known.path ∈ paths os
    · rw [declareOrigin_of_mem x _ (by rwa [paths_map_latest]) (by rwa [paths_map_latest]),
        List.map_map, List.filter_singleton]
      simp only [hx, not_true_eq_false, decide_false, cond_false, List.append_nil]
      congr 1
      refine List.map_congr_left fun u _ => ?_
      show (if x.known.path = (latest xs u).known.path then x else latest xs u) = _
      rw [latest_concat, path_latest]
    · rw [declareOrigin_of_not_mem x _ (by rwa [paths_map_latest]), List.filter_singleton]
      simp only [hx, not_false_eq_true, decide_true, cond_true, List.foldl_append]
      congr 1
      refine List.map_congr_left fun u hu => ?_
      rw [latest_concat, if_neg]
      intro h
      exact hx (h ▸ List.mem_map_of_mem hu)

/-- Declarations of different paths stand as they were made. -/
theorem foldl_declareOrigin_of_nodup {xs : List Origin} (hn : (paths xs).Nodup) :
    xs.foldl declareOrigin [] = xs := by
  induction xs using List.reverseRecOn with
  | nil => rfl
  | append_singleton xs x ih =>
    have hp : paths (xs ++ [x]) = paths xs ++ [x.known.path] := List.map_append
    rw [hp, List.nodup_append] at hn
    rw [List.foldl_append, ih hn.1]
    show declareOrigin xs x = _
    have hx : x.known.path ∉ paths xs := fun h => hn.2.2 _ h _ (List.mem_singleton.mpr rfl) rfl
    rw [← List.append_nil xs, declareOrigin_of_not_mem x [] hx, List.append_nil]
    rfl

/-! ## The classes of a descriptor -/

/-- The classes of a descriptor are told apart by their names, and no further type is given the
    path of one of them. -/
structure Distinct (d : Descriptor) : Prop where
  identifiers : ∀ e ∈ d.classes, Name.isIdentifier e.name = true
  names : (d.classes.map (·.name)).Nodup
  /-- A type without a path stands at its name.  That may be the path of a class: such a name is
      never looked up as a last segment. -/
  elsewhere : ∀ t ∈ d.types, ∀ e ∈ d.classes, t.path ≠ some (Name.join e.package e.name)

/-- Two descriptors that differ in the order of their classes. -/
structure Reordered (d d' : Descriptor) : Prop where
  classes : d'.classes.Perm d.classes
  types : d'.types = d.types

variable {d d' : Descriptor} {support name : String}

/-- Whether entries are distinct does not depend on their order. -/
theorem Distinct.of_reordered (h : Distinct d) (hr : Reordered d d') : Distinct d' where
  identifiers := fun e he => h.identifiers e (hr.classes.mem_iff.mp he)
  names := (hr.classes.map _).nodup_iff.mpr h.names
  elsewhere := fun t ht e he => h.elsewhere t (hr.types ▸ ht) e (hr.classes.mem_iff.mp he)

/-- Nothing but names and packages counts. -/
theorem Distinct.of_map {w : ClassEntry → ClassEntry} (h : Distinct d)
    (hw : ∀ e, (w e).name = e.name ∧ (w e).package = e.package) :
    Distinct { d with classes := d.classes.map w } where
  identifiers := fun e he => by
    obtain ⟨c, hc, rfl⟩ := List.mem_map.mp he
    rw [(hw c).1]
    exact h.identifiers c hc
  names := by
    have hm : (d.classes.map w).map (·.name) = d.classes.map (·.name) := by
      rw [List.map_map]
      exact List.map_congr_left fun e _ => (hw e).1
    rw [hm]
    exact h.names
  elsewhere := fun t ht e he => by
    obtain ⟨c, hc, rfl⟩ := List.mem_map.mp he
    rw [(hw c).1, (hw c).2]
    exact h.elsewhere t ht c hc

theorem Distinct.eq_of_name (h : Distinct d) {e e' : ClassEntry} (he : e ∈ d.classes)
    (he' : e' ∈ d.classes) (hn : e.name = e'.name) : e = e' :=
  List.inj_on_of_nodup_map h.names he he' hn

/-- Names that tell classes apart make their paths different. -/
theorem Distinct.nodup_paths (h : Distinct d) : (paths (d.classes.map .ofClass)).Nodup := by
  refine List.Nodup.of_map Name.lastSegment ?_
  have hm : (paths (d.classes.map .ofClass)).map Name.lastSegment = d.classes.map (·.name) := by
    rw [paths, List.map_map, List.map_map]
    refine List.map_congr_left fun e he => ?_
    exact Name.lastSegment_join (Name.not_mem_of_isIdentifier (h.identifiers e he))
  rw [hm]
  exact h.names

/-! ## The three blocks of a catalogue -/

/-- The containers of the generator, as declarations. -/
def containerOrigins (support : String) : List Origin := (containers support).map .container

theorem nodup_paths_containers (support : String) : (paths (containerOrigins support)).Nodup := by
  -- the last segments are different, wherever the support library is
  refine List.Nodup.of_map Name.lastSegment ?_
  have hs : Name.lastSegment (supportSet support) = "IndexSet" :=
    Name.lastSegment_join (by decide)
  show ["Vec", "VecDeque", "LinkedList", "HashSet", "BTreeSet", "BinaryHeap",
    Name.lastSegment (supportSet support)].Nodup
  rw [hs]
  decide

/-- The classes that are not declared in place of a container. -/
def ownClasses (d : Descriptor) (support : String) : List Origin :=
  (d.classes.map Origin.ofClass).filter fun o => o.known.path ∉ paths (containerOrigins support)

/-- The further types that are not declared in place of a container. -/
def ownTypes (d : Descriptor) (support : String) : List Origin :=
  (d.types.map Origin.ofType).filter fun o => o.known.path ∉ paths (containerOrigins support)

theorem Distinct.nodup_own (h : Distinct d) (support : String) :
    (paths (ownClasses d support)).Nodup :=
  h.nodup_paths.sublist (List.filter_sublist.map _)

/-- What stands in a catalogue: containers, classes, further types, each entry replaced by the
    latest declaration of its path. -/
theorem standing_eq (h : Distinct d) (support : String) :
    standing d support
      = (containerOrigins support).map
          (latest (d.classes.map Origin.ofClass ++ d.types.map Origin.ofType))
        ++ ((ownClasses d support).map (latest (ownTypes d support))
          ++ ((ownTypes d support).filter
            fun o => o.known.path ∉ paths (ownClasses d support)).foldl declareOrigin []) := by
  have hc := nodup_paths_containers support
  have ho := h.nodup_own support
  have hs : standing d support
      = (d.classes.map Origin.ofClass ++ d.types.map Origin.ofType).foldl declareOrigin
          ((containerOrigins support).foldl declareOrigin []) := by
    rw [standing, origins, List.append_assoc, List.foldl_append]
    rfl
  rw [hs, foldl_declareOrigin_of_nodup hc, foldl_declareOrigin hc, List.filter_append,
    List.foldl_append]
  show _ ++ (ownTypes d support).foldl declareOrigin ((ownClasses d support).foldl _ []) = _
  rw [foldl_declareOrigin_of_nodup ho, foldl_declareOrigin ho]

/-! ## Looking up -/

/-- What at most one entry satisfies is found in any order. -/
theorem find?_perm {α : Type} {p : α → Bool} {l l' : List α} (hp : l'.Perm l)
    (hu : ∀ a ∈ l, ∀ b ∈ l, p a = true → p b = true → a = b) : l'.find? p = l.find? p := by
  cases h : l.find? p with
  | some a =>
    have ha := List.mem_of_find?_eq_some h
    have hpa := List.find?_some h
    cases h' : l'.find? p with
    | some b =>
      have hb := hp.mem_iff.mp (List.mem_of_find?_eq_some h')
      rw [hu b hb a ha (List.find?_some h') hpa]
    | none => exact absurd hpa (List.find?_eq_none.mp h' a (hp.mem_iff.mpr ha))
  | none =>
    refine List.find?_eq_none.mpr fun b hb => ?_
    exact List.find?_eq_none.mp h b (hp.mem_iff.mp hb)

/-- The last item of a kind is the same in any order if there is only one. -/
theorem find?_reverse_perm {α : Type} {p : α → Bool} {l l' : List α} (hp : l'.Perm l)
    (hu : ∀ a ∈ l, ∀ b ∈ l, p a = true → p b = true → a = b) :
    l'.reverse.find? p = l.reverse.find? p := by
  refine find?_perm (((List.reverse_perm l').trans hp).trans (List.reverse_perm l).symm) ?_
  intro a ha b hb
  exact hu a (List.mem_reverse.mp ha) b (List.mem_reverse.mp hb)

/-- Among declarations of different paths one at most has a certain path. -/
theorem eq_of_path {os : List Origin} (hn : (paths os).Nodup) {path : String} :
    ∀ a ∈ os, ∀ b ∈ os, (a.known.path == path) = true → (b.known.path == path) = true →
      a = b := by
  intro a ha b hb hpa hpb
  exact List.inj_on_of_nodup_map hn ha hb ((beq_iff_eq.mp hpa).trans (beq_iff_eq.mp hpb).symm)

/-- **The latest declaration of a path** is the same in any order of distinct entries. -/
theorem latest_reordered (h : Distinct d) (hr : Reordered d d') (u : Origin) :
    latest (d'.classes.map Origin.ofClass ++ d'.types.map Origin.ofType) u
      = latest (d.classes.map Origin.ofClass ++ d.types.map Origin.ofType) u := by
  rw [latest, latest, List.reverse_append, List.reverse_append, List.find?_append,
    List.find?_append, hr.types,
    find?_reverse_perm (hr.classes.map Origin.ofClass) (eq_of_path h.nodup_paths)]

/-- The latest declaration of a path is the given one or one behind it. -/
theorem latest_eq_or (xs : List Origin) (u : Origin) :
    latest xs u = u ∨ latest xs u ∈ xs := by
  rw [latest]
  cases h : xs.reverse.find? (·.known.path == u.known.path) with
  | none => exact .inl rfl
  | some x => exact .inr (List.mem_reverse.mp (List.mem_of_find?_eq_some h))

/-- In the block of the classes a last segment belongs to the class of that name only. -/
theorem name_of_own (h : Distinct d) {u : Origin} (hu : u ∈ ownClasses d support)
    (hn : (latest (ownTypes d support) u).known.name = Name.lastSegment name) :
    ∃ e ∈ d.classes, e.name = Name.lastSegment name ∧
      latest (ownTypes d support) u = .ofClass e := by
  obtain ⟨e, he, rfl⟩ := List.mem_map.mp (List.mem_filter.mp hu).1
  rcases latest_eq_or (ownTypes d support) (.ofClass e) with hl | hl
  · rw [hl] at hn
    exact ⟨e, he, hn, hl⟩
  · -- a further type in the place of a class bears a path as its name, which is no last segment
    obtain ⟨t, ht, hlt⟩ := List.mem_map.mp (List.mem_filter.mp hl).1
    have hpath : t.path.getD t.name = Name.join e.package e.name := by
      have hp := path_latest (ownTypes d support) (.ofClass e)
      rw [← hlt] at hp
      exact hp
    have hname : t.name = Name.lastSegment name := by
      rw [← hlt] at hn
      exact hn
    cases htp : t.path with
    | some p =>
      rw [htp] at hpath
      exact absurd (htp.trans (congrArg some hpath)) (h.elsewhere t ht e he)
    | none =>
      rw [htp] at hpath
      have hcolon := Name.not_mem_of_isIdentifier (h.identifiers e he)
      exact absurd (hpath.symm.trans hname) (Name.join_ne_lastSegment hcolon)

/-- **A name leads to the same declaration** in whatever order the classes are declared. -/
theorem origin_reordered (h : Distinct d) (hr : Reordered d d') (support name : String) :
    origin d' support name = origin d support name := by
  have hown : (ownClasses d' support).Perm (ownClasses d support) := (hr.classes.map _).filter _
  have htypes : ownTypes d' support = ownTypes d support := by
    rw [ownTypes, ownTypes, hr.types]
  have hmiddle := hown.map (latest (ownTypes d support))
  have hlast : ((ownTypes d support).filter fun o => o.known.path ∉ paths (ownClasses d' support))
      = (ownTypes d support).filter fun o => o.known.path ∉ paths (ownClasses d support) := by
    refine List.filter_congr fun o _ => ?_
    have hm : o.known.path ∈ paths (ownClasses d' support)
        ↔ o.known.path ∈ paths (ownClasses d support) := (hown.map (·.known.path)).mem_iff
    simp only [hm]
  rw [origin, origin, standing_eq h, standing_eq (h.of_reordered hr), htypes, hlast,
    funext (latest_reordered h hr)]
  have hn : (paths ((ownClasses d support).map (latest (ownTypes d support)))).Nodup := by
    rw [paths_map_latest]
    exact h.nodup_own support
  have hname : ∀ a ∈ (ownClasses d support).map (latest (ownTypes d support)),
      ∀ b ∈ (ownClasses d support).map (latest (ownTypes d support)),
      (a.known.name == Name.lastSegment name) = true →
      (b.known.name == Name.lastSegment name) = true → a = b := by
    intro a ha b hb hna hnb
    obtain ⟨u, hu, rfl⟩ := List.mem_map.mp ha
    obtain ⟨v, hv, rfl⟩ := List.mem_map.mp hb
    obtain ⟨e, he, hen, hle⟩ := name_of_own h hu (beq_iff_eq.mp hna)
    obtain ⟨e', he', hen', hle'⟩ := name_of_own h hv (beq_iff_eq.mp hnb)
    rw [hle, hle', h.eq_of_name he he' (hen.trans hen'.symm)]
  simp only [List.find?_append, List.reverse_append]
  rw [find?_perm hmiddle (eq_of_path hn), find?_reverse_perm hmiddle hname]

end FluentBuilders.Catalogue
