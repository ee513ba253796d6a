/-
  Shadowing — when what a descriptor declares hides a container of its name.

  A name without separators is no path of a container, so it leads to whatever stands in the last
  place under that name.  The containers are declared first of all, and what is declared at a new
  path comes behind them.  But what is declared at the path of a container stands in the place of
  that container, and if it has the name of a container further on, it is that container which is
  found (`Outranked`).

  A class cannot get there: its path ends in its name, and so does the path of a container
  (`not_outranked_of_class`).
-/
import FluentBuilders.Proofs.Catalogue.Order
import FluentBuilders.Proofs.Catalogue.Resolution

namespace FluentBuilders.Catalogue

open Descriptor (ClassEntry TypeEntry)

variable {t u e c : KnownType} {front back : List KnownType} {path name support : String}
  {d : Descriptor}

/-! ## Containers and additions -/

/-- What a descriptor adds to the containers. -/
def additions (d : Descriptor) : List KnownType := d.classes.map ofClass ++ d.types.map ofType

theorem declarations_eq (d : Descriptor) (support : String) :
    declarations d support = containers support ++ additions d := List.append_assoc _ _ _

/-- The path of a container ends in its name. -/
theorem path_container (h : c ∈ containers support) :
    (∃ p, c.path = Name.join p c.name) ∧ ':' ∉ c.name.toList := by
  simp only [containers, List.mem_cons, List.not_mem_nil, or_false] at h
  rcases h with rfl | rfl | rfl | rfl | rfl | rfl | rfl
  · exact ⟨⟨"::std::vec", by decide⟩, by decide⟩
  on_goal 6 =>
    have hname : ':' ∉ "IndexSet".toList := by decide
    exact ⟨⟨support, rfl⟩, hname⟩
  -- all others are in one module
  all_goals exact ⟨⟨"::std::collections", by decide⟩, by decide⟩

/-- The containers have different names. -/
theorem nodup_names_containers (support : String) :
    ((containers support).map (·.name)).Nodup := by
  show ["Vec", "VecDeque", "LinkedList", "HashSet", "BTreeSet", "BinaryHeap", "IndexSet"].Nodup
  decide

/-- Every container stands until something else is declared: no two of them have one path. -/
theorem stands_container (h : c ∈ containers support) : Stands (containers support) c := by
  have hnodup : ((containers support).map (·.path)).Nodup := nodup_paths_containers support
  obtain ⟨front, back, hc⟩ := List.append_of_mem h
  refine ⟨front, back, hc, fun u hu he => ?_⟩
  rw [hc, List.map_append, List.map_cons, List.nodup_append] at hnodup
  exact (List.nodup_cons.mp hnodup.2.1).1 (List.mem_map.mpr ⟨u, hu, he⟩)

/-- What tells all containers apart tells one apart from those before it. -/
theorem ne_of_before {f : KnownType → String} (hn : ((containers support).map f).Nodup)
    (hc : containers support = front ++ c :: back) : ∀ b ∈ front, f b ≠ f c := by
  rw [hc, List.map_append, List.map_cons, List.nodup_append] at hn
  exact fun b hb => hn.2.2 _ (List.mem_map_of_mem hb) _ List.mem_cons_self

/-- What stands is an addition, or a container whose path is not declared again. -/
theorem stands_cases (h : Stands (declarations d support) t) : Stands (additions d) t ∨
    t ∈ containers support ∧ ∀ u ∈ additions d, u.path ≠ t.path := by
  rw [declarations_eq, stands_append] at h
  exact h.imp_right fun h => ⟨h.1.mem, h.2⟩

/-- What stands among the additions stands in the whole. -/
theorem stands_of_addition (h : Stands (additions d) t) : Stands (declarations d support) t := by
  rw [declarations_eq, stands_append]
  exact .inl h

/-! ## The place of a container -/

/-- The declarations around a container. -/
theorem declarations_split (hc : containers support = front ++ c :: back) :
    declarations d support = front ++ c :: (back ++ additions d) := by
  rw [declarations_eq, hc, List.append_assoc]
  rfl

/-- In front of a container are the paths of the containers before it. -/
theorem place_lt_iff (hc : containers support = front ++ c :: back) :
    place (declarations d support) path < front.length ↔ ∃ b ∈ front, b.path = path := by
  rw [declarations_split hc]
  constructor
  · intro h
    by_contra hne
    rw [place_append_of_forall_ne fun b hb hp => hne ⟨b, hb, hp⟩] at h
    omega
  · intro h
    rw [place_append_of_mem h]
    exact place_lt_length_iff.mpr h

/-- A container keeps the place at which it is built in, whatever is declared behind it. -/
theorem place_container (hc : containers support = front ++ c :: back) :
    place (declarations d support) c.path = front.length := by
  have hne : ∀ b ∈ front, b.path ≠ c.path := ne_of_before (nodup_paths_containers support) hc
  rw [declarations_split hc, place_append_of_forall_ne hne, place_cons, if_pos rfl, Nat.zero_add]

/-! ## Outranking -/

/-- A container outranks what is declared with its name: it stands, the name is not itself the path
    of anything, and what stands under the name is in the place of a container before it. -/
def Outranked (d : Descriptor) (support name : String) : Prop :=
  ∃ front c back, containers support = front ++ c :: back ∧ c.name = name ∧
    (∀ u ∈ additions d, u.path ≠ c.path ∧ u.path ≠ name) ∧
    ∀ u, Stands (additions d) u → u.name = name → ∃ b ∈ front, b.path = u.path

/-- An addition is found if no container outranks it. -/
theorem not_outranked_of_means (ht : Stands (additions d) t)
    (hm : Means (declarations d support) name t) (hn : ∀ p s, name ≠ Name.join p s) :
    ¬ Outranked d support name := by
  rintro ⟨front, c, back, hc, hname, hkept, hplaced⟩
  have hbare : Name.EndsIn name name := .inl ⟨hn, rfl⟩
  cases hm with
  | atPath _ hp => exact (hkept t ht.mem).2 hp
  | byName _ _ hend hlast =>
    obtain ⟨b, hb, hp⟩ := hplaced t ht (hend.unique hbare)
    have hlt := (place_lt_iff (d := d) hc).mpr ⟨b, hb, hp⟩
    -- the container stands, so it is not found only if it is further in front
    have hmem : c ∈ containers support := hc ▸ List.mem_append_right _ List.mem_cons_self
    have hstands : Stands (declarations d support) c := by
      rw [declarations_eq, stands_append]
      exact .inr ⟨stands_container hmem, fun u hu => (hkept u hu).1⟩
    have hle := hlast c hstands (hname ▸ hbare)
    rw [place_container hc] at hle
    exact absurd hlt (Nat.not_lt.mpr hle)

/-- A container is found if it outranks what is added. -/
theorem outranked_of_means (ht : t ∈ containers support)
    (hkept : ∀ u ∈ additions d, u.path ≠ t.path)
    (hm : Means (declarations d support) name t) (hn : ∀ p s, name ≠ Name.join p s) :
    Outranked d support name := by
  have hbare : Name.EndsIn name name := .inl ⟨hn, rfl⟩
  cases hm with
  | atPath _ hp =>
    obtain ⟨⟨p, hjoin⟩, -⟩ := path_container ht
    exact absurd (hp.symm.trans hjoin) (hn p _)
  | byName hne _ hend hlast =>
    obtain ⟨front, back, hc⟩ := List.append_of_mem ht
    refine ⟨front, t, back, hc, hend.unique hbare, fun u hu => ?_, fun u hu hname => ?_⟩
    · refine ⟨hkept u hu, hne u ?_⟩
      rw [declarations_eq]
      exact List.mem_append_right _ hu
    · have hstands : Stands (declarations d support) u := stands_of_addition hu
      have hle := hlast u hstands (hname ▸ hbare)
      rw [← place_lt_iff (d := d) hc, ← place_container (d := d) hc]
      refine Nat.lt_of_le_of_ne hle fun he => ?_
      exact hkept u hu.mem (place_inj ⟨u, hstands.mem, rfl⟩ he)

/-- A class in the place of a container has the name of that container. -/
theorem not_outranked_of_class (he : e ∈ d.classes.map ofClass) (hs : Stands (additions d) e) :
    ¬ Outranked d support e.name := by
  rintro ⟨front, c, back, hc, hname, -, hplaced⟩
  obtain ⟨b, hb, hp⟩ := hplaced e hs rfl
  have hmemc : c ∈ containers support := hc ▸ List.mem_append_right _ List.mem_cons_self
  have hmemb : b ∈ containers support := hc ▸ List.mem_append_left _ hb
  obtain ⟨entry, -, rfl⟩ := List.mem_map.mp he
  obtain ⟨⟨p, hjoin⟩, hcolonb⟩ := path_container hmemb
  have hcolon : ':' ∉ entry.name.toList := by
    rw [show entry.name = c.name from hname.symm]
    exact (path_container hmemc).2
  have hsame : b.name = c.name :=
    (Name.join_inj hcolonb hcolon (hjoin.symm.trans hp)).2.trans hname.symm
  -- but no two containers have one name
  exact ne_of_before (nodup_names_containers support) hc b hb hsame

/-- Additions at paths of their own are not outranked by a container. -/
theorem not_outranked_of_path (hs : Stands (additions d) e)
    (hp : ∀ c ∈ containers support, c.path ≠ e.path) : ¬ Outranked d support e.name := by
  rintro ⟨front, c, back, hc, -, -, hplaced⟩
  obtain ⟨b, hb, hpath⟩ := hplaced e hs rfl
  exact hp b (hc ▸ List.mem_append_left _ hb) hpath

/-- **What is found under the name of an addition**, if nothing replaces it later: an addition
    again, unless a container outranks all that is declared with the name.  That does not happen to
    a class, and it does not happen where the path is not that of a container. -/
theorem found_own_iff (he : Stands (additions d) e) (hn : ∀ p s, e.name ≠ Name.join p s)
    (support : String) :
    ∃ t, (ofDescriptor d support).resolve e.name = some t ∧
      (ofDescriptor d support).shapeOf e.name = t.shape ∧
      (ofDescriptor d support).builderOf e.name = t.builder ∧
      (Stands (additions d) t ↔ ¬ Outranked d support e.name) ∧
      (Outranked d support e.name → t ∈ containers support) ∧
      (e ∈ d.classes.map ofClass ∨ (∀ c ∈ containers support, c.path ≠ e.path) →
        Stands (additions d) t) := by
  have hsome : (ofDescriptor d support).resolve e.name ≠ none := by
    rw [Ne, resolve_eq_none_iff]
    exact fun h => h.2 e (stands_of_addition he) (.inl ⟨hn, rfl⟩)
  obtain ⟨t, ht⟩ := Option.ne_none_iff_exists'.mp hsome
  have hm := resolve_eq_some_iff.mp ht
  have hown : Stands (additions d) t ↔ ¬ Outranked d support e.name := by
    refine ⟨fun hs => not_outranked_of_means hs hm hn, fun hout => ?_⟩
    rcases stands_cases hm.stands with hs | ⟨hc, hkept⟩
    · exact hs
    · exact absurd (outranked_of_means hc hkept hm hn) hout
  refine ⟨t, ht, ?_, ?_, hown, fun hout => ?_, fun h => hown.mpr ?_⟩
  · rw [shapeOf, ht]
    rfl
  · rw [builderOf, ht]
    rfl
  · rcases stands_cases hm.stands with hs | ⟨hc, -⟩
    · exact absurd hout (hown.mp hs)
    · exact hc
  · rcases h with hclass | hpath
    · exact not_outranked_of_class hclass he
    · exact not_outranked_of_path he hpath

/-- A descriptor that declares types with the name of a container, at some paths. -/
def declaringSets (paths : List String) : Descriptor where
  version := Descriptor.currentVersion
  types := paths.map fun path => { name := "IndexSet", path := some path }

/-- One type is in the place of another container, but one is behind all containers. -/
theorem found_own_iff_behind :
    ∃ t, (ofDescriptor (declaringSets ["crate::Set", "::std::vec::Vec"]) "support").resolve
        "IndexSet" = some t ∧
      Stands (additions (declaringSets ["crate::Set", "::std::vec::Vec"])) t := by
  have hstands : Stands (additions (declaringSets ["crate::Set", "::std::vec::Vec"]))
      (ofType { name := "IndexSet", path := some "crate::Set" }) := by
    refine ⟨[], _, rfl, ?_⟩
    decide
  obtain ⟨t, ht, -, -, -, -, hown⟩ :=
    found_own_iff hstands (Name.ne_join_of_not_mem (by decide)) "support"
  exact ⟨t, ht, hown (.inr (by decide))⟩

/-- **A container is found** in place of what the descriptor declares with its name, where that is
    at the path of a container before it. -/
theorem container_found :
    ∃ (d : Descriptor) (e t : KnownType), Stands (additions d) e ∧
      (∀ p s, e.name ≠ Name.join p s) ∧ (ofDescriptor d "support").resolve e.name = some t ∧
      t ∈ containers "support" ∧ ∀ u ∈ additions d, u.path ≠ t.path := by
  have hfound :
      (ofDescriptor (declaringSets ["::std::collections::HashSet"]) "support").resolve "IndexSet"
        = some { name := "IndexSet", path := supportSet "support", shape := some .set } := by
    decide +kernel
  refine ⟨declaringSets ["::std::collections::HashSet"],
    ofType { name := "IndexSet", path := some "::std::collections::HashSet" }, _,
    ⟨[], [], rfl, fun _ h => absurd h List.not_mem_nil⟩,
    Name.ne_join_of_not_mem (by decide), hfound, by decide, by decide⟩

end FluentBuilders.Catalogue
