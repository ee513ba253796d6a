/-
  Resolution — what a type name stands for, said of the declarations alone.

  Declaring a path again changes two things in different ways: the entry is the new one, but it
  stays where the first one was.  So a declaration counts if no later one has its path (`Stands`),
  and it counts at the place where its path came first (`place`).  The entries of a catalogue are
  the declarations that stand, in the order of their places (`mem_types_iff`, `pairwise_place`), and
  a lookup from the end finds the one in the last place (`find?_reverse_eq_some_iff`).

  With that the meaning of a name (`Means`) is said without the catalogue, and a lookup finds
  exactly what the name means (`resolve_meaning`).
-/
import FluentBuilders.Proofs.Catalogue.Declarations
import Mathlib.Data.List.Induction

namespace FluentBuilders.Catalogue

variable {t u x : KnownType} {ds xs ys : List KnownType} {path q : String} {d : Descriptor}
  {support : String}

/-! ## Declarations that stand -/

/-- A declaration that no later one replaces: it is the last one of its path. -/
def Stands (ds : List KnownType) (t : KnownType) : Prop :=
  ∃ front back, ds = front ++ t :: back ∧ ∀ u ∈ back, u.path ≠ t.path

/-- What stands is what a search for its path finds first, coming from the end. -/
theorem stands_iff : Stands ds t ↔ ds.reverse.find? (·.path == t.path) = some t := by
  rw [List.find?_eq_some_iff_append]
  constructor
  · rintro ⟨front, back, rfl, hback⟩
    refine ⟨beq_self_eq_true _, back.reverse, front.reverse, by simp, fun u hu => ?_⟩
    simpa using hback u (List.mem_reverse.mp hu)
  · rintro ⟨-, back, front, hds, hback⟩
    refine ⟨front.reverse, back.reverse, ?_, fun u hu => ?_⟩
    · rw [← List.reverse_reverse ds, hds, List.reverse_append, List.reverse_cons,
        List.append_assoc]
      rfl
    · simpa using hback u (List.mem_reverse.mp hu)

theorem Stands.mem (h : Stands ds t) : t ∈ ds := by
  obtain ⟨front, back, rfl, -⟩ := h
  exact List.mem_append_right _ List.mem_cons_self

/-- One declaration at most stands at a path. -/
theorem Stands.eq_of_path (ht : Stands ds t) (hu : Stands ds u) (h : t.path = u.path) : t = u := by
  rw [stands_iff] at ht hu
  rw [h] at ht
  exact Option.some.inj (ht.symm.trans hu)

/-- At a path that is declared something stands. -/
theorem exists_stands (h : u ∈ ds) : ∃ t, Stands ds t ∧ t.path = u.path := by
  have hsome : (ds.reverse.find? (·.path == u.path)).isSome = true :=
    List.find?_isSome.mpr ⟨u, List.mem_reverse.mpr h, beq_self_eq_true _⟩
  obtain ⟨t, ht⟩ := Option.isSome_iff_exists.mp hsome
  have hp : t.path = u.path := path_of_find? ht
  exact ⟨t, stands_iff.mpr (hp ▸ ht), hp⟩

/-- What stands among the later declarations stands; what stands among the earlier ones does unless
    its path is declared again. -/
theorem stands_append : Stands (xs ++ ys) t ↔
    Stands ys t ∨ Stands xs t ∧ ∀ u ∈ ys, u.path ≠ t.path := by
  simp only [stands_iff, List.reverse_append, List.find?_append, Option.or_eq_some_iff,
    List.find?_eq_none, List.mem_reverse, beq_iff_eq]
  rw [and_comm]

/-! ## Places -/

/-- The place of a path: how many declarations come before the first one of it. -/
def place (ds : List KnownType) (path : String) : Nat := ds.findIdx (·.path == path)

theorem place_cons : place (u :: ds) path = if u.path = path then 0 else place ds path + 1 := by
  rw [place, List.findIdx_cons]
  by_cases h : u.path = path
  · rw [if_pos h, beq_iff_eq.mpr h]
    rfl
  · rw [if_neg h, beq_eq_false_iff_ne.mpr h]
    rfl

/-- A path has a place if something is declared there. -/
theorem place_lt_length_iff : place ds path < ds.length ↔ ∃ u ∈ ds, u.path = path := by
  simp only [place, List.findIdx_lt_length, beq_iff_eq]

/-- What is declared later does not move a path. -/
theorem place_append_of_mem (h : ∃ u ∈ xs, u.path = path) :
    place (xs ++ ys) path = place xs path := by
  rw [place, List.findIdx_append]
  exact if_pos (place_lt_length_iff.mpr h)

/-- A path that is new comes behind all that is there. -/
theorem place_append_of_forall_ne (h : ∀ u ∈ xs, u.path ≠ path) :
    place (xs ++ ys) path = place ys path + xs.length := by
  rw [place, List.findIdx_append, if_neg]
  · rfl
  · rintro hlt
    obtain ⟨u, hu, hp⟩ := place_lt_length_iff.mp hlt
    exact h u hu hp

/-- Two paths that are declared have different places. -/
theorem place_inj (h : ∃ u ∈ ds, u.path = path) (hq : place ds path = place ds q) : path = q := by
  induction ds with
  | nil =>
    obtain ⟨u, hu, -⟩ := h
    cases hu
  | cons x ds ih =>
    rw [place_cons, place_cons] at hq
    split at hq <;> rename_i hp <;> split at hq <;> rename_i hxq
    · exact hp.symm.trans hxq
    · cases hq
    · cases hq
    · obtain ⟨u, hu, rfl⟩ := h
      rcases List.mem_cons.mp hu with rfl | hu
      · exact absurd rfl hp
      · exact ih ⟨u, hu, rfl⟩ (Nat.succ.inj hq)

/-- The paths of a catalogue are those that were declared. -/
theorem mem_paths_foldl :
    path ∈ (ds.foldl declare []).map (·.path) ↔ ∃ u ∈ ds, u.path = path := by
  have h : (ds.foldl declare []).find? (·.path == path) = ds.reverse.find? (·.path == path) := by
    rw [find?_foldl_declare, List.find?_nil, Option.or_none]
  have hsome : ∀ ts : List KnownType,
      (ts.find? (·.path == path)).isSome = true ↔ ∃ u ∈ ts, u.path = path := by
    simp [List.find?_isSome]
  rw [List.mem_map, ← hsome, h, hsome]
  simp only [List.mem_reverse]

/-- The entries of a catalogue are in the order of their places. -/
theorem pairwise_paths (ds : List KnownType) :
    ((ds.foldl declare []).map (·.path)).Pairwise fun p q => place ds p < place ds q := by
  induction ds using List.reverseRecOn with
  | nil => exact List.Pairwise.nil
  | append_singleton ds x ih =>
    -- the paths that are there keep their places
    have hkept : ((ds.foldl declare []).map (·.path)).Pairwise
        fun p q => place (ds ++ [x]) p < place (ds ++ [x]) q := by
      refine ih.imp_of_mem fun hp hq h => ?_
      rwa [place_append_of_mem (mem_paths_foldl.mp hp), place_append_of_mem (mem_paths_foldl.mp hq)]
    rw [List.foldl_append]
    show ((declare (ds.foldl declare []) x).map (·.path)).Pairwise _
    rw [paths_declare]
    split
    · exact hkept
    · rename_i hx
      refine List.pairwise_append.mpr ⟨hkept, List.pairwise_singleton _ _, fun p hp q hq => ?_⟩
      have hnew : ∀ u ∈ ds, u.path ≠ x.path := fun u hu he => hx (mem_paths_foldl.mpr ⟨u, hu, he⟩)
      rw [List.mem_singleton.mp hq, place_append_of_mem (mem_paths_foldl.mp hp),
        place_append_of_forall_ne hnew]
      exact Nat.lt_add_left _ (place_lt_length_iff.mpr (mem_paths_foldl.mp hp))

/-! ## The entries of a catalogue -/

/-- **What is in a catalogue** is what stands among the declarations. -/
theorem mem_types_iff :
    t ∈ (ofDescriptor d support).types ↔ Stands (declarations d support) t := by
  rw [stands_iff, ← find?_path]
  exact ⟨fun h => find?_of_mem (nodup_paths d support) h, List.mem_of_find?_eq_some⟩

/-- **The entries of a catalogue** are in the order in which their paths were first declared. -/
theorem pairwise_place (d : Descriptor) (support : String) :
    (ofDescriptor d support).types.Pairwise fun t u =>
      place (declarations d support) t.path < place (declarations d support) u.path := by
  have h := pairwise_paths (declarations d support)
  rwa [List.pairwise_map] at h

/-- In an ordered list a search from the end finds the greatest. -/
theorem find?_reverse_eq_some_iff {α : Type} {p : α → Bool} {f : α → Nat} {l : List α} {a : α}
    (h : l.Pairwise fun a b => f a < f b) :
    l.reverse.find? p = some a ↔ a ∈ l ∧ p a = true ∧ ∀ b ∈ l, p b = true → f b ≤ f a := by
  constructor
  · intro hfind
    obtain ⟨hp, back, front, hl, hback⟩ := List.find?_eq_some_iff_append.mp hfind
    refine ⟨List.mem_reverse.mp (List.mem_of_find?_eq_some hfind), hp, fun b hb hpb => ?_⟩
    rw [← List.pairwise_reverse, hl, List.pairwise_append] at h
    rw [← List.mem_reverse, hl, List.mem_append, List.mem_cons] at hb
    rcases hb with hb | rfl | hb
    · exact absurd (hback b hb) (by simp [hpb])
    · exact Nat.le_refl _
    · exact Nat.le_of_lt ((List.pairwise_cons.mp h.2.1).1 b hb)
  · rintro ⟨ha, hp, hmax⟩
    obtain ⟨front, back, rfl⟩ := List.append_of_mem ha
    refine List.find?_eq_some_iff_append.mpr
      ⟨hp, back.reverse, front.reverse, by simp, fun b hb => ?_⟩
    have hb' := List.mem_reverse.mp hb
    have hlt := (List.pairwise_cons.mp (List.pairwise_append.mp h).2.1).1 b hb'
    have hle := hmax b (List.mem_append_right _ (List.mem_cons_of_mem _ hb'))
    cases hpb : p b with
    | false => rfl
    | true => exact absurd (hle hpb) (Nat.not_le.mpr hlt)

/-! ## The meaning of a name -/

/-- What a name means, among some declarations: the one that stands at this path, or, if the path is
    not declared, of those that stand and have what the name ends in for a name the one in the last
    place. -/
inductive Means (ds : List KnownType) (q : String) (t : KnownType) : Prop
  | atPath : Stands ds t → t.path = q → Means ds q t
  | byName : (∀ u ∈ ds, u.path ≠ q) → Stands ds t → Name.EndsIn q t.name →
      (∀ u, Stands ds u → Name.EndsIn q u.name → place ds u.path ≤ place ds t.path) →
      Means ds q t

theorem Means.stands (h : Means ds q t) : Stands ds t := by
  cases h with
  | atPath h _ => exact h
  | byName _ h _ _ => exact h

/-- A lookup by path, and by name only if there is nothing at the path. -/
theorem resolve_cases (d : Descriptor) (support q : String) :
    (∃ t, (ofDescriptor d support).resolve q = some t ∧ Stands (declarations d support) t ∧
      t.path = q) ∨
    (∀ u ∈ declarations d support, u.path ≠ q) ∧ (ofDescriptor d support).resolve q
      = (ofDescriptor d support).types.reverse.find? (·.name == Name.lastSegment q) := by
  by_cases hq : ∃ u ∈ declarations d support, u.path = q
  · obtain ⟨u, hu, rfl⟩ := hq
    obtain ⟨t, ht, hp⟩ := exists_stands hu
    have hfind := stands_iff.mp ht
    rw [hp, ← find?_path] at hfind
    exact .inl ⟨t, resolve_of_find? hfind, ht, hp⟩
  · have hne : ∀ u ∈ declarations d support, u.path ≠ q := fun u hu hp => hq ⟨u, hu, hp⟩
    refine .inr ⟨hne, ?_⟩
    have hnone : (ofDescriptor d support).types.find? (·.path == q) = none := by
      rw [find?_path, List.find?_eq_none]
      intro u hu
      simpa using hne u (List.mem_reverse.mp hu)
    rw [resolve, hnone]
    rfl

/-- Comparing with the last segment of a path is asking whether the path ends in the name. -/
theorem name_eq_iff : (t.name == Name.lastSegment q) = true ↔ Name.EndsIn q t.name := by
  rw [beq_iff_eq, Name.endsIn_iff, eq_comm]

/-- **What a path resolves to** is what it means. -/
theorem resolve_eq_some_iff : (ofDescriptor d support).resolve q = some t ↔
    Means (declarations d support) q t := by
  rcases resolve_cases d support q with ⟨u, hr, hu, hp⟩ | ⟨hne, hr⟩
  · rw [hr, Option.some.injEq]
    constructor
    · rintro rfl
      exact .atPath hu hp
    · rintro (⟨ht, htp⟩ | ⟨hne, -⟩)
      · exact hu.eq_of_path ht (hp.trans htp.symm)
      · exact absurd hp (hne u hu.mem)
  · rw [hr, find?_reverse_eq_some_iff (pairwise_place d support)]
    simp only [mem_types_iff, name_eq_iff]
    constructor
    · rintro ⟨ht, hn, hlast⟩
      exact .byName hne ht hn hlast
    · rintro (⟨ht, hp⟩ | ⟨-, ht, hn, hlast⟩)
      · exact absurd hp (hne t ht.mem)
      · exact ⟨ht, hn, hlast⟩

/-- **A path resolves to nothing** if nothing has this path and nothing that stands has its last
    segment for a name. -/
theorem resolve_eq_none_iff : (ofDescriptor d support).resolve q = none ↔
    (∀ u ∈ declarations d support, u.path ≠ q) ∧
      ∀ u, Stands (declarations d support) u → ¬ Name.EndsIn q u.name := by
  rcases resolve_cases d support q with ⟨u, hr, hu, hp⟩ | ⟨hne, hr⟩
  · rw [hr]
    exact iff_of_false (fun h => by cases h) fun h => h.1 u hu.mem hp
  · rw [hr, List.find?_eq_none, and_iff_right hne]
    simp only [List.mem_reverse, mem_types_iff, name_eq_iff]

/-- A declaration that stands and whose name no other one bears that stands. -/
structure AloneNamed (ds : List KnownType) (t : KnownType) : Prop where
  stands : Stands ds t
  alone : ∀ u, Stands ds u → u.name = t.name → u.path = t.path

/-- Where one name is left, every path that ends in it means its type, other declared paths
    apart. -/
theorem AloneNamed.means (h : AloneNamed ds t) (hq : Name.EndsIn q t.name)
    (hother : ∀ u ∈ ds, u.path = q → u.path = t.path) : Means ds q t := by
  by_cases hp : ∃ u ∈ ds, u.path = q
  · obtain ⟨u, hu, hp⟩ := hp
    exact .atPath h.stands ((hother u hu hp).symm.trans hp)
  · refine .byName (fun u hu hp' => hp ⟨u, hu, hp'⟩) h.stands hq fun u hu hn => ?_
    exact Nat.le_of_eq (congrArg (place ds) (h.alone u hu (hn.unique hq)))

/-- **A lookup finds what the name means**, and nothing exactly if the name means nothing: its path
    is not declared, and nothing that stands has what the name ends in for a name.  A name that one
    declaration alone bears leads there behind any path, unless the whole is a path itself. -/
theorem resolve_meaning (d : Descriptor) (support q : String) :
    (∀ t, (ofDescriptor d support).resolve q = some t ↔ Means (declarations d support) q t) ∧
    ((ofDescriptor d support).resolve q = none ↔
      (∀ u ∈ declarations d support, u.path ≠ q) ∧
        ∀ u, Stands (declarations d support) u → ¬ Name.EndsIn q u.name) ∧
    ∀ t, AloneNamed (declarations d support) t → Name.EndsIn q t.name →
      (∀ u ∈ declarations d support, u.path = q → u.path = t.path) →
      (ofDescriptor d support).resolve q = some t :=
  ⟨fun _ => resolve_eq_some_iff, resolve_eq_none_iff,
    fun _ ht hq hother => resolve_eq_some_iff.mpr (ht.means hq hother)⟩

/-- A descriptor that declares one path under two names. -/
def renamed : Descriptor where
  version := Descriptor.currentVersion
  types := [{ name := "Shape", path := some "geo::Shape" },
    { name := "Box", path := some "geo::Shape" }]

/-- The second name is the one that counts, behind any path. -/
theorem resolve_meaning_renamed : (ofDescriptor renamed "support").resolve "a::b::Box"
    = some (ofType { name := "Box", path := some "geo::Shape" }) := by
  have halone : ∀ u ∈ declarations renamed "support", u.name = "Box" → u.path = "geo::Shape" := by
    decide
  refine (resolve_meaning renamed "support" "a::b::Box").2.2 _ ⟨?_, ?_⟩
    (Name.endsIn_iff.mpr (by decide)) (by decide)
  · exact ⟨containers "support" ++ [ofType { name := "Shape", path := some "geo::Shape" }], [], rfl,
      fun _ h => absurd h List.not_mem_nil⟩
  · exact fun u hu => halone u hu.mem

end FluentBuilders.Catalogue
