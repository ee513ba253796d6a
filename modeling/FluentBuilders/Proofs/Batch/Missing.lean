/-
  Missing builders — when a batch warns that a builder is missing.

  A builder is missing if it is imported from a module beside the planned one and the batch has no
  such module with such a builder (`Misses`).  The warning is decided on less: whether the batch has
  a builder of that name anywhere, and whether any import begins like that of a builder beside and
  ends with the name.  So an import may be taken for that of another builder (`Echoes`), and a
  builder may be taken for one of the same name in another module.

  If every builder is either beside the others or clearly not, and none that is not is called like
  the end of one that is, then the two are the same (`Placed`).
-/
import FluentBuilders.Proofs.Batch.Denotation
import FluentBuilders.Proofs.Batch.Report

namespace FluentBuilders.Batch

open Descriptor (ClassEntry)

variable {d : Descriptor} {s : Selection} {support : String} {e : ClassEntry} {S : Plan}
  {plans : List Plan} {b : BuilderRef} {c builder m : String}

/-! ## Beginnings and ends of paths -/

theorem startsWith_join_super (path : String) :
    startsWith (Name.join "super" path) "super::" = true := by
  rw [startsWith, List.isPrefixOf_iff_prefix, Name.join, String.toList_append]
  exact List.prefix_append _ _

/-- A name without colons at the end of a path is at the end of the last segment. -/
theorem endsWith_of_endsWith_join {parent child ending : String} (hc : ':' ∉ ending.toList)
    (h : endsWith (Name.join parent child) ending = true) : endsWith child ending = true := by
  rw [endsWith_iff] at h ⊢
  have hcolon : ':' :: child.toList <:+ (Name.join parent child).toList := by
    refine ⟨parent.toList ++ [':'], ?_⟩
    simp [Name.join]
  rcases List.suffix_or_suffix_of_suffix h hcolon with h' | h'
  · rcases List.suffix_cons_iff.mp h' with h' | h'
    · rw [h'] at hc
      exact absurd List.mem_cons_self hc
    · exact h'
  · exact absurd (h'.subset List.mem_cons_self) hc

/-! ## What a plan is told to miss -/

/-- A plan imports a builder from a module beside its own. -/
def ImportsBeside (S : Plan) (module builder : String) : Prop :=
  ':' ∉ module.toList ∧ Name.join "super" (Name.join module builder) ∈ S.imports

/-- A plan imports a builder from a module beside its own that is not in the batch. -/
def Misses (plans : List Plan) (S : Plan) (builder : String) : Prop :=
  ∃ m, ImportsBeside S m builder ∧ ∀ T ∈ plans, T.module = m → T.builder ≠ builder

/-- A plan imports something that is beside its own module and ends with the name of a builder,
    but not that builder. -/
def Echoes (S : Plan) (builder : String) : Prop :=
  (∀ m, ¬ ImportsBeside S m builder) ∧
    ∃ path ∈ S.imports, startsWith path "super::" = true ∧ endsWith path builder = true

/-- A plan imports a sibling if some import begins and ends as the path of one does. -/
theorem importsSibling_iff :
    importsSibling S builder = true ↔ ∃ path ∈ S.imports,
      startsWith path "super::" = true ∧ endsWith path builder = true := by
  simp only [importsSibling, List.any_eq_true, Bool.and_eq_true]

/-- An import of a builder beside is seen as an import of a sibling. -/
theorem importsSibling_of_importsBeside (h : ImportsBeside S m builder) :
    importsSibling S builder = true := by
  refine importsSibling_iff.mpr ⟨_, h.2, startsWith_join_super _, ?_⟩
  rw [← Name.join_assoc]
  exact endsWith_join _ _

/-- Whether a builder that is not in the batch is taken to be missing. -/
theorem importsSibling_iff_misses (h : ∀ T ∈ plans, T.builder ≠ builder) :
    importsSibling S builder = true ↔ Misses plans S builder ∨ Echoes S builder := by
  constructor
  · intro hi
    by_cases hm : ∃ m, ImportsBeside S m builder
    · obtain ⟨m, hm⟩ := hm
      exact .inl ⟨m, hm, fun T hT _ => h T hT⟩
    · exact .inr ⟨not_exists.mp hm, importsSibling_iff.mp hi⟩
  · rintro (⟨m, hm, -⟩ | ⟨-, he⟩)
    · exact importsSibling_of_importsBeside hm
    · exact importsSibling_iff.mpr he

/-- **Which builders are reported**, whatever the plans are. -/
theorem mem_missingBuilders_iff :
    (c, builder) ∈ missingBuilders plans ↔
      ∃ S ∈ plans, S.className = c ∧ builder ∈ nestedBuilders S ∧
        (∀ T ∈ plans, T.builder ≠ builder) ∧ (Misses plans S builder ∨ Echoes S builder) := by
  have hgenerated : (!(plans.map (·.builder)).contains builder) = true ↔
      ∀ T ∈ plans, T.builder ≠ builder := by
    simp
  rw [missingBuilders, mem_distinct, List.mem_flatMap]
  refine exists_congr fun S => and_congr_right fun _ => ?_
  simp only [List.mem_map, List.mem_filter, Prod.mk.injEq, Bool.and_eq_true]
  constructor
  · rintro ⟨_, ⟨hb, hg, hi⟩, rfl, rfl⟩
    have hg' := hgenerated.mp hg
    exact ⟨rfl, hb, hg', (importsSibling_iff_misses hg').mp hi⟩
  · rintro ⟨hc, hb, hg, hi⟩
    exact ⟨builder, ⟨hb, hgenerated.mpr hg, (importsSibling_iff_misses hg).mpr hi⟩, hc, rfl⟩

/-! ## Builders that are where they belong -/

/-- A builder is in no module that could be taken for one beside the planned ones. -/
def IsOutside (b : BuilderRef) : Prop := startsWith b.path "super::" = false

instance (b : BuilderRef) : Decidable (IsOutside b) := inferInstanceAs (Decidable (_ = false))

/-- The builders of a descriptor can be told from one another by the ends of their paths. -/
structure Placed (d : Descriptor) : Prop where
  names : ∀ b ∈ typeRefs d, Name.isIdentifier b.builder = true
  modules : ∀ b ∈ typeRefs d, b.IsBeside ∨ IsOutside b
  /-- What is outside is not called like the end of another builder that is beside. -/
  ends : ∀ b ∈ typeRefs d, IsOutside b → ∀ b' ∈ typeRefs d ++ classRefs d, b'.IsBeside →
    endsWith b'.builder b.builder = true → b'.builder = b.builder

/-- Where all builders are placed, a nested one is properly named and either beside or outside. -/
theorem Placed.of_mem_nestedRefs (hd : Placed d)
    (h : b ∈ nestedRefs (finalCatalogue d s support) e) :
    Name.isIdentifier b.builder = true ∧ b ∈ typeRefs d ++ classRefs d ∧
      (b.IsBeside ∨ b ∈ typeRefs d ∧ IsOutside b) := by
  obtain ⟨p, -, hb⟩ := mem_nestedRefs.mp h
  rcases owner_of_builderOf hb with ht | ⟨hc, hident⟩
  · exact ⟨hd.names b ht, List.mem_append_left _ ht, (hd.modules b ht).imp_right fun ho => ⟨ht, ho⟩⟩
  · exact ⟨hident, List.mem_append_right _ hc, .inl (isBeside_of_mem_classRefs hc)⟩

/-- The nested builders of a plan are those of the types of the parameters. -/
theorem mem_nestedBuilders_iff (h : Accepted d s support e S) :
    builder ∈ nestedBuilders S ↔
      ∃ b ∈ nestedRefs (finalCatalogue d s support) e, b.builder = builder := by
  have hS := process_of_accepted h
  rw [mem_nestedBuilders]
  constructor
  · rintro ⟨name, property, r, nullable, hf, rfl⟩
    obtain ⟨p, hp, b, hb, -, -, rfl, -⟩ := (nested_mem_iff hS).mp hf
    exact ⟨b, mem_nestedRefs.mpr ⟨p, hp, hb⟩, rfl⟩
  · rintro ⟨b, hb, rfl⟩
    obtain ⟨p, hp, hb⟩ := mem_nestedRefs.mp hb
    exact ⟨_, _, _, _, (nested_mem_iff hS).mpr ⟨p, hp, b, hb, rfl, rfl, rfl, rfl⟩, rfl⟩

theorem path_of_isBeside (h : b.IsBeside) :
    b.path = Name.join "super" (Name.join (Name.moduleOf b.builder) b.builder) := by
  rw [BuilderRef.path, h, Name.join_assoc]

theorem colon_not_mem_moduleOf (h : Name.isIdentifier builder = true) :
    ':' ∉ (Name.moduleOf builder).toList := by
  rw [Name.moduleOf, Text.snakeCase, String.toList_ofList]
  exact Name.not_mem_of_isPlain (Name.isPlain_snakeFrom (Name.isIdentifier_iff.mp h).1)

theorem importsBeside_of_isBeside (hident : Name.isIdentifier b.builder = true) (h : b.IsBeside)
    (hi : b.path ∈ S.imports) : ImportsBeside S (Name.moduleOf b.builder) b.builder :=
  ⟨colon_not_mem_moduleOf hident, path_of_isBeside h ▸ hi⟩

/-- An import that begins as if it were beside the planned builder and ends like a builder is that
    of a builder beside. -/
theorem exists_beside_of_import (hd : Placed d) (h : Accepted d s support e S) {path : String}
    (hn : ∃ n, builder = Name.builder n) (hi : path ∈ S.imports)
    (hs : startsWith path "super::" = true) (he : endsWith path builder = true) :
    ∃ b ∈ nestedRefs (finalCatalogue d s support) e, path = b.path ∧ b.IsBeside := by
  have htail := mem_tail_of_endsWith h hn hi he
  obtain ⟨b, hb, -, rfl⟩ := (mem_tail_imports h).mp htail
  obtain ⟨-, -, hbeside | ⟨-, houtside⟩⟩ := hd.of_mem_nestedRefs hb
  · exact ⟨b, hb, rfl, hbeside⟩
  · rw [IsOutside, hs] at houtside
    cases houtside

/-- If all builders are where they belong, no import is taken for that of another builder. -/
theorem not_echoes_of_placed (hd : Placed d) (h : Accepted d s support e S)
    (hb : builder ∈ nestedBuilders S) (hne : builder ≠ S.builder) : ¬ Echoes S builder := by
  rintro ⟨hnone, path, hpath, hs, he⟩
  obtain ⟨b, href, rfl⟩ := (mem_nestedBuilders_iff h).mp hb
  obtain ⟨hident, -, hbeside | ⟨ht, houtside⟩⟩ := hd.of_mem_nestedRefs href
  · have hi : b.path ∈ S.imports :=
      List.mem_of_mem_tail ((mem_tail_imports h).mpr ⟨b, href, hne, rfl⟩)
    exact hnone _ (importsBeside_of_isBeside hident hbeside hi)
  · -- the import is that of a builder beside, which then has the very same name
    obtain ⟨b', hb', rfl, hbeside'⟩ :=
      exists_beside_of_import hd h (exists_builder_eq (.inl ht)) hpath hs he
    obtain ⟨hident', hmem', -⟩ := hd.of_mem_nestedRefs hb'
    have hends : endsWith b'.builder b.builder = true :=
      endsWith_of_endsWith_join (Name.not_mem_of_isIdentifier hident) he
    have hsame := hd.ends b ht houtside b' hmem' hbeside' hends
    refine hnone (Name.moduleOf b'.builder) ?_
    rw [← hsame]
    exact importsBeside_of_isBeside hident' hbeside' hpath

/-- If all builders are where they belong, a builder of the batch is missed nowhere. -/
theorem builder_ne_of_misses (hd : Placed d) (h : Accepted d s support e S)
    (hb : builder ∈ nestedBuilders S) (hm : Misses (synthesize d s support).plans S builder) :
    ∀ T ∈ (synthesize d s support).plans, T.builder ≠ builder := by
  obtain ⟨m, ⟨hcolon, hi⟩, hno⟩ := hm
  obtain ⟨b, href, rfl⟩ := (mem_nestedBuilders_iff h).mp hb
  obtain ⟨hident, hmem, -⟩ := hd.of_mem_nestedRefs href
  have hends : endsWith (Name.join "super" (Name.join m b.builder)) b.builder = true := by
    rw [← Name.join_assoc]
    exact endsWith_join _ _
  obtain ⟨b', hb', hpath, hbeside'⟩ := exists_beside_of_import hd h
    (exists_builder_eq (List.mem_append.mp hmem)) hi (startsWith_join_super _) hends
  obtain ⟨hident', -⟩ := hd.of_mem_nestedRefs hb'
  -- the import is that of the builder itself, from the module that is made of its name
  rw [BuilderRef.path, ← Name.join_assoc] at hpath
  obtain ⟨hmodule, hsame⟩ := Name.join_inj (Name.not_mem_of_isIdentifier hident)
    (Name.not_mem_of_isIdentifier hident') hpath
  rw [hbeside', ← hsame] at hmodule
  obtain ⟨-, hm⟩ := Name.join_inj hcolon (colon_not_mem_moduleOf hident) hmodule
  intro T hT hTb
  refine hno T hT ?_ hTb
  obtain ⟨e', he'⟩ := mem_plans_iff.mp hT
  rw [(process_names (process_of_accepted he')).2.2.2, hTb, hm]

/-- **Warnings about missing builders.**  No builder is reported twice for a class.  What is
    reported is what a plan misses, or what an import is taken for, unless the batch has a builder
    of that name; and if all builders are where they belong, it is what a plan misses. -/
theorem missing_builders_reported (d : Descriptor) (s : Selection) (support : String) :
    (missingBuilders (synthesize d s support).plans).Nodup ∧
      (∀ c b, (c, b) ∈ missingBuilders (synthesize d s support).plans ↔
        ∃ S ∈ (synthesize d s support).plans, S.className = c ∧ b ∈ nestedBuilders S ∧
          (∀ T ∈ (synthesize d s support).plans, T.builder ≠ b) ∧
          (Misses (synthesize d s support).plans S b ∨ Echoes S b)) ∧
      (Placed d → ∀ c b, (c, b) ∈ missingBuilders (synthesize d s support).plans ↔
        ∃ S ∈ (synthesize d s support).plans, S.className = c ∧ b ∈ nestedBuilders S ∧
          Misses (synthesize d s support).plans S b) := by
  refine ⟨nodup_distinct _, fun c b => mem_missingBuilders_iff, fun hd c b => ?_⟩
  rw [mem_missingBuilders_iff]
  refine exists_congr fun S => and_congr_right fun hS => and_congr_right fun _ =>
    and_congr_right fun hb => ?_
  obtain ⟨e, he⟩ := mem_plans_iff.mp hS
  constructor
  · rintro ⟨hne, hm | hecho⟩
    · exact hm
    · exact absurd hecho (not_echoes_of_placed hd he hb (hne S hS).symm)
  · intro hm
    exact ⟨builder_ne_of_misses hd he hb hm, .inl hm⟩

/-- A class that refers to a type of a library, to one that should have been built beside it, and to
    a class that is. -/
def lodging : Descriptor where
  version := 1
  classes := [smallClass "P" "m" "" .final [("a", "ext::A"), ("b", "B"), ("c", "C")],
    smallClass "C" "m" "" .final []]
  types := [guest "A", { name := "B", generate := some {} }]

/-- Builders beside the others and outside of them, all of them placed. -/
theorem placed_lodging : Placed lodging where
  names := by decide +kernel
  modules := by decide +kernel
  ends := by decide +kernel

theorem missing_builders_reported_lodging :
    Placed lodging ∧ ("P", "ABuilder") ∉ missingBuilders (synthesize lodging {} "s").plans ∧
      ∃ S ∈ (synthesize lodging {} "s").plans, S.className = "P" ∧ "BBuilder" ∈ nestedBuilders S ∧
        Misses (synthesize lodging {} "s").plans S "BBuilder" := by
  have hm : missingBuilders (synthesize lodging {} "s").plans = [("P", "BBuilder")] := by
    decide +kernel
  obtain ⟨-, -, hplaced⟩ := missing_builders_reported lodging {} "s"
  refine ⟨placed_lodging, ?_, (hplaced placed_lodging "P" "BBuilder").mp ?_⟩
  · rw [hm]
    decide
  · rw [hm]
    exact List.mem_singleton.mpr rfl

/-- A class that refers to a type of a library and to a class whose name ends like that type. -/
def mishearing : Descriptor where
  version := 1
  classes := [smallClass "P" "m" "" .final [("a", "ext::A"), ("x", "XA")],
    smallClass "XA" "m" "" .final []]
  types := [guest "A"]

/-- **A builder that is reported and not missed**: it is imported from its library, and the import
    of a builder beside the planned one, which is in the batch, ends with its name. -/
theorem echo_reported :
    ("P", "ABuilder") ∈ missingBuilders (synthesize mishearing {} "s").plans ∧
      ¬ ∃ S ∈ (synthesize mishearing {} "s").plans, S.className = "P" ∧
        "ABuilder" ∈ nestedBuilders S ∧
        Misses (synthesize mishearing {} "s").plans S "ABuilder" := by
  have hpaths : ∀ path ∈ (synthesize mishearing {} "s").plans.flatMap (·.imports),
      startsWith path "super::" = true → Name.lastSegment path ≠ "ABuilder" := by decide +kernel
  refine ⟨by decide +kernel, ?_⟩
  rintro ⟨S, hS, -, -, m, ⟨-, hi⟩, -⟩
  refine hpaths _ (List.mem_flatMap.mpr ⟨S, hS, hi⟩) (startsWith_join_super _) ?_
  rw [← Name.join_assoc]
  exact Name.lastSegment_join (by decide)

end FluentBuilders.Batch
