/-
  References — where the nested builders of an accepted class come from, and which are missing.

  A nested function is made because the catalogue of the last pass has a builder for the type of a
  parameter.  Such a builder belongs either to a further type that the descriptor marks, or to a
  class that is still marked in the last pass, and those are all accepted (`accepted_of_marked`):
  references are sound.

  They are not complete.  A mark that is withdrawn never comes back, but a class that one pass
  rejects may be accepted by a later one, once a parameter that was in its way has become plain.
  Nested functions for such a class are lost, and only for such classes.
-/
import FluentBuilders.Proofs.Batch.Processing
import FluentBuilders.Proofs.Batch.Settling

namespace FluentBuilders.Batch

open Descriptor (ClassEntry TypeEntry)
open Catalogue (Origin origin)

variable {d : Descriptor} {s : Selection} {support name : String} {e D : ClassEntry} {S T : Plan}
  {b : BuilderRef} {p : Parameter}

/-! ## Builders in the catalogue of the last pass -/

/-- The builder of a name is that of its origin. -/
theorem builderOf_ofDescriptor (d : Descriptor) (support name : String) :
    (Catalogue.ofDescriptor d support).builderOf name
      = (origin d support name).bind (·.known.builder) := by
  rw [Catalogue.builderOf, Catalogue.resolve_ofDescriptor]
  cases origin d support name <;> rfl

/-- The nested builders of a plan are those of its nested functions. -/
theorem mem_nestedBuilders {builder : String} :
    builder ∈ nestedBuilders S ↔ ∃ name property r nullable,
      PlannedFunction.nested name property r nullable ∈ S.functions ∧ r.name = builder := by
  rw [nestedBuilders, List.mem_filterMap]
  constructor
  · rintro ⟨f, hf, hb⟩
    cases f with
    | nested name property r nullable =>
      exact ⟨name, property, r, nullable, hf, Option.some.inj hb⟩
    | scope => cases hb
    | insert => cases hb
  · rintro ⟨name, property, r, nullable, hf, hr⟩
    exact ⟨_, hf, congrArg some hr⟩

/-- A plan without nested builders has no nested function. -/
theorem not_nested_of_nil (h : nestedBuilders S = []) {name property : String} {r : TypeRef}
    {nullable : Bool} : PlannedFunction.nested name property r nullable ∉ S.functions := by
  intro hf
  have hb : r.name ∈ nestedBuilders S := mem_nestedBuilders.mpr ⟨_, _, _, _, hf, rfl⟩
  rw [h] at hb
  exact absurd hb List.not_mem_nil

/-- Only classes lose their marks in the rounds. -/
theorem types_finalKnown (d : Descriptor) (s : Selection) (support : String) :
    (finalKnown d s support).types = d.types := by
  rw [finalKnown, lastKnown_eq_withdraw]
  rfl

/-- A class whose builder is part of the batch. -/
structure Sibling (d : Descriptor) (s : Selection) (support : String) (e : ClassEntry) (T : Plan) :
    Prop where
  declared : e ∈ d.classes
  wanted : s.wants e = true
  marked : e.generate.isSome = true
  accepted : Accepted d s support e T
  planned : T ∈ (synthesize d s support).plans
  /-- No class of its package and name is rejected. -/
  kept : keyOf e ∉ (finalPass d s support).rejected (s.apply d)

/-- The path by which other builders of the batch import a builder. -/
def importPath (T : Plan) : String := "super::" ++ T.module ++ "::" ++ T.builder

/-- A class that is still marked in the last pass is a sibling. -/
theorem sibling_of_marked (h : e ∈ (finalKnown d s support).targets) :
    ∃ T, Sibling d s support e T := by
  obtain ⟨⟨T, hT⟩, hk⟩ := accepted_of_marked h
  obtain ⟨he, -⟩ := mem_targets_lastKnown.mp h
  obtain ⟨hc, hw, hg⟩ := mem_targets_apply.mp he
  exact ⟨T, hc, hw, hg, hT, mem_plans_iff.mpr ⟨e, hT⟩, hk⟩

/-- **A builder of the catalogue** is that of a marked further type or that of a sibling. -/
theorem origin_of_builderOf (h : (finalCatalogue d s support).builderOf name = some b) :
    (∃ t ∈ d.types, t.generate.isSome = true ∧
      origin (finalKnown d s support) support name = some (.ofType t) ∧
      b.builder = Name.builder t.name) ∨
    (∃ e T, Sibling d s support e T ∧
      origin (finalKnown d s support) support name = some (.ofClass e) ∧
      b.builder = T.builder ∧ Name.join b.module b.builder = importPath T) := by
  rw [finalCatalogue, builderOf_ofDescriptor] at h
  obtain ⟨o, ho, hb⟩ := Option.bind_eq_some_iff.mp h
  have hm := Catalogue.mem_origins_of_origin ho
  simp only [Catalogue.origins, List.mem_append, List.mem_map] at hm
  rcases hm with (⟨t, ht, rfl⟩ | ⟨e, he, rfl⟩) | ⟨t, ht, rfl⟩
  · have hc : ∀ t ∈ Catalogue.containers support, t.builder = none := by
      simp [Catalogue.containers]
    cases (hc t ht).symm.trans hb
  · right
    obtain ⟨g, hg, hgb⟩ := Option.map_eq_some_iff.mp hb
    -- a class with a builder is still marked, and so it is accepted
    have hmarked : e ∈ (finalKnown d s support).targets := by
      refine List.mem_filter.mpr ⟨he, ?_⟩
      rw [hg]
      rfl
    obtain ⟨T, hT⟩ := sibling_of_marked hmarked
    obtain ⟨hn, -, -, hmod⟩ := process_names (process_of_accepted hT.accepted)
    refine ⟨e, T, hT, ho, ?_, ?_⟩
    · rw [hn, ← hgb]
      rfl
    · rw [importPath, hmod, hn, ← hgb]
      rfl
  · left
    obtain ⟨g, hg, hgb⟩ := Option.map_eq_some_iff.mp hb
    rw [types_finalKnown] at ht
    refine ⟨t, ht, ?_, ho, ?_⟩
    · rw [hg]
      rfl
    · rw [← hgb]
      rfl

/-! ## Soundness -/

/-- Where the builder of a nested function for a parameter of this type comes from: a further type
    that is marked, or a class of the batch. -/
def Backed (d : Descriptor) (s : Selection) (support : String) (S : Plan) (type builder : String) :
    Prop :=
  (∃ t ∈ d.types, t.generate.isSome = true ∧
    origin (finalKnown d s support) support type = some (.ofType t) ∧
    builder = Name.builder t.name) ∨
  ∃ e T, Sibling d s support e T ∧
    origin (finalKnown d s support) support type = some (.ofClass e) ∧
    builder = T.builder ∧ (T ≠ S → importPath T ∈ S.imports)

/-- Different accepted plans build different builders. -/
theorem builder_ne_of_ne (h : Accepted d s support e S) (h' : Accepted d s support D T)
    (hne : T ≠ S) : T.builder ≠ S.builder := by
  intro hb
  obtain ⟨-, -, -, hm⟩ := process_names (process_of_accepted h)
  obtain ⟨-, -, -, hm'⟩ := process_names (process_of_accepted h')
  exact hne (eq_of_module_eq h' h (by rw [hm, hm', hb]))

/-- **What backs a nested builder**: a name that has a builder for an accepted class has it from a
    marked type, or from a class whose own plan was accepted. -/
theorem backed_of_builderOf (h : Accepted d s support e S) (hp : p ∈ parametersOf e)
    (hb : (finalCatalogue d s support).builderOf p.type.name = some b) :
    Backed d s support S p.type.name b.builder := by
  rcases origin_of_builderOf hb with ⟨t, ht, hg, ho, hn⟩ | ⟨D, T, hT, ho, hn, hi⟩
  · exact .inl ⟨t, ht, hg, ho, hn⟩
  · refine .inr ⟨D, T, hT, ho, hn, ?_⟩
    intro hne
    have hne' : b.builder ≠ S.builder := by
      rw [hn]
      exact builder_ne_of_ne h hT.accepted hne
    rw [← hi]
    exact import_mem (process_of_accepted h) hp hb hne'

/-- **Nested references are sound.**  The builder of every nested function is that of a marked
    further type or of an accepted class, which is imported unless it is the planned class itself;
    and without further types, all imports behind the package are builders of the batch. -/
theorem nested_references_sound (d : Descriptor) (s : Selection) (support : String) :
    ∀ S ∈ (synthesize d s support).plans,
      (∀ name property builder nullable,
        PlannedFunction.nested name property builder nullable ∈ S.functions →
          ∃ q ∈ S.properties, q.name = property ∧
            Backed d s support S q.type.name builder.name) ∧
      (d.types = [] →
        (∀ name property builder nullable,
          PlannedFunction.nested name property builder nullable ∈ S.functions →
            ∃ e T, Sibling d s support e T ∧ builder.name = T.builder) ∧
        ∃ rest, S.imports = Name.join S.package "*" :: rest ∧
          ∀ path ∈ rest, ∃ e T, Sibling d s support e T ∧ T ≠ S ∧ path = importPath T) := by
  intro S hS
  obtain ⟨e, hA⟩ := mem_plans_iff.mp hS
  have hS' := process_of_accepted hA
  have hbacked : ∀ name property builder nullable,
      PlannedFunction.nested name property builder nullable ∈ S.functions →
        ∃ q ∈ S.properties, q.name = property ∧
          Backed d s support S q.type.name builder.name := by
    intro name property builder nullable hf
    obtain ⟨p, hp, b, hb, -, rfl, rfl, -⟩ := (nested_mem_iff hS').mp hf
    obtain ⟨q, hq, hqn, hqt⟩ := exists_property hS' hp
    exact ⟨q, hq, hqn, hqt ▸ backed_of_builderOf hA hp hb⟩
  refine ⟨hbacked, ?_⟩
  intro hempty
  have hnone : ∀ t, t ∉ d.types := by
    intro t
    rw [hempty]
    exact List.not_mem_nil
  constructor
  · intro name property builder nullable hf
    obtain ⟨q, -, -, hq⟩ := hbacked name property builder nullable hf
    rcases hq with ⟨t, ht, -⟩ | ⟨D, T, hT, -, hn, -⟩
    · exact absurd ht (hnone t)
    · exact ⟨D, T, hT, hn⟩
  · obtain ⟨rest, hr, hm⟩ := imports_eq hS'
    refine ⟨rest, hr, ?_⟩
    intro path hpath
    obtain ⟨p, hp, b, hb, hne, rfl⟩ := hm path hpath
    rcases origin_of_builderOf hb with ⟨t, ht, -⟩ | ⟨D, T, hT, -, hn, hi⟩
    · exact absurd ht (hnone t)
    · refine ⟨D, T, hT, ?_, hi⟩
      rintro rfl
      exact hne hn

/-- A class with a parameter of another class. -/
def pair : Descriptor where
  version := 1
  classes := [smallClass "A" "m" "" .final [("b", "B")], smallClass "B" "m" "" .final []]

theorem nested_references_sound_pair :
    ∃ S ∈ (synthesize pair {} "s").plans, "BBuilder" ∈ nestedBuilders S ∧
      ∃ e T, Sibling pair {} "s" e T ∧ "BBuilder" = T.builder := by
  obtain ⟨S, hA, hS⟩ : ∃ S, Accepted pair {} "s" (smallClass "A" "m" "" .final [("b", "B")]) S ∧
      decide (nestedBuilders S = ["BBuilder"]) = true :=
    exists_accepted 0 _ rfl (by decide +kernel)
  have hplan : S ∈ (synthesize pair {} "s").plans := mem_plans_iff.mpr ⟨_, hA⟩
  have hb : "BBuilder" ∈ nestedBuilders S := by
    rw [of_decide_eq_true hS]
    exact List.mem_singleton.mpr rfl
  obtain ⟨name, property, r, nullable, hf, hr⟩ := mem_nestedBuilders.mp hb
  obtain ⟨e, T, hT, hn⟩ :=
    ((nested_references_sound pair {} "s" S hplan).2 rfl).1 name property r nullable hf
  exact ⟨S, hplan, hb, e, T, hT, hr.symm.trans hn⟩

/-! ## Completeness, up to classes that some pass rejected -/

/-- A marked class has a builder in the catalogue of the last pass if no pass rejected it. -/
theorem builderOf_isSome_iff (hD : D.generate.isSome = true)
    (ho : origin (s.apply d) support name = some (.ofClass D)) :
    ((finalCatalogue d s support).builderOf name).isSome ↔
      keyOf D ∉ everRejected (s.apply d) (s.apply d) support := by
  rw [finalCatalogue, builderOf_ofDescriptor, finalKnown, lastKnown_eq_withdraw, origin_withdraw,
    ho]
  show (Catalogue.ofClass (unmark _ D)).builder.isSome = true ↔ _
  rw [Catalogue.ofClass, Option.isSome_map]
  by_cases h : keyOf D ∈ everRejected (s.apply d) (s.apply d) support
  · rw [unmark_of_mem h]
    exact iff_of_false Bool.false_ne_true (not_not_intro h)
  · rw [unmark_of_not_mem h]
    exact iff_of_true hD h

/-- **Which nested functions there are.**  If the type of a parameter is a marked class of the
    batch, the parameter has a nested function exactly when no pass rejected that class, whether
    or not the last pass accepts it. -/
theorem nested_iff_never_rejected (d : Descriptor) (s : Selection) (support : String)
    (e D : ClassEntry) (S : Plan) (p : Parameter) (h : Accepted d s support e S)
    (hp : p ∈ parametersOf e) (hD : D.generate.isSome = true)
    (ho : origin (s.apply d) support p.type.name = some (.ofClass D)) :
    (∃ name builder nullable, PlannedFunction.nested name p.name builder nullable ∈ S.functions) ↔
      keyOf D ∉ everRejected (s.apply d) (s.apply d) support := by
  rw [has_nested_iff (process_of_accepted h) hp]
  exact builderOf_isSome_iff hD ho

/-- Three classes that refer to one another, of which the last gets no builder.  The second one is
    rejected with it in the first pass, where the function for its parameter would be called `new`,
    and is accepted in the second pass, where that parameter is plain. -/
def cascade : Descriptor where
  version := 1
  classes := [
    smallClass "A" "m" "" .final [("b", "B")],
    smallClass "B" "m" "" .final [("c", "C")],
    smallClass "C" "m" "new" .abstract []]

theorem accepted_cascade :
    (∃ S, Accepted cascade {} "s" (smallClass "A" "m" "" .final [("b", "B")]) S ∧
      nestedBuilders S = []) ∧
    ∃ T, Accepted cascade {} "s" (smallClass "B" "m" "" .final [("c", "C")]) T := by
  constructor
  · obtain ⟨S, hS, hf⟩ : ∃ S, Accepted cascade {} "s"
        (smallClass "A" "m" "" .final [("b", "B")]) S ∧ decide (nestedBuilders S = []) = true :=
      exists_accepted 0 _ rfl (by decide +kernel)
    exact ⟨S, hS, of_decide_eq_true hf⟩
  · obtain ⟨T, hT, -⟩ : ∃ T, Accepted cascade {} "s"
        (smallClass "B" "m" "" .final [("c", "C")]) T ∧ true = true :=
      exists_accepted 1 (fun _ => true) rfl (by decide +kernel)
    exact ⟨T, hT⟩

theorem nested_iff_never_rejected_cascade :
    keyOf (smallClass "B" "m" "" .final [("c", "C")])
      ∈ everRejected (Selection.apply {} cascade) (Selection.apply {} cascade) "s" := by
  obtain ⟨⟨S, hS, hf⟩, -⟩ := accepted_cascade
  by_contra h
  obtain ⟨name, builder, nullable, hn⟩ := (nested_iff_never_rejected cascade {} "s"
    (smallClass "A" "m" "" .final [("b", "B")]) (smallClass "B" "m" "" .final [("c", "C")]) S
    { name := "b", type := { name := "B" }, override := none } hS
    (List.mem_singleton.mpr rfl) rfl rfl).mpr h
  exact not_nested_of_nil hf hn

/-- **A nested function that is lost**: the type of the parameter is a class with a builder. -/
theorem nested_lost :
    ∃ e D S T p, Accepted cascade {} "s" e S ∧ p ∈ parametersOf e ∧
      origin (Selection.apply {} cascade) "s" p.type.name = some (.ofClass D) ∧
      Accepted cascade {} "s" D T ∧
      ¬ ∃ name builder nullable,
        PlannedFunction.nested name p.name builder nullable ∈ S.functions := by
  obtain ⟨⟨S, hS, hf⟩, T, hT⟩ := accepted_cascade
  refine ⟨smallClass "A" "m" "" .final [("b", "B")],
    smallClass "B" "m" "" .final [("c", "C")], S, T,
    { name := "b", type := { name := "B" }, override := none }, hS, List.mem_singleton.mpr rfl, rfl,
    hT, ?_⟩
  rintro ⟨name, builder, nullable, hn⟩
  exact not_nested_of_nil hf hn

end FluentBuilders.Batch
