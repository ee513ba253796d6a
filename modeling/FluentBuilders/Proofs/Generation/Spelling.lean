/-
  Spelling — nothing that is generated for well-formed names lacks a spelling.

  A text that is no word cannot be made an identifier, and making one is the only step of emission
  that may fail.  The texts reach it on many ways.  The names and types of the class itself were
  looked at when it was read, and what is made of them are words again.  The containers of its
  collections, the modules of nested builders and the package it imports come from elsewhere in the
  descriptor or from the path of the support library, and of these it is assumed that they are well
  formed (`Descriptor.WellNamed`).  Then every text in a plan is a word (`spelled_of_process`).
-/
import FluentBuilders.Proofs.Batch.Names
import FluentBuilders.Proofs.Batch.References
import FluentBuilders.Proofs.Builder.Emission
import FluentBuilders.Proofs.Catalogue.Paths
import FluentBuilders.Proofs.Code.PathText
import FluentBuilders.Proofs.Generation.Files

namespace FluentBuilders

namespace Synthesis

variable {c : Class} {p : ClassifiedParameter}

/-! ## One parameter -/

/-- A parameter that is made of well-formed names. -/
structure Sound (p : ClassifiedParameter) : Prop where
  name : Name.isIdentifier p.name = true
  type : p.type.badName? = none
  nested : namesNested p
  category : p.category.Named

theorem spelled_type (h : Sound p) : Spelled p.type.words := spelled_of_badName? h.type

theorem spelled_container {k : Collection} (h : (Category.collection k).Named) :
    Spelled k.type.words := by
  have helement : Spelled (TypeRef.wordsIn [k.element]) :=
    spelled_wordsIn.mpr (List.forall_mem_singleton.mpr (spelled_of_badName? h.2))
  exact spelled_words.mpr ⟨spelled_of_isPath h.1, helement⟩

/-- The functions for a sound parameter can be spelled. -/
theorem spelled_functionsOf (h : Sound p)
    (ht : ∀ t ∈ c.typeParameters, Name.isIdentifier t.name = true) :
    ∀ f ∈ functionsOf c p, Spelled f.words := by
  have hname := isWord_of_isIdentifier h.name
  have hcategory := h.category
  intro f hf
  rw [functionsOf] at hf
  split at hf
  · exact absurd hf List.not_mem_nil
  · rename_i b hb
    rw [hb] at hcategory
    cases List.mem_singleton.mp hf
    have hpath := Name.isPath_of_isIdentifier hcategory.builder
    have hbuilder :
        Spelled (TypeRef.words { name := b.builder, arguments := p.type.arguments }) :=
      spelled_words.mpr ⟨spelled_of_isPath hpath, (spelled_words.mp (spelled_type h)).2⟩
    -- the function may be named by another class, so its name was looked at again
    simp only [PlannedFunction.words, spelled_cons]
    exact ⟨isWord_of_isIdentifier (h.nested b hb), hname, hbuilder⟩
  · rename_i k hk
    rw [hk] at hcategory
    split at hf
    · cases List.mem_singleton.mp hf
      simp only [PlannedFunction.words, spelled_cons]
      exact ⟨isWord_of_isIdentifier (Name.isIdentifier_insert h.name),
        isWord_of_isIdentifier (Name.isIdentifier_storage h.name),
        spelled_of_badName? hcategory.2⟩
    · cases List.mem_singleton.mp hf
      have hscope := Name.isPath_of_isIdentifier (Name.isIdentifier_scope h.name)
      simp only [PlannedFunction.words, spelled_cons]
      refine ⟨hname, hname, spelled_applied hscope (List.forall_mem_map.mpr ?_)⟩
      exact fun t hm => ht t (List.mem_filter.mp hm).1

theorem spelled_storagesOf (h : Sound p) : ∀ s ∈ storagesOf p, Spelled s.words := by
  have hcategory := h.category
  intro s hs
  rw [storagesOf] at hs
  split at hs
  · rename_i k hk
    rw [hk] at hcategory
    split at hs
    · cases List.mem_singleton.mp hs
      simp only [Storage.words, spelled_cons]
      exact ⟨isWord_of_isIdentifier (Name.isIdentifier_storage h.name),
        isWord_of_isIdentifier h.name, spelled_container hcategory⟩
    · exact absurd hs List.not_mem_nil
  · exact absurd hs List.not_mem_nil

/-- The scope for a sound parameter can be spelled. -/
theorem spelled_scopesOf (h : Sound p)
    (ht : ∀ t ∈ c.typeParameters, Name.isIdentifier t.name = true)
    (hb : ∀ t ∈ c.typeParameters, Spelled t.words) : ∀ s ∈ scopesOf c p, Spelled s.words := by
  have hcategory := h.category
  intro s hs
  rw [scopesOf] at hs
  split at hs
  · rename_i k hk
    rw [hk] at hcategory
    split at hs
    · exact absurd hs List.not_mem_nil
    · cases List.mem_singleton.mp hs
      have hscope := Name.isIdentifier_scope h.name
      have hmentioned : ∀ t ∈ mentionedIn c k, t ∈ c.typeParameters :=
        fun t hm => (List.mem_filter.mp hm).1
      have hself := spelled_applied (Name.isPath_of_isIdentifier hscope)
        (List.forall_mem_map.mpr fun t hm => ht t (hmentioned t hm))
      simp only [ScopeType.words, spelled_cons, spelled_append, spelled_flatMap]
      exact ⟨isWord_of_isIdentifier hscope, ⟨⟨fun t hm => hb t (hmentioned t hm), hself⟩,
        spelled_container hcategory⟩, spelled_of_badName? hcategory.2⟩
  · exact absurd hs List.not_mem_nil

theorem spelled_importsOf (h : Sound p) : ∀ i ∈ importsOf c p, Spelled (pathWords i) := by
  have hcategory := h.category
  intro i hi
  rw [importsOf] at hi
  split at hi
  · rename_i b hb
    rw [hb] at hcategory
    split at hi
    · rw [List.mem_singleton.mp hi]
      exact spelled_of_isPath (Name.isPath_join hcategory.module
        (Name.isIdentifier_iff.mp hcategory.builder).1)
    · exact absurd hi List.not_mem_nil
  · exact absurd hi List.not_mem_nil

/-! ## The plan -/

variable {f : Class.Facts} {kc : ClassifiedConstructor}

/-- The type parameters of a class that was read can be spelled. -/
theorem spelled_typeParameters (hf : Class.Checked f) :
    ∀ t ∈ f.subject.typeParameters, Spelled t.words := fun t ht =>
  spelled_cons.mpr ⟨isWord_of_isIdentifier (hf.typeParameters t ht),
    spelled_of_badNameIn? (hf.bounds t ht)⟩

theorem spelled_imports (hc : Name.isPath c.package = true)
    (hp : ∀ p ∈ kc.parameters, Sound p) :
    ∀ i ∈ (Plan.drawn c kc).imports, Spelled (pathWords i) := by
  obtain ⟨rest, hr, hrest⟩ := drawn_imports c kc
  rw [hr, List.forall_mem_cons]
  refine ⟨spelled_star hc, fun i hi => ?_⟩
  obtain ⟨p, hpm, hi⟩ := hrest i hi
  exact spelled_importsOf (hp p hpm) i hi

/-- **A plan that is made of well-formed names** is written with words only. -/
theorem spelled_drawn (hf : Class.Checked f) (hfunction : Name.isIdentifier kc.function = true)
    (hp : ∀ p ∈ kc.parameters, Sound p) : Spelled (Plan.drawn f.subject kc).words := by
  have hnames : ∀ p ∈ kc.parameters, Text.isWord p.name.toList = true :=
    fun p hpm => isWord_of_isIdentifier (hp p hpm).name
  have hbuilder := Name.isIdentifier_builder hf.name
  have hmodule := isWord_of_isIdentifier (Name.isIdentifier_moduleOf hf.name)
  have hentry := Name.isWord_of_isPlain
    (Name.isPlain_entry (Name.isIdentifier_iff.mp hf.name).1 hf.display)
  have hparameters : ∀ n ∈ f.subject.typeParameters.map (·.name), Name.isIdentifier n = true :=
    List.forall_mem_map.mpr hf.typeParameters
  have hproperties : ∀ q ∈ kc.parameters.map propertyOf, Spelled q.words :=
    List.forall_mem_map.mpr fun p hpm =>
      spelled_cons.mpr ⟨hnames p hpm, spelled_type (hp p hpm)⟩
  have hmembers : ∀ m ∈ (kc.parameters.map propertyOf).zip (kc.parameters.map setterOf),
      Spelled (memberWords m.1 m.2) := by
    rw [List.zip_map', List.forall_mem_map]
    intro p hpm
    have hname := (hp p hpm).name
    simp only [memberWords, spelled_cons]
    exact ⟨isWord_of_isIdentifier (Name.isIdentifier_mutator hname),
      isWord_of_isIdentifier (Name.isIdentifier_setter hname), spelled_nil⟩
  have hfunctions : ∀ g ∈ kc.parameters.flatMap (functionsOf f.subject), Spelled g.words := by
    intro g hg
    obtain ⟨p, hpm, hg⟩ := List.mem_flatMap.mp hg
    exact spelled_functionsOf (hp p hpm) hf.typeParameters g hg
  have hstorages : ∀ s ∈ kc.parameters.flatMap storagesOf, Spelled s.words := by
    intro s hs
    obtain ⟨p, hpm, hs⟩ := List.mem_flatMap.mp hs
    exact spelled_storagesOf (hp p hpm) s hs
  have hscopes : ∀ s ∈ kc.parameters.flatMap (scopesOf f.subject), Spelled s.words := by
    intro s hs
    obtain ⟨p, hpm, hs⟩ := List.mem_flatMap.mp hs
    exact spelled_scopesOf (hp p hpm) hf.typeParameters (spelled_typeParameters hf) s hs
  have hbuild : Spelled (Plan.drawn f.subject kc).build.words := by
    simp only [Plan.drawn, BuildStep.words, spelled_cons, spelled_append, spelled_map]
    exact ⟨isWord_of_isIdentifier hfunction,
      spelled_applied (Name.isPath_of_isIdentifier hf.name) hparameters, hnames⟩
  simp only [Plan.words, spelled_append, spelled_flatMap, spelled_cons]
  exact ⟨⟨⟨⟨⟨⟨⟨⟨⟨⟨isWord_of_isIdentifier hbuilder, hmodule, hentry, spelled_nil⟩,
    spelled_imports hf.package hp⟩, spelled_typeParameters hf⟩,
    spelled_applied (Name.isPath_of_isIdentifier hbuilder) hparameters⟩, hproperties⟩, hmembers⟩,
    hfunctions⟩, hstorages⟩, hscopes⟩, hbuild⟩

end Synthesis

/-! ## Planned classes -/

namespace Batch

open Descriptor (ClassEntry)
open Synthesis (Sound)

variable {d : Descriptor} {s : Selection} {support : String} {k : Catalogue} {e : ClassEntry}
  {S : Plan}

/-- **A planned class is written with words only**, if all that the catalogue holds is well
    named. -/
theorem spelled_of_process (hk : k.Named) (h : (process k e).2 = .ok S) : Spelled S.words := by
  obtain ⟨f, c, kc, hf, -, hc, -, hkc, hS⟩ := process_synthesized h
  obtain ⟨-, hnested, rfl⟩ := Plan.synthesize_eq_ok.mp hS
  have hchecked := Class.checked_of_read hf
  -- the chosen constructor is one of those that were read
  obtain ⟨i, hi, -⟩ := Class.choose_eq_ok hc
  have hcm := List.mem_of_getElem? hi
  obtain ⟨hfunction, hps⟩ := constructor_classify_eq_ok hkc
  refine Synthesis.spelled_drawn hchecked (hfunction ▸ hchecked.functions c hcm) fun q hq => ?_
  obtain ⟨p, hp, hpq⟩ := exists_left_of_mem hps hq
  obtain ⟨hname, htype, -⟩ := classify_eq_ok hpq
  have hbad := hchecked.types c hcm p hp
  obtain ⟨category, hcategory, hq'⟩ := bind_eq_ok.mp hpq
  exact
    { name := hname ▸ hchecked.parameters c hcm p hp
      type := htype ▸ hbad
      nested := hnested q hq
      category := by
        cases hq'
        exact named_of_category hk hbad hcategory }

/-- Names and paths stay as they are when marks are taken away. -/
theorem wellNamed_finalKnown (h : d.WellNamed) : (finalKnown d s support).WellNamed := by
  have happly : (s.apply d).WellNamed := by
    refine h.of_map fun e => ?_
    split <;> exact ⟨rfl, rfl⟩
  rw [finalKnown, lastKnown_eq_withdraw]
  refine happly.of_map fun e => ?_
  split <;> exact ⟨rfl, rfl⟩

/-- **All words of a plan can be spelled**, if the descriptor is properly named. -/
theorem spelled_of_mem_plans (h : d.WellNamed) (hs : Name.isPath support = true)
    (hS : S ∈ (synthesize d s support).plans) : Spelled S.words := by
  obtain ⟨e, hA⟩ := mem_plans_iff.mp hS
  exact spelled_of_process (Catalogue.named_ofDescriptor (wellNamed_finalKnown h) hs)
    (process_of_accepted hA)

end Batch

/-! ## Output -/

namespace Generation

open Batch Code

variable {r : Request}

/-- A module that is there does not fail for its words. -/
theorem writeModule_ne_unspellable {h : Header} {m : Option Module} {refused : Refusal → Failure}
    (hm : m.isSome = true) (hr : ∀ x, refused x ≠ .unspellable) :
    writeModule h m refused ≠ .error .unspellable := by
  obtain ⟨m, rfl⟩ := Option.isSome_iff_exists.mp hm
  intro hw
  unfold writeModule at hw
  simp only at hw
  split at hw
  · exact hr _ (Except.error.inj hw)
  · cases hw

/-- Only a plan without code stops the output for want of a spelling. -/
theorem ne_unspellable (h : ∀ S ∈ r.batch.plans,
    (S.module? r.support).isSome = true ∧ S.declaration?.isSome = true) :
    r.generate ≠ .error .unspellable := by
  have hindex := isSome_indexModule?.mpr fun S hS => (h S hS).2
  -- the failure would be that of the file of a builder or that of the index
  intro hg
  rcases bind_eq_error.mp hg with hg | ⟨_, -, hg⟩
  · rcases bind_eq_error.mp hg with hg | ⟨_, -, hg⟩
    · obtain ⟨S, hS, hg⟩ := mapM_eq_error hg
      rcases bind_eq_error.mp hg with hg | ⟨_, -, hg⟩
      · refine writeModule_ne_unspellable (h S hS).1 (fun x hx => ?_) hg
        cases hx
      · cases hg
    · rcases bind_eq_error.mp hg with hg | ⟨_, -, hg⟩
      · rcases bind_eq_error.mp hg with hg | ⟨_, -, hg⟩
        · refine writeModule_ne_unspellable hindex (fun x hx => ?_) hg
          cases hx
        · cases hg
      · cases hg
  · cases hg

/-- **Emission does not fail on well-formed names.**  If the names and paths of a descriptor are
    well formed and the support library is given by a path that is accepted, every plan is written
    with words only and has a tree, and so has the index. -/
theorem generate_spelled (r : Request) (path : String) (hd : r.descriptor.WellNamed)
    (hpath : Name.isPath path = true) (hread : Path.ofText path = .ok r.support) :
    (∀ S ∈ r.batch.plans, (∀ w ∈ S.words, Text.isWord w.toList = true) ∧
      (S.module? r.support).isSome = true ∧ S.declaration?.isSome = true) ∧
    (indexModule? r.batch.plans).isSome = true ∧
    r.generate ≠ .error .unspellable := by
  have hsupport : Name.isPath r.support.compact = true := by
    rw [compact_of_isPath hpath hread]
    exact hpath
  have hspelled : ∀ S ∈ r.batch.plans, Spelled S.words :=
    fun S hS => spelled_of_mem_plans hd hsupport hS
  have hcode : ∀ S ∈ r.batch.plans,
      (S.module? r.support).isSome = true ∧ S.declaration?.isSome = true :=
    fun S hS => isSome_module?.mpr (hspelled S hS)
  exact ⟨fun S hS => ⟨hspelled S hS, hcode S hS⟩,
    isSome_indexModule?.mpr fun S hS => (hcode S hS).2, ne_unspellable hcode⟩

/-- A class with a set, which is gathered by the support library, and with a parameter of a type
    that has its builder elsewhere. -/
def shelf : Request where
  descriptor := {
    version := Descriptor.currentVersion
    classes := [{
      name := "Shelf"
      package := "crate::store"
      generate := some {}
      constructors := [{
        parameters := [
          { name := "books", type := { name := "HashSet", arguments := [{ name := "Book" }] } },
          { name := "owner", type := { name := "Owner" } }] }]
      metadata := some {
        kind := .plain
        visibility := .pub
        modality := .final
        constructors := [{
          visibility := .pub
          parameters := [{ name := "books" }, { name := "owner" }] }] } }]
    types := [{
      name := "Owner"
      path := some "::people::Owner"
      generate := some {}
      builderModule := some "::people::builders" }] }
  support := .root ["autodsl_support"]
  source := "model.json"

theorem wellNamed_shelf : shelf.descriptor.WellNamed where
  classes := by decide
  packages := by decide
  types := by decide
  paths := by
    simp only [shelf, List.forall_mem_singleton]
    rintro _ ⟨⟩
    decide
  modules := by
    simp only [shelf, List.forall_mem_singleton]
    rintro _ ⟨⟩
    decide

theorem read_shelf : Path.ofText "::autodsl_support" = .ok shelf.support := by
  have hok : (Path.ofText "::autodsl_support").isOk = true := by decide +kernel
  cases h : Path.ofText "::autodsl_support" with
  | error e =>
    rw [h] at hok
    cases hok
  | ok p =>
    have hplain : ∀ x ∈ ["autodsl_support".toList], Name.isPlain x = true := by decide
    have hspelling :
        "::autodsl_support".toList = Name.spelling true "autodsl_support".toList [] := rfl
    rw [ofText_spelling hplain hspelling h]
    rfl

theorem generate_spelled_shelf :
    ∃ S ∈ shelf.batch.plans, "IndexSet" ∈ S.words ∧ "builders" ∈ S.words ∧
      (S.module? shelf.support).isSome = true := by
  have houtcome : ((finalPass shelf.descriptor shelf.selection
      shelf.support.compact).outcomes[0]?.bind (·.toOption)).any
      (fun S => S.words.contains "IndexSet" && S.words.contains "builders") = true := by
    decide +kernel
  obtain ⟨S, hS, hwords⟩ := exists_accepted 0 _ rfl houtcome
  rw [Bool.and_eq_true, List.contains_iff_mem, List.contains_iff_mem] at hwords
  have hplan : S ∈ shelf.batch.plans := mem_plans_iff.mpr ⟨_, hS⟩
  obtain ⟨hspelled, -⟩ :=
    generate_spelled shelf "::autodsl_support" wellNamed_shelf (by decide) read_shelf
  exact ⟨S, hplan, hwords.1, hwords.2, (hspelled S hplan).2.1⟩

end Generation

end FluentBuilders
