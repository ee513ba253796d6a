/-
  Processing — what the plan of a class entry owes to its parameters and to the catalogue.

  A class entry goes through reading, eligibility, the choice of a constructor, classification and
  synthesis.  If all of that ends well, its plan is the drawn one (`Plan.drawn`) of a constructor
  whose parameters are those of the chosen one, each with the category that the catalogue gives it
  (`process_eq_ok`).  For nested builders this says: a parameter has a nested function exactly when
  the catalogue has a builder for its type, and then the builder is imported unless it is the very
  one that is planned.
-/
import FluentBuilders.Batch.Report
import FluentBuilders.Proofs.Builder.Drafting
import FluentBuilders.Proofs.Category.Rules
import FluentBuilders.Proofs.Class.Reading
import Mathlib.Data.List.Nodup

namespace FluentBuilders.Batch

open Descriptor (ClassEntry DeclaredModality)
open Synthesis

variable {k : Catalogue} {e : ClassEntry} {S : Plan} {f : Class.Facts} {className : String}
  {p : Parameter} {q : ClassifiedParameter} {b : BuilderRef}

/-! ## Reading and classifying -/

/-- The parameters of the constructor that the builder of a class calls. -/
def parametersOf (e : ClassEntry) : List Parameter :=
  match (Class.read e).2 with
  | .error _ => []
  | .ok f =>
    match Constructor.choose f.subject.name f.constructors with
    | .error _ => []
    | .ok c => c.parameters

/-- A marked class with one public constructor, whose parameters have the given names and types. -/
def smallClass (name package display : String) (modality : DeclaredModality)
    (ps : List (String × String)) : ClassEntry where
  name := name
  package := package
  generate := some { name := display }
  constructors := [{ parameters := ps.map fun (n, t) => { name := n, type := { name := t } } }]
  metadata := some {
    kind := .plain
    visibility := .pub
    modality := modality
    constructors := [{ visibility := .pub, parameters := ps.map fun (n, _) => { name := n } }] }

example : parametersOf (smallClass "A" "m" "" .final [("b", "B")])
    = [{ name := "b", type := { name := "B" }, override := none }] := by rfl

/-- The facts about a class are about that class. -/
theorem read_eq_ok (h : (Class.read e).2 = .ok f) :
    f.subject.name = e.name ∧ f.subject.package = e.package := by
  obtain ⟨m, -, -, -, hsub⟩ := Class.read_facts h
  rw [hsub]
  exact ⟨rfl, rfl⟩

/-- Classification keeps name and type, and a parameter is nested exactly when its type has a
    builder. -/
theorem classify_eq_ok (h : p.classify className k = .ok q) :
    q.name = p.name ∧ q.type = p.type ∧
      ∀ b, q.category = .nested b ↔ k.builderOf p.type.name = some b := by
  obtain ⟨hn, ht, hc⟩ := classify_eq_ok_iff.mp h
  refine ⟨hn, ht, fun b => ?_⟩
  have hnested : p.category className k = .ok (.nested b) ↔ k.builderOf p.type.name = some b :=
    category_nested_iff
  rw [← hnested, hc, Except.ok.injEq]

/-! ## The plan -/

/-- A planned class went through every stage; what each of them gave. -/
theorem process_synthesized (h : (process k e).2 = .ok S) :
    ∃ f c kc, (Class.read e).2 = .ok f ∧ f.subject.checkEligible = .ok () ∧
      Constructor.choose f.subject.name f.constructors = .ok c ∧
      c.checkEligible f.subject.name = .ok () ∧ c.classify f.subject.name k = .ok kc ∧
      Plan.synthesize f.subject kc = .ok S := by
  have hp : ((Class.read e).2 >>= planOf k) = .ok S := h
  obtain ⟨f, hf, hp⟩ := bind_eq_ok.mp hp
  obtain ⟨⟨⟩, he, hp⟩ := bind_eq_ok.mp hp
  obtain ⟨c, hc, hp⟩ := bind_eq_ok.mp hp
  obtain ⟨⟨⟩, hv, hp⟩ := bind_eq_ok.mp hp
  obtain ⟨kc, hk, hp⟩ := bind_eq_ok.mp hp
  exact ⟨f, c, kc, hf, he, hc, hv, hk, hp⟩

/-- A planned class went through every stage: it was read, could be built, had one constructor to
    choose, and the names that its plan declares are apart. -/
theorem process_stages (h : (process k e).2 = .ok S) :
    ∃ f c kc, (Class.read e).2 = .ok f ∧ f.subject.checkEligible = .ok () ∧
      Constructor.choose f.subject.name f.constructors = .ok c ∧
      c.checkEligible f.subject.name = .ok () ∧ c.classify f.subject.name k = .ok kc ∧
      (kc.parameters.flatMap membersOf ++ commonMembers f.subject).Nodup ∧
      S = Plan.drawn f.subject kc := by
  obtain ⟨f, c, kc, hf, he, hc, hv, hk, hp⟩ := process_synthesized h
  obtain ⟨hn, -, hS⟩ := Plan.synthesize_eq_ok.mp hp
  exact ⟨f, c, kc, hf, he, hc, hv, hk, hn, hS⟩

/-- What depends on names and types alone is the same before and after classification. -/
theorem classified_map {γ : Type} {c : Constructor} {kc : ClassifiedConstructor}
    (h : c.classify className k = .ok kc) (g : String → TypeRef → γ) :
    kc.parameters.map (fun q => g q.name q.type) = c.parameters.map fun p => g p.name p.type := by
  refine (map_eq_map_of_forall₂ (constructor_classify_eq_ok h).2 fun p q hpq => ?_).symm
  obtain ⟨hn, ht, -⟩ := classify_eq_ok hpq
  rw [hn, ht]

/-- **What a planned class is**: the drawn plan of its chosen constructor, classified. -/
theorem process_eq_ok (h : (process k e).2 = .ok S) :
    ∃ c kc, c.name = e.name ∧ c.package = e.package ∧
      List.Forall₂ (fun p q => p.classify e.name k = .ok q) (parametersOf e) kc.parameters ∧
      (kc.parameters.flatMap membersOf ++ commonMembers c).Nodup ∧
      S = Plan.drawn c kc := by
  obtain ⟨f, c, kc, hf, -, hc, -, hk, hn, hS⟩ := process_stages h
  obtain ⟨hname, hpackage⟩ := read_eq_ok hf
  have hps : parametersOf e = c.parameters := by
    rw [parametersOf, hf]
    simp only [hc]
  refine ⟨f.subject, kc, hname, hpackage, ?_, hn, hS⟩
  rw [hps, ← hname]
  exact (constructor_classify_eq_ok hk).2

/-- The names of a plan that are made of the name of the class. -/
theorem process_names (h : (process k e).2 = .ok S) :
    S.builder = Name.builder e.name ∧ S.className = e.name ∧ S.package = e.package ∧
      S.module = Name.moduleOf S.builder := by
  obtain ⟨c, kc, hn, hp, -, -, rfl⟩ := process_eq_ok h
  exact ⟨congrArg Name.builder hn, hn, hp, rfl⟩

/-- No two parameters of a planned class have one name. -/
theorem nodup_parametersOf (h : (process k e).2 = .ok S) :
    ((parametersOf e).map (·.name)).Nodup := by
  obtain ⟨c, kc, -, -, hq, hm, -⟩ := process_eq_ok h
  have hnames : (parametersOf e).map (·.name) = kc.parameters.map (·.name) :=
    map_eq_map_of_forall₂ hq fun _ _ h => (classify_eq_ok h).1.symm
  rw [hnames]
  exact nodup_names_of_members (List.nodup_append.mp hm).1

/-! ## Nested functions -/

/-- The nested functions of a plan come from the parameters whose type has a builder. -/
theorem nested_mem_iff (h : (process k e).2 = .ok S) {name property : String}
    {builder : TypeRef} {nullable : Bool} :
    PlannedFunction.nested name property builder nullable ∈ S.functions ↔
      ∃ p ∈ parametersOf e, ∃ b, k.builderOf p.type.name = some b ∧
        name = b.displayName.getD p.name ∧ property = p.name ∧
        builder = { name := b.builder, arguments := p.type.arguments } ∧
        nullable = p.type.nullable := by
  obtain ⟨c, kc, -, -, hq, -, rfl⟩ := process_eq_ok h
  show _ ∈ kc.parameters.flatMap (functionsOf c) ↔ _
  rw [List.mem_flatMap]
  constructor
  · rintro ⟨q, hqm, hf⟩
    obtain ⟨p, hpm, hpq⟩ := exists_left_of_mem hq hqm
    obtain ⟨hn, ht, hb⟩ := classify_eq_ok hpq
    rw [functionsOf] at hf
    split at hf
    · exact absurd hf List.not_mem_nil
    · rename_i b hcat
      cases List.mem_singleton.mp hf
      exact ⟨p, hpm, b, (hb b).mp hcat, by rw [hn], hn, by rw [ht], by rw [ht]⟩
    · -- a collection has no nested function
      split at hf <;> cases List.mem_singleton.mp hf
  · rintro ⟨p, hpm, b, hkb, rfl, rfl, rfl, rfl⟩
    obtain ⟨q, hqm, hpq⟩ := exists_right_of_mem hq hpm
    obtain ⟨hn, ht, hb⟩ := classify_eq_ok hpq
    refine ⟨q, hqm, ?_⟩
    rw [functionsOf, (hb b).mpr hkb, hn, ht]
    exact List.mem_singleton.mpr rfl

/-- A parameter of a planned class has a nested function exactly when its type has a builder. -/
theorem has_nested_iff (h : (process k e).2 = .ok S) (hp : p ∈ parametersOf e) :
    (∃ name builder nullable, PlannedFunction.nested name p.name builder nullable ∈ S.functions) ↔
      (k.builderOf p.type.name).isSome := by
  constructor
  · rintro ⟨name, builder, nullable, hf⟩
    obtain ⟨p', hp', b, hb, -, hname, -⟩ := (nested_mem_iff h).mp hf
    -- names of parameters are distinct, so the function is that of this very parameter
    have hpp : p = p' := List.inj_on_of_nodup_map (nodup_parametersOf h) hp hp' hname
    rw [hpp, hb]
    rfl
  · intro hs
    obtain ⟨b, hb⟩ := Option.isSome_iff_exists.mp hs
    exact ⟨_, _, _, (nested_mem_iff h).mpr ⟨p, hp, b, hb, rfl, rfl, rfl, rfl⟩⟩

/-- A plan has a property for every parameter, of its name and type. -/
theorem exists_property (h : (process k e).2 = .ok S) (hp : p ∈ parametersOf e) :
    ∃ q ∈ S.properties, q.name = p.name ∧ q.type = p.type := by
  obtain ⟨c, kc, -, -, hq, -, rfl⟩ := process_eq_ok h
  obtain ⟨q, hqm, hpq⟩ := exists_right_of_mem hq hp
  obtain ⟨hn, ht, -⟩ := classify_eq_ok hpq
  exact ⟨propertyOf q, List.mem_map.mpr ⟨q, hqm, rfl⟩, hn, ht⟩

/-! ## Imports -/

/-- The builder of a parameter is imported unless it is the planned one. -/
theorem import_mem (h : (process k e).2 = .ok S) (hp : p ∈ parametersOf e)
    (hb : k.builderOf p.type.name = some b) (hne : b.builder ≠ S.builder) :
    Name.join b.module b.builder ∈ S.imports := by
  obtain ⟨c, kc, -, -, hq, -, rfl⟩ := process_eq_ok h
  obtain ⟨q, hqm, hpq⟩ := exists_right_of_mem hq hp
  have hcat := ((classify_eq_ok hpq).2.2 b).mpr hb
  refine mem_foldl_addImport.mpr (.inr (List.mem_flatMap.mpr ⟨q, hqm, ?_⟩))
  rw [importsOf, hcat]
  have hne' : b.builder ≠ Name.builder c.name := hne
  simp only [if_pos hne']
  exact List.mem_singleton.mpr rfl

/-- The first import opens the package, and each one behind it is the builder of a parameter. -/
theorem imports_eq (h : (process k e).2 = .ok S) :
    ∃ rest, S.imports = Name.join S.package "*" :: rest ∧
      ∀ path ∈ rest, ∃ p ∈ parametersOf e, ∃ b, k.builderOf p.type.name = some b ∧
        b.builder ≠ S.builder ∧ path = Name.join b.module b.builder := by
  obtain ⟨c, kc, -, -, hq, -, rfl⟩ := process_eq_ok h
  obtain ⟨rest, hr, hm⟩ := drawn_imports c kc
  refine ⟨rest, hr, fun path hpath => ?_⟩
  obtain ⟨q, hqm, hi⟩ := hm path hpath
  obtain ⟨p, hpm, hpq⟩ := exists_left_of_mem hq hqm
  rw [importsOf] at hi
  split at hi
  · rename_i b hcat
    split at hi
    · rename_i hne
      exact ⟨p, hpm, b, ((classify_eq_ok hpq).2.2 b).mp hcat, hne, List.mem_singleton.mp hi⟩
    · exact absurd hi List.not_mem_nil
  · exact absurd hi List.not_mem_nil

end FluentBuilders.Batch
