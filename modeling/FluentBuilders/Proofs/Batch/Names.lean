/-
  Names of a plan — which of the names that a builder declares can be declared.

  Every name of a plan is a checked name of the class or made of one, so it can be declared
  (`declared_of_process`).  Nested functions are the one place where a name comes from another
  class, and there it is looked at again.  The entry function is the one name that is made and not
  looked at: that of a class called `Crate` or `Super` without a name for it is a place word
  (`ReservedEntry`).
-/
import FluentBuilders.Proofs.Batch.Order
import FluentBuilders.Proofs.Class.Names
import FluentBuilders.Proofs.Name.Words

namespace FluentBuilders

/-- The names that a plan declares, apart from its entry function. -/
def Plan.declared (S : Plan) : List String :=
  [S.builder, S.module, S.build.constructor]
    ++ S.typeParameters.map (·.name)
    ++ S.properties.flatMap (fun p => [p.name, p.mutator])
    ++ S.setters.map (·.name)
    ++ S.functions.map (·.name)
    ++ S.storages.map (·.name)
    ++ S.scopes.flatMap fun t => t.name :: t.typeParameters.map (·.name)

namespace Synthesis

variable {c : Class} {p : ClassifiedParameter}

/-! ## The names of one parameter -/

/-- The functions for a parameter can be declared if the nested ones can. -/
theorem isIdentifier_functionsOf (hp : Name.isIdentifier p.name = true) (hn : namesNested p) :
    ∀ f ∈ functionsOf c p, Name.isIdentifier f.name = true := by
  intro f hf
  rw [functionsOf] at hf
  split at hf
  · exact absurd hf List.not_mem_nil
  · rename_i b hb
    rw [List.mem_singleton.mp hf]
    exact hn b hb
  · split at hf
    · rw [List.mem_singleton.mp hf]
      exact Name.isIdentifier_insert hp
    · rw [List.mem_singleton.mp hf]
      exact hp

/-- The storage for a parameter can be declared. -/
theorem isIdentifier_storagesOf (hp : Name.isIdentifier p.name = true) :
    ∀ s ∈ storagesOf p, Name.isIdentifier s.name = true := by
  intro s hs
  rw [storagesOf] at hs
  split at hs
  · split at hs
    · rw [List.mem_singleton.mp hs]
      exact Name.isIdentifier_storage hp
    · exact absurd hs List.not_mem_nil
  · exact absurd hs List.not_mem_nil

/-- The scope for a parameter can be declared, and so can its type parameters. -/
theorem isIdentifier_scopesOf (hp : Name.isIdentifier p.name = true)
    (ht : ∀ t ∈ c.typeParameters, Name.isIdentifier t.name = true) :
    ∀ s ∈ scopesOf c p, Name.isIdentifier s.name = true ∧
      ∀ t ∈ s.typeParameters, Name.isIdentifier t.name = true := by
  intro s hs
  rw [scopesOf] at hs
  split at hs
  · split at hs
    · exact absurd hs List.not_mem_nil
    · rw [List.mem_singleton.mp hs]
      exact ⟨Name.isIdentifier_scope hp, fun t h => ht t (List.mem_filter.mp h).1⟩
  · exact absurd hs List.not_mem_nil

/-! ## The names of a plan -/

/-- The names that a plan declares, if those that it is made of are identifiers. -/
theorem isIdentifier_declared {kc : ClassifiedConstructor}
    (hc : Name.isIdentifier c.name = true)
    (ht : ∀ t ∈ c.typeParameters, Name.isIdentifier t.name = true)
    (hf : Name.isIdentifier kc.function = true)
    (hp : ∀ p ∈ kc.parameters, Name.isIdentifier p.name = true ∧ namesNested p) :
    ∀ n ∈ (Plan.drawn c kc).declared, Name.isIdentifier n = true := by
  have hproperties : ∀ n ∈ (kc.parameters.map propertyOf).flatMap fun q => [q.name, q.mutator],
      Name.isIdentifier n = true := by
    simp only [List.mem_flatMap, List.mem_map]
    rintro n ⟨_, ⟨p, hpm, rfl⟩, hn⟩
    rcases List.mem_cons.mp hn with rfl | hn
    · exact (hp p hpm).1
    · rw [List.mem_singleton.mp hn]
      exact Name.isIdentifier_mutator (hp p hpm).1
  have hsetters : ∀ n ∈ (kc.parameters.map setterOf).map (·.name),
      Name.isIdentifier n = true := by
    simp only [List.mem_map]
    rintro n ⟨_, ⟨p, hpm, rfl⟩, rfl⟩
    exact Name.isIdentifier_setter (hp p hpm).1
  have hfunctions : ∀ n ∈ (kc.parameters.flatMap (functionsOf c)).map (·.name),
      Name.isIdentifier n = true := by
    simp only [List.mem_map, List.mem_flatMap]
    rintro n ⟨f, ⟨p, hpm, hf⟩, rfl⟩
    exact isIdentifier_functionsOf (hp p hpm).1 (hp p hpm).2 f hf
  have hstorages : ∀ n ∈ (kc.parameters.flatMap storagesOf).map (·.name),
      Name.isIdentifier n = true := by
    simp only [List.mem_map, List.mem_flatMap]
    rintro n ⟨s, ⟨p, hpm, hs⟩, rfl⟩
    exact isIdentifier_storagesOf (hp p hpm).1 s hs
  have hscopes : ∀ n ∈ (kc.parameters.flatMap (scopesOf c)).flatMap
      fun t => t.name :: t.typeParameters.map (·.name), Name.isIdentifier n = true := by
    simp only [List.mem_flatMap]
    rintro n ⟨s, ⟨p, hpm, hs⟩, hn⟩
    obtain ⟨hname, htypes⟩ := isIdentifier_scopesOf (hp p hpm).1 ht s hs
    rcases List.mem_cons.mp hn with rfl | hn
    · exact hname
    · obtain ⟨t, htm, rfl⟩ := List.mem_map.mp hn
      exact htypes t htm
  have htypes : ∀ n ∈ c.typeParameters.map (·.name), Name.isIdentifier n = true :=
    List.forall_mem_map.mpr ht
  have hown : ∀ n ∈ [Name.builder c.name, Name.moduleOf (Name.builder c.name), kc.function],
      Name.isIdentifier n = true := by
    simp only [List.forall_mem_cons]
    exact ⟨Name.isIdentifier_builder hc, Name.isIdentifier_moduleOf hc, hf,
      fun _ h => absurd h List.not_mem_nil⟩
  simp only [Plan.declared, Plan.drawn, List.forall_mem_append]
  exact ⟨⟨⟨⟨⟨⟨hown, htypes⟩, hproperties⟩, hsetters⟩, hfunctions⟩, hstorages⟩, hscopes⟩

end Synthesis

namespace Batch

open Descriptor (ClassEntry)

variable {k : Catalogue} {e : ClassEntry} {S : Plan}

/-- The entry function of a class would have the name of a place. -/
def ReservedEntry (e : ClassEntry) : Prop :=
  e.generate.bind (·.displayName) = none ∧ (e.name = "Crate" ∨ e.name = "Super")

/-- A reserved entry is one of the two place words. -/
theorem entryFor_of_reserved (h : ReservedEntry e) :
    entryFor e = "crate" ∨ entryFor e = "super" := by
  obtain ⟨hd, hn⟩ := h
  rw [entryFor, hd]
  rcases hn with hn | hn
  · exact .inl (by rw [hn]; decide)
  · exact .inr (by rw [hn]; decide)

/-- **The names of a planned class.**  All of them can be declared, but for the entry function of a
    class called `Crate` or `Super` that was given no name for it. -/
theorem declared_of_process (h : (process k e).2 = .ok S) :
    (∀ n ∈ S.declared, Name.isIdentifier n = true) ∧
      (Name.isIdentifier S.entry.name = true ↔ ¬ ReservedEntry e) := by
  obtain ⟨f, c, kc, hf, -, hc, -, hk, hS⟩ := process_synthesized h
  obtain ⟨-, hnested, rfl⟩ := Plan.synthesize_eq_ok.mp hS
  have hchecked := Class.checked_of_read hf
  -- the chosen constructor is one of those that were read
  obtain ⟨i, hi, -⟩ := Class.choose_eq_ok hc
  have hcm := List.mem_of_getElem? hi
  obtain ⟨hfunction, hps⟩ := constructor_classify_eq_ok hk
  constructor
  · refine Synthesis.isIdentifier_declared hchecked.name hchecked.typeParameters ?_ ?_
    · rw [hfunction]
      exact hchecked.functions c hcm
    · intro q hq
      obtain ⟨p, hp, hpq⟩ := exists_left_of_mem hps hq
      refine ⟨?_, hnested q hq⟩
      rw [(classify_eq_ok hpq).1]
      exact hchecked.parameters c hcm p hp
  · obtain ⟨m, -, -, -, hsubject⟩ := Class.read_facts hf
    have hname : Name.isIdentifier e.name = true := (read_eq_ok hf).1 ▸ hchecked.name
    have hdisplay : ∀ n, e.generate.bind (·.displayName) = some n →
        Name.isIdentifier n = true := by
      intro n hn
      refine hchecked.display n ?_
      rw [hsubject]
      exact (Class.displayName_eq e).symm.trans hn
    rw [process_entry h, entryFor, Name.isIdentifier_entry hname hdisplay, ReservedEntry]
    cases e.generate.bind (·.displayName) with
    | none => simp
    | some n => simp

end Batch

end FluentBuilders
