/-
  Canonical constructors — which constructor a builder of a batch calls, and with what.

  A builder comes out of six stages, and the constructor goes through all of them in two views that
  are paired by nothing but their position.  Reading zips the views (`Class.read_facts`), the choice
  keeps an index into them (`Class.choose_eq_ok`), and what classification and synthesis do to the
  parameters is said list by list.  So the index of the chosen constructor leads back from a plan to
  both views of the class (`Implements`).
-/
import FluentBuilders.Proofs.Batch.Processing
import FluentBuilders.Proofs.Batch.Settling

namespace FluentBuilders.Batch

open Descriptor (ClassEntry ConstructorEntry ConstructorMetadata Metadata)
open Synthesis

variable {k : Catalogue} {e : ClassEntry} {d : Descriptor} {s : Selection} {support : String}
  {S : Plan} {className : String}

/-! ## The parameters on their way -/

/-- A plan calls a constructor with its parameters, as its two views describe them. -/
structure Implements (S : Plan) (c : ConstructorEntry) (m : ConstructorMetadata) : Prop where
  /-- The views name the same parameters. -/
  paired : c.parameters.map (·.name) = m.parameters.map (·.name)
  constructor : S.build.constructor = c.function
  arguments : S.build.arguments = c.parameters.map (·.name)
  properties : S.properties.map (·.name) = c.parameters.map (·.name)
  mutators : S.properties.map (·.mutator) = c.parameters.map fun p => Name.mutator p.name
  setters : S.setters.map (·.name) = c.parameters.map fun p => Name.setter p.name
  /-- A setter assigns the property of its parameter. -/
  assigned : S.setters.map (fun x => (x.mutator, x.type))
    = S.properties.map (fun x => (x.mutator, x.type))
  /-- The types are the declared ones, but for the flag in the metadata. -/
  types : S.properties.map (·.type)
    = List.zipWith (fun p q => { p.type with nullable := q.nullable }) c.parameters m.parameters
  starts : S.properties.map (·.start)
    = m.parameters.map fun q => if q.nullable then .absent else .unset

theorem map_zipWith_left {α β γ δ : Type} {f : α → β → γ} {g : γ → δ} {h : α → δ}
    (hg : ∀ a b, g (f a b) = h a) : ∀ {l : List α} {l' : List β}, l.length = l'.length →
      (List.zipWith f l l').map g = l.map h
  | [], [], _ => rfl
  | a :: l, b :: l', hl => by
    rw [List.zipWith_cons_cons, List.map_cons, hg, map_zipWith_left hg (Nat.succ.inj hl)]
    rfl

theorem map_zipWith_right {α β γ δ : Type} {f : α → β → γ} {g : γ → δ} {h : β → δ}
    (hg : ∀ a b, g (f a b) = h b) {l : List α} {l' : List β} (hl : l.length = l'.length) :
    (List.zipWith f l l').map g = l'.map h := by
  rw [List.zipWith_comm]
  exact map_zipWith_left (fun b a => hg a b) hl.symm

/-- What depends on names alone is that of the declared view. -/
theorem classified_names {γ : Type} {c : ConstructorEntry} {m : ConstructorMetadata}
    {kc : ClassifiedConstructor} (hl : c.parameters.length = m.parameters.length)
    (h : (Class.constructorOf c m).classify className k = .ok kc) (g : String → γ) :
    kc.parameters.map (fun q => g q.name) = c.parameters.map fun p => g p.name := by
  rw [classified_map h fun n _ => g n]
  exact map_zipWith_left (f := Class.parameterOf) (fun _ _ => rfl) hl

/-- What is drawn for a constructor implements it, in both its views. -/
theorem drawn_implements {c : ConstructorEntry} {m : ConstructorMetadata} {subject : Class}
    {kc : ClassifiedConstructor} (ha : Class.Agree c m)
    (h : (Class.constructorOf c m).classify className k = .ok kc) :
    Implements (Plan.drawn subject kc) c m := by
  have hl : c.parameters.length = m.parameters.length := by
    simpa using congrArg List.length ha
  have hproperties : ∀ {γ : Type} (g : Property → γ),
      (Plan.drawn subject kc).properties.map g = kc.parameters.map fun q => g (propertyOf q) := by
    intro γ g
    exact List.map_map
  have hsetters : ∀ {γ : Type} (g : Setter → γ),
      (Plan.drawn subject kc).setters.map g = kc.parameters.map fun q => g (setterOf q) := by
    intro γ g
    exact List.map_map
  exact {
    paired := ha
    constructor := (constructor_classify_eq_ok h).1
    arguments := classified_names hl h id
    properties := (hproperties _).trans (classified_names hl h id)
    mutators := (hproperties _).trans (classified_names hl h Name.mutator)
    setters := (hsetters _).trans (classified_names hl h Name.setter)
    assigned := (hsetters _).trans (hproperties fun x => (x.mutator, x.type)).symm
    types := by
      rw [hproperties]
      refine (classified_map h fun _ t => t).trans ?_
      exact List.map_zipWith
    starts := by
      rw [hproperties]
      refine (classified_map h fun _ t =>
        if t.nullable then Start.absent else Start.unset).trans ?_
      exact map_zipWith_right (f := Class.parameterOf) (fun _ _ => rfl) hl }

/-! ## The class of a plan -/

/-- A planned class is eligible, and its plan calls its canonical constructor. -/
theorem process_canonical (h : (process k e).2 = .ok S) :
    ∃ m, e.metadata = some m ∧ Class.Eligible m ∧ S.internal = (Class.subjectOf e m).isInternal ∧
      ∃ (i : Nat) (c : ConstructorEntry) (v : ConstructorMetadata),
        e.constructors[i]? = some c ∧ m.constructors[i]? = some v ∧
        (v.visibility = .pub ∨ v.visibility = .internal) ∧
        Class.IsCanonical (·.canonical) e.constructors i ∧ Implements S c v := by
  obtain ⟨f, ks, kc, hf, he, hc, hv, hk, -, rfl⟩ := process_stages h
  obtain ⟨m, hm, hagree, hks, hsub⟩ := Class.read_facts hf
  rw [hsub] at he ⊢
  rw [hks] at hc
  obtain ⟨i, hi, hcan⟩ := Class.choose_eq_ok hc
  obtain ⟨c, v, hci, hvi, rfl⟩ := List.getElem?_zipWith_eq_some.mp hi
  refine ⟨m, hm, Class.eligible_of_check he, rfl, i, c, v, hci, hvi, ?_,
    Class.isCanonical_of_zipWith hagree.length_eq hcan, ?_⟩
  · rw [Constructor.checkEligible] at hv
    split at hv
    · rename_i hu
      exact Class.isUsable_reduced.mp hu
    · cases hv
  · obtain ⟨hlt, rfl⟩ := List.getElem?_eq_some_iff.mp hci
    obtain ⟨hlt', rfl⟩ := List.getElem?_eq_some_iff.mp hvi
    exact drawn_implements (hagree.get hlt hlt') hk

/-- **Every builder implements the canonical constructor of an eligible class.** -/
theorem plan_implements_canonical (hS : S ∈ (synthesize d s support).plans) :
    ∃ e ∈ d.classes, s.wants e = true ∧ e.generate.isSome = true ∧
      ∃ m, e.metadata = some m ∧ S.builder = e.name ++ "Builder" ∧ Class.Eligible m ∧
        (S.internal = true ↔ m.visibility = .internal) ∧
        ∃ (i : Nat) (c : ConstructorEntry) (v : ConstructorMetadata),
          e.constructors[i]? = some c ∧ m.constructors[i]? = some v ∧
          (v.visibility = .pub ∨ v.visibility = .internal) ∧
          Class.IsCanonical (·.canonical) e.constructors i ∧ Implements S c v := by
  obtain ⟨e, ha⟩ := mem_plans_iff.mp hS
  obtain ⟨i, hi, -⟩ := accepted_iff_getElem?.mp ha
  obtain ⟨hd, hw, hg⟩ := mem_targets_apply.mp (List.mem_of_getElem? hi)
  have hp := process_of_accepted ha
  obtain ⟨m, hm, helig, hint, hc⟩ := process_canonical hp
  refine ⟨e, hd, hw, hg, m, hm, (process_names hp).1, helig, ?_, hc⟩
  rw [hint]
  show (m.visibility.reduced == .internal) = true ↔ _
  cases m.visibility <;> decide

/-- A class whose second constructor is the marked one; the first is not even visible. -/
def letters : Descriptor where
  version := Descriptor.currentVersion
  classes :=
    [{ name := "Letter"
       package := "post"
       generate := some {}
       constructors :=
         [{},
          { function := "seal"
            canonical := true
            parameters :=
              [{ name := "to", type := { name := "String", nullable := true } },
               { name := "stamp", type := { name := "u8" } }] }]
       metadata := some
         { kind := .plain
           visibility := .internal
           modality := .inheritable
           constructors :=
             [{ visibility := .priv },
              { visibility := .pub
                parameters := [{ name := "to" }, { name := "stamp", nullable := true }] }] } }]

theorem plan_implements_canonical_marked :
    ∃ S ∈ (synthesize letters {} "support").plans,
      (S.internal = true ∧ S.build.arguments = ["to", "stamp"]) ∧
      ∃ e ∈ letters.classes, ∃ m, e.metadata = some m ∧ S.builder = e.name ++ "Builder" ∧
        ∃ (i : Nat) (c : ConstructorEntry) (v : ConstructorMetadata),
          e.constructors[i]? = some c ∧ m.constructors[i]? = some v ∧
          Class.IsCanonical (·.canonical) e.constructors i ∧ Implements S c v := by
  have hS : ∃ S, Accepted letters {} "support" (letters.classes[0]) S ∧
      (S.internal && S.build.arguments == ["to", "stamp"]) = true :=
    exists_accepted 0 _ rfl (by decide +kernel)
  obtain ⟨S, ha, hS⟩ := hS
  have hmem := mem_plans_iff.mpr ⟨_, ha⟩
  obtain ⟨e, he, -, -, m, hm, hb, -, -, i, c, v, hc, hv, -, hi, himp⟩ :=
    plan_implements_canonical hmem
  exact ⟨S, hmem, by simpa using hS, e, he, m, hm, hb, i, c, v, hc, hv, hi, himp⟩

end FluentBuilders.Batch
