/-
  Paths in a catalogue — what is known of the entries if the descriptor is well named.

  The names of a class are looked at when it is read, but the catalogue holds classes that are never
  read, further types, and the paths of modules in them; nobody looks at these.  So here something
  is assumed of the descriptor (`WellNamed`).  Then every entry stands at a path, and the builder of
  every entry is named by an identifier in a module that is a path (`named_ofDescriptor`).  What a
  category takes from the catalogue is one or the other (`named_of_category`).
-/
import FluentBuilders.Proofs.Category.Rules
import FluentBuilders.Proofs.Lookup
import FluentBuilders.Proofs.Name.Paths
import Mathlib.Data.Option.Basic

namespace FluentBuilders

open Descriptor (ClassEntry TypeEntry CollectionOverride)

/-! ## Descriptors -/

/-- The names and paths of a descriptor are well formed, as far as the catalogue uses them. -/
structure Descriptor.WellNamed (d : Descriptor) : Prop where
  classes : ∀ c ∈ d.classes, Name.isIdentifier c.name = true
  packages : ∀ c ∈ d.classes, Name.isPath c.package = true
  types : ∀ t ∈ d.types, Name.isIdentifier t.name = true
  paths : ∀ t ∈ d.types, ∀ path, t.path = some path → Name.isPath path = true
  modules : ∀ t ∈ d.types, ∀ path, t.builderModule = some path → Name.isPath path = true

variable {d : Descriptor} {support name className : String} {t : KnownType} {k : Catalogue}
  {p : Parameter}

/-- Nothing but names and packages counts. -/
theorem Descriptor.WellNamed.of_map {w : ClassEntry → ClassEntry} (h : d.WellNamed)
    (hw : ∀ e, (w e).name = e.name ∧ (w e).package = e.package) :
    WellNamed { d with classes := d.classes.map w } where
  classes := List.forall_mem_map.mpr fun c hc => (hw c).1 ▸ h.classes c hc
  packages := List.forall_mem_map.mpr fun c hc => (hw c).2 ▸ h.packages c hc
  types := h.types
  paths := h.paths
  modules := h.modules

/-! ## Entries -/

/-- A builder with an identifier for its name, in a module that is a path. -/
structure BuilderRef.Named (b : BuilderRef) : Prop where
  builder : Name.isIdentifier b.builder = true
  module : Name.isPath b.module = true

/-- An entry that stands at a path, with a builder that can be named. -/
structure KnownType.Named (t : KnownType) : Prop where
  path : Name.isPath t.path = true
  builder : ∀ b, t.builder = some b → b.Named

namespace Catalogue

/-- The builder of a well-named class, in a module of its own unless another one is given. -/
theorem named_builderRef {g : Descriptor.Generate} {module : Option String}
    (hn : Name.isIdentifier name = true)
    (hm : ∀ path, module = some path → Name.isPath path = true) :
    (builderRef name g module).Named where
  builder := Name.isIdentifier_builder hn
  module := by
    cases module with
    | none =>
      have hmodule := Name.isIdentifier_moduleOf hn
      exact Name.isPath_join (by decide) (Name.isIdentifier_iff.mp hmodule).1
    | some path => exact hm path rfl

/-- Every container has a proper path, if the support path is one. -/
theorem named_container (hs : Name.isPath support = true) :
    ∀ t ∈ containers support, t.Named := by
  have hset : Name.isPath (supportSet support) = true := Name.isPath_join hs (by decide)
  have hbuilder : ∀ t ∈ containers support, t.builder = none := by
    simp [containers]
  have hpath : ∀ t ∈ containers support, Name.isPath t.path = true := by
    simp only [containers, List.forall_mem_cons]
    exact ⟨by decide, by decide, by decide, by decide, by decide, by decide, hset,
      fun _ h => absurd h List.not_mem_nil⟩
  intro t ht
  refine ⟨hpath t ht, fun b hb => ?_⟩
  cases (hbuilder t ht).symm.trans hb

/-- The type of a properly named class is properly named. -/
theorem named_ofClass (h : d.WellNamed) {e : ClassEntry} (he : e ∈ d.classes) :
    (ofClass e).Named where
  path := Name.isPath_join (h.packages e he) (Name.isIdentifier_iff.mp (h.classes e he)).1
  builder := by
    intro b hb
    obtain ⟨g, -, rfl⟩ := Option.map_eq_some_iff.mp hb
    refine named_builderRef (h.classes e he) fun path hm => ?_
    cases hm

/-- A properly named entry of a further type is a properly named type. -/
theorem named_ofType (h : d.WellNamed) {e : TypeEntry} (he : e ∈ d.types) :
    (ofType e).Named where
  path := by
    show Name.isPath (e.path.getD e.name) = true
    cases hp : e.path with
    | none => exact Name.isPath_of_isIdentifier (h.types e he)
    | some path => exact h.paths e he path hp
  builder := by
    intro b hb
    obtain ⟨g, -, rfl⟩ := Option.map_eq_some_iff.mp hb
    exact named_builderRef (h.types e he) (h.modules e he)

/-- A catalogue in which every name leads to an entry that is well named. -/
def Named (k : Catalogue) : Prop := ∀ name t, k.resolve name = some t → t.Named

/-- **The catalogue of a well-named descriptor** is well named. -/
theorem named_ofDescriptor (h : d.WellNamed) (hs : Name.isPath support = true) :
    (ofDescriptor d support).Named := by
  intro name t ht
  rw [resolve_ofDescriptor] at ht
  obtain ⟨o, ho, rfl⟩ := Option.map_eq_some_iff.mp ht
  have hm := mem_origins_of_origin ho
  simp only [origins, List.mem_append, List.mem_map] at hm
  rcases hm with (⟨u, hu, rfl⟩ | ⟨e, he, rfl⟩) | ⟨e, he, rfl⟩
  · exact named_container hs u hu
  · exact named_ofClass h he
  · exact named_ofType h he

/-! ## Containers -/

/-- The container of a collection stands at a path, whether it was asked for or not. -/
theorem isPath_of_supplies {shape : Option Shape} {override : Option CollectionOverride}
    {path : String} {s : Shape} {overridden : Bool} (hk : k.Named)
    (h : k.Supplies shape override path s overridden) : Name.isPath path = true := by
  cases h with
  | asked _ ht _ => exact (hk _ _ ht).path
  | usual _ _ ht => exact (hk _ _ ht).path

end Catalogue

/-! ## Categories -/

/-- What a category refers to is well formed. -/
def Category.Named : Category → Prop
  | .plain => True
  | .nested b => b.Named
  | .collection c => Name.isPath c.container.name = true ∧ c.element.badName? = none

/-- An argument of a type with proper names has proper names. -/
theorem badName?_of_argument {type element : TypeRef} {rest : List TypeRef}
    (ht : type.badName? = none) (ha : type.arguments = element :: rest) :
    element.badName? = none := by
  obtain ⟨name, arguments, nullable⟩ := type
  cases ha
  rw [TypeRef.badName?] at ht
  split at ht
  · rw [TypeRef.badNameIn?, Option.orElse_eq_none] at ht
    exact ht.1
  · cases ht

/-- **What a category refers to** is well formed, if the catalogue and the type are. -/
theorem named_of_category {category : Category} (hk : k.Named) (ht : p.type.badName? = none)
    (h : p.category className k = .ok category) : category.Named := by
  cases category with
  | plain => trivial
  | nested b =>
    obtain ⟨t, hr, hb⟩ := Option.bind_eq_some_iff.mp (category_nested_iff.mp h)
    exact (hk _ _ hr).builder b hb
  | collection c =>
    obtain ⟨-, -, hc⟩ := category_collection_iff.mp h
    obtain ⟨rest, ha⟩ := List.head?_eq_some_iff.mp hc.element
    exact ⟨Catalogue.isPath_of_supplies hk hc.supplied, badName?_of_argument ht ha⟩

end FluentBuilders
