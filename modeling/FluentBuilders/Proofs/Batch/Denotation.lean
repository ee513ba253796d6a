/-
  Denotation — which builder a nested function runs.

  The code of a builder calls other builders by their bare names.  Such a name is right if it is
  imported from the module that the catalogue gives, and from no other; or if it is the name of the
  planned builder itself, and that is the one that is meant (`Denotes`).

  Imports are kept apart by their whole paths and the planned builder is told by its name alone, so
  a bare name may go astray (`Astray`).  As long as every builder is in the module that is made of
  its name, paths and names come to the same; so it takes a further type that puts its builder
  somewhere else (`Ordinary`).
-/
import FluentBuilders.Proofs.Batch.Names
import FluentBuilders.Proofs.Batch.References
import FluentBuilders.Proofs.Name.Segments

namespace FluentBuilders

/-- Where a builder is imported from. -/
def BuilderRef.path (b : BuilderRef) : String := Name.join b.module b.builder

/-- A builder is in the module that is made of its name, beside the others. -/
def BuilderRef.IsBeside (b : BuilderRef) : Prop :=
  b.module = Name.join "super" (Name.moduleOf b.builder)

instance (b : BuilderRef) : Decidable b.IsBeside := inferInstanceAs (Decidable (_ = _))

/-- In the module of a plan, the bare name of a builder stands for that builder and nothing else. -/
def Denotes (S : Plan) (b : BuilderRef) : Prop :=
  (b.builder = S.builder ∧ b.module = Name.join "super" S.module) ∨
    (b.path ∈ S.imports ∧ b.builder ≠ S.builder ∧
      ∀ path ∈ S.imports.tail, Name.lastSegment path = b.builder → path = b.path)

namespace Batch

open Descriptor (ClassEntry Generate TypeEntry)

variable {d : Descriptor} {s : Selection} {support name className : String} {e : ClassEntry}
  {S : Plan} {k : Catalogue} {p : Parameter} {b : BuilderRef}

/-! ## Ends of paths -/

theorem endsWith_iff {text ending : String} :
    endsWith text ending = true ↔ ending.toList <:+ text.toList :=
  List.isSuffixOf_iff_suffix

theorem endsWith_join (parent child : String) : endsWith (Name.join parent child) child = true := by
  rw [endsWith_iff, Name.join, String.toList_append]
  exact List.suffix_append _ _

/-- The import that opens a package does not end like a builder. -/
theorem not_endsWith_glob {package className : String} :
    endsWith (Name.join package "*") (Name.builder className) ≠ true := by
  intro h
  obtain ⟨front, hf⟩ := endsWith_iff.mp h
  have hlast := congrArg List.getLast? hf
  simp [Name.join, Name.builder, List.getLast?_append, List.getLast?_cons] at hlast

/-! ## The builders that a class refers to -/

/-- The builders of the types of the parameters of a class. -/
def nestedRefs (k : Catalogue) (e : ClassEntry) : List BuilderRef :=
  (parametersOf e).filterMap fun p => k.builderOf p.type.name

/-- The builders that a class may refer to are those of the types of its parameters. -/
theorem mem_nestedRefs :
    b ∈ nestedRefs k e ↔ ∃ p ∈ parametersOf e, k.builderOf p.type.name = some b :=
  List.mem_filterMap

/-- The builders of the marked classes of a descriptor, whether or not they are accepted. -/
def classRefs (d : Descriptor) : List BuilderRef :=
  d.classes.filterMap fun e => (Catalogue.ofClass e).builder

/-- The builders of the marked further types of a descriptor. -/
def typeRefs (d : Descriptor) : List BuilderRef :=
  d.types.filterMap fun t => (Catalogue.ofType t).builder

/-- What a mark gives: a builder that is called after what is marked, in the given module or else
    beside the others. -/
theorem builder_of_mark {mark : Option Generate} {module : Option String}
    (h : mark.map (fun g => Catalogue.builderRef name g module) = some b) :
    b.builder = Name.builder name ∧ (module = none → b.IsBeside) := by
  obtain ⟨g, -, rfl⟩ := Option.map_eq_some_iff.mp h
  refine ⟨rfl, ?_⟩
  rintro rfl
  rfl

/-- The builder of a class stands beside the others. -/
theorem isBeside_of_mem_classRefs (h : b ∈ classRefs d) : b.IsBeside := by
  obtain ⟨e, -, hb⟩ := List.mem_filterMap.mp h
  exact (builder_of_mark hb).2 rfl

/-- All builders are called after a class or a further type. -/
theorem exists_builder_eq (h : b ∈ typeRefs d ∨ b ∈ classRefs d) :
    ∃ n, b.builder = Name.builder n := by
  rcases h with h | h
  · obtain ⟨t, -, hb⟩ := List.mem_filterMap.mp h
    exact ⟨t.name, (builder_of_mark hb).1⟩
  · obtain ⟨e, -, hb⟩ := List.mem_filterMap.mp h
    exact ⟨e.name, (builder_of_mark hb).1⟩

/-- **Whose a builder of the catalogue is**: that of a further type, or that of a class, whose name
    has been looked at. -/
theorem owner_of_builderOf (h : (finalCatalogue d s support).builderOf name = some b) :
    b ∈ typeRefs d ∨ (b ∈ classRefs d ∧ Name.isIdentifier b.builder = true) := by
  have hknown := h
  rw [finalCatalogue, builderOf_ofDescriptor] at hknown
  rcases origin_of_builderOf h with ⟨t, ht, -, ho, -⟩ | ⟨e, T, hT, ho, hb, -⟩
  · rw [ho] at hknown
    exact .inl (List.mem_filterMap.mpr ⟨t, ht, hknown⟩)
  · rw [ho] at hknown
    have hdeclared := (declared_of_process (process_of_accepted hT.accepted)).1
    refine .inr ⟨List.mem_filterMap.mpr ⟨e, hT.declared, hknown⟩, ?_⟩
    rw [hb]
    exact hdeclared T.builder List.mem_cons_self

/-- The import that opens the package is the only one that does not end like a builder. -/
theorem mem_tail_of_endsWith (h : Accepted d s support e S) {path builder : String}
    (hn : ∃ n, builder = Name.builder n) (hi : path ∈ S.imports)
    (he : endsWith path builder = true) : path ∈ S.imports.tail := by
  obtain ⟨n, rfl⟩ := hn
  obtain ⟨rest, hr, -⟩ := imports_eq (process_of_accepted h)
  rw [hr] at hi ⊢
  rcases List.mem_cons.mp hi with rfl | hi
  · exact absurd he not_endsWith_glob
  · exact hi

/-- **What a plan imports** behind its package: the builders that it refers to, but for its own. -/
theorem mem_tail_imports (h : Accepted d s support e S) {path : String} :
    path ∈ S.imports.tail ↔ ∃ b ∈ nestedRefs (finalCatalogue d s support) e,
      b.builder ≠ S.builder ∧ path = b.path := by
  have hS := process_of_accepted h
  constructor
  · intro hp
    obtain ⟨rest, hr, hm⟩ := imports_eq hS
    rw [hr] at hp
    obtain ⟨p, hp, b, hb, hne, hpath⟩ := hm path hp
    exact ⟨b, mem_nestedRefs.mpr ⟨p, hp, hb⟩, hne, hpath⟩
  · rintro ⟨b, hb, hne, rfl⟩
    obtain ⟨p, hp, hb⟩ := mem_nestedRefs.mp hb
    have hn := exists_builder_eq ((owner_of_builderOf hb).imp_right And.left)
    exact mem_tail_of_endsWith h hn (import_mem hS hp hb hne) (endsWith_join _ _)

/-! ## Names that go astray -/

/-- The bare name of a builder stands for another one, or for several. -/
inductive Astray (k : Catalogue) (e : ClassEntry) (S : Plan) (b : BuilderRef) : Prop
  /-- It is the name of the planned builder, which is not the one that is meant. -/
  | own (hb : b.builder = S.builder) (hm : b.module ≠ Name.join "super" S.module)
  /-- It is the last segment of another import as well. -/
  | homonym {b' : BuilderRef} (hb : b.builder ≠ S.builder) (h : b' ∈ nestedRefs k e)
    (hb' : b'.builder ≠ S.builder) (hl : Name.lastSegment b'.path = b.builder)
    (hp : b'.path ≠ b.path)

/-- The builders of all further types have proper names and are beside those of the classes. -/
def Ordinary (d : Descriptor) : Prop :=
  ∀ b ∈ typeRefs d, Name.isIdentifier b.builder = true ∧ b.IsBeside

/-- In an ordinary descriptor every builder that is found is beside the others, and properly
    named. -/
theorem isBeside_of_ordinary (ho : Ordinary d)
    (h : (finalCatalogue d s support).builderOf name = some b) :
    Name.isIdentifier b.builder = true ∧ b.IsBeside := by
  rcases owner_of_builderOf h with hb | ⟨hb, hident⟩
  · exact ho b hb
  · exact ⟨hident, isBeside_of_mem_classRefs hb⟩

/-- In an ordinary descriptor no name goes astray. -/
theorem not_astray_of_ordinary (ho : Ordinary d) (h : Accepted d s support e S)
    (hb : b ∈ nestedRefs (finalCatalogue d s support) e) :
    ¬ Astray (finalCatalogue d s support) e S b := by
  obtain ⟨p, -, hbp⟩ := mem_nestedRefs.mp hb
  obtain ⟨-, hbeside⟩ := isBeside_of_ordinary ho hbp
  obtain ⟨-, -, -, hmod⟩ := process_names (process_of_accepted h)
  rintro (⟨hown, hm⟩ | ⟨-, hb', -, hl, hpath⟩)
  · rw [hbeside, hown, ← hmod] at hm
    exact hm rfl
  · obtain ⟨p', -, hbp'⟩ := mem_nestedRefs.mp hb'
    obtain ⟨hident, hbeside'⟩ := isBeside_of_ordinary ho hbp'
    rw [BuilderRef.path, Name.lastSegment_join (Name.not_mem_of_isIdentifier hident)] at hl
    rw [BuilderRef.path, BuilderRef.path, hbeside, hbeside', hl] at hpath
    exact hpath rfl

/-- A reference denotes its builder unless the name goes astray. -/
theorem denotes_iff_not_astray (h : Accepted d s support e S)
    (hb : b ∈ nestedRefs (finalCatalogue d s support) e) :
    Denotes S b ↔ ¬ Astray (finalCatalogue d s support) e S b := by
  constructor
  · rintro (⟨hown, hm⟩ | ⟨-, hne, honly⟩) hastray
    · cases hastray with
      | own _ hm' => exact hm' hm
      | homonym hne => exact hne hown
    · cases hastray with
      | own hown _ => exact hne hown
      | homonym _ hb' hne' hl hpath =>
        exact hpath (honly _ ((mem_tail_imports h).mpr ⟨_, hb', hne', rfl⟩) hl)
  · intro hno
    by_cases hown : b.builder = S.builder
    · refine .inl ⟨hown, ?_⟩
      by_contra hm
      exact hno (.own hown hm)
    · have hmem : b.path ∈ S.imports.tail := (mem_tail_imports h).mpr ⟨b, hb, hown, rfl⟩
      refine .inr ⟨List.mem_of_mem_tail hmem, hown, fun path hpath hl => ?_⟩
      -- an import that ends with the name was asked for by a parameter
      obtain ⟨b', hb', hne', rfl⟩ := (mem_tail_imports h).mp hpath
      by_contra hp
      exact hno (.homonym hown hb' hne' hl hp)

/-- **Which builder a nested function runs.**  The bare name of the builder of a nested parameter
    stands for that builder and nothing else, unless it is the name of the planned builder while
    another one is meant, or another import ends with it; and neither is so as long as the builders
    of all further types are ordinary. -/
theorem nested_denotes_iff (d : Descriptor) (s : Selection) (support : String) (e : ClassEntry)
    (S : Plan) (h : Accepted d s support e S) (p : Parameter) (hp : p ∈ parametersOf e)
    (b : BuilderRef) (hb : p.category e.name (finalCatalogue d s support) = .ok (.nested b)) :
    (Denotes S b ↔ ¬ Astray (finalCatalogue d s support) e S b) ∧
      (Ordinary d → Denotes S b) := by
  have hmem : b ∈ nestedRefs (finalCatalogue d s support) e :=
    mem_nestedRefs.mpr ⟨p, hp, category_nested_iff.mp hb⟩
  have hiff := denotes_iff_not_astray h hmem
  refine ⟨hiff, fun ho => ?_⟩
  exact hiff.mpr (not_astray_of_ordinary ho h hmem)

/-- A type that a library builds in a module of its own. -/
def guest (name : String) : TypeEntry where
  name := name
  path := some (Name.join "ext" name)
  generate := some {}
  builderModule := some "ext::builders"

/-- The builder of such a type. -/
def guestRef (name : String) : BuilderRef where
  builder := Name.builder name
  module := "ext::builders"
  displayName := none

/-- A class that refers to itself, to another class and to a type of a library. -/
def host : ClassEntry := smallClass "A" "m" "" .final [("a", "A"), ("b", "B"), ("t", "ext::T")]

def hosting : Descriptor where
  version := 1
  classes := [host, smallClass "B" "m" "" .final []]
  types := [guest "T"]

theorem nested_denotes_iff_hosting :
    ∃ S, Accepted hosting {} "s" host S ∧ nestedBuilders S = ["ABuilder", "BBuilder", "TBuilder"] ∧
      Denotes S (guestRef "T") := by
  obtain ⟨S, hA, hS⟩ : ∃ S, Accepted hosting {} "s" host S ∧
      decide (nestedBuilders S = ["ABuilder", "BBuilder", "TBuilder"]) = true :=
    exists_accepted 0 _ rfl (by decide +kernel)
  have hrefs : nestedRefs (finalCatalogue hosting {} "s") host =
      [{ builder := "ABuilder", module := "super::abuilder", displayName := none },
       { builder := "BBuilder", module := "super::bbuilder", displayName := none },
       guestRef "T"] := by decide +kernel
  have ht : (finalCatalogue hosting {} "s").builderOf "ext::T" = some (guestRef "T") := by
    decide +kernel
  have hno : ¬ Astray (finalCatalogue hosting {} "s") host S (guestRef "T") := by
    rintro (⟨hb, -⟩ | ⟨-, hb', -, hl, hp⟩)
    · rw [(process_names (process_of_accepted hA)).1] at hb
      exact absurd hb (by decide)
    · rw [hrefs] at hb'
      simp only [List.mem_cons, List.not_mem_nil, or_false] at hb'
      rcases hb' with rfl | rfl | rfl
      · exact absurd hl (by decide)
      · exact absurd hl (by decide)
      · exact hp rfl
  obtain ⟨hiff, -⟩ := nested_denotes_iff hosting {} "s" host S hA
    { name := "t", type := { name := "ext::T" }, override := none }
    (List.mem_of_getElem? (i := 2) rfl) (guestRef "T") (category_nested_iff.mpr ht)
  exact ⟨S, hA, of_decide_eq_true hS, hiff.mpr hno⟩

/-- A class with a parameter whose type has the same name and is built elsewhere. -/
def namesake : ClassEntry := smallClass "A" "m" "" .final [("a", "ext::A")]

def namesakes : Descriptor where
  version := 1
  classes := [namesake]
  types := [guest "A"]

/-- **A nested function that runs the wrong builder**: what is not imported, because it has the name
    of the planned builder, cannot be told from that one. -/
theorem namesake_runs_itself :
    ∃ S p b, Accepted namesakes {} "s" namesake S ∧ p ∈ parametersOf namesake ∧
      p.category namesake.name (finalCatalogue namesakes {} "s") = .ok (.nested b) ∧
      b.path = "ext::builders::ABuilder" ∧ nestedBuilders S = [S.builder] ∧
      b.path ∉ S.imports ∧ ¬ Denotes S b := by
  obtain ⟨S, hA, hS⟩ : ∃ S, Accepted namesakes {} "s" namesake S ∧
      decide (nestedBuilders S = ["ABuilder"] ∧ S.imports = ["m::*"]) = true :=
    exists_accepted 0 _ rfl (by decide +kernel)
  obtain ⟨hnested, himports⟩ := of_decide_eq_true hS
  have hown : S.builder = "ABuilder" := (process_names (process_of_accepted hA)).1
  have hmod : S.module = "abuilder" := by
    rw [(process_names (process_of_accepted hA)).2.2.2, hown]
    decide
  have hb : (finalCatalogue namesakes {} "s").builderOf "ext::A" = some (guestRef "A") := by
    decide +kernel
  have himport : (guestRef "A").path ∉ S.imports := by
    rw [himports]
    decide
  refine ⟨S, _, guestRef "A", hA, List.mem_singleton.mpr rfl, category_nested_iff.mpr hb, by decide,
    by rw [hnested, hown], himport, ?_⟩
  rintro (⟨-, hm⟩ | ⟨hi, -⟩)
  · rw [hmod] at hm
    exact absurd hm (by decide)
  · exact himport hi

end Batch

end FluentBuilders
