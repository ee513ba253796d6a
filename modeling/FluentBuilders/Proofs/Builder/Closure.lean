/-
  Closure — which type parameters the scope types of a builder declare.

  The code of a scope type names its elements and, with each type parameter that it declares, the
  bounds of that parameter.  So it needs the type parameters that its elements use, those that the
  bounds of these use, and so on (`Needed`), where a parameter is used by a path that begins with it
  (`K::Item`) as much as by its bare name.  What it declares is less: the parameters that its
  elements mention by name, with the bounds left out.
-/
import FluentBuilders.Proofs.Builder.Consistency

namespace FluentBuilders

open Descriptor (TypeParameter)

/-- Whether a path is a name or leads on from it. -/
def Name.begins (name path : String) : Bool :=
  path == name || (!(split path).1 && (split path).2.head? == some name)

namespace TypeRef

variable {name : String}

mutual

/-- Whether a type is written with a name at any depth, alone or in front of a path. -/
def uses (name : String) : TypeRef → Bool
  | ⟨n, arguments, _⟩ => Name.begins name n || usesAny name arguments

/-- Whether one of several types is written with a name. -/
def usesAny (name : String) : List TypeRef → Bool
  | [] => false
  | t :: ts => uses name t || usesAny name ts

end

mutual

/-- A type that mentions a name is written with it. -/
theorem uses_of_mentions : ∀ t : TypeRef, t.mentions name = true → t.uses name = true
  | ⟨n, arguments, _⟩, h => by
    rw [mentions, Bool.or_eq_true] at h
    rw [uses, Bool.or_eq_true]
    rcases h with hn | ha
    · refine .inl ?_
      rw [Name.begins, hn, Bool.true_or]
    · exact .inr (usesAny_of_mentionsAny arguments ha)

theorem usesAny_of_mentionsAny :
    ∀ ts : List TypeRef, mentionsAny name ts = true → usesAny name ts = true
  | [], h => by cases h
  | t :: ts, h => by
    rw [mentionsAny, Bool.or_eq_true] at h
    rw [usesAny, Bool.or_eq_true]
    exact h.imp (uses_of_mentions t) (usesAny_of_mentionsAny ts)

end

end TypeRef

namespace Synthesis

variable {c : Class} {k : ClassifiedConstructor} {S : Plan} {t : ScopeType}

/-- A type parameter is used in the bounds of another. -/
def Bounds (x y : TypeParameter) : Prop := ∃ b ∈ x.bounds, b.uses y.name = true

/-- The type parameters of a class without which elements of a type cannot be written in a scope
    type of their own. -/
inductive Needed (c : Class) (element : TypeRef) : TypeParameter → Prop
  | element {x : TypeParameter} (hx : x ∈ c.typeParameters) (h : element.uses x.name = true) :
    Needed c element x
  | bound {x y : TypeParameter} (hx : Needed c element x) (hy : y ∈ c.typeParameters)
    (h : Bounds x y) : Needed c element y

/-- A scope type declares all type parameters of the class that its code uses. -/
structure Closed (c : Class) (t : ScopeType) : Prop where
  element : ∀ x ∈ c.typeParameters, t.element.uses x.name = true → x ∈ t.typeParameters
  bounds : ∀ x ∈ t.typeParameters, ∀ y ∈ c.typeParameters, Bounds x y → y ∈ t.typeParameters

/-- What a scope needs are parameters of the class. -/
theorem mem_of_needed {element : TypeRef} {x : TypeParameter} (h : Needed c element x) :
    x ∈ c.typeParameters := by
  cases h with
  | element hx => exact hx
  | bound _ hy => exact hy

/-- What a closed scope type declares includes everything that its elements need. -/
theorem Closed.mem_of_needed (ht : Closed c t) {x : TypeParameter} (h : Needed c t.element x) :
    x ∈ t.typeParameters := by
  induction h with
  | element hx hu => exact ht.element _ hx hu
  | bound _ hy hb ih => exact ht.bounds _ ih _ hy hb

/-- A scope type that declares what its elements need, and no more, is closed. -/
theorem closed_of_needed (h : ∀ x, x ∈ t.typeParameters ↔ Needed c t.element x) : Closed c t where
  element _ hx hu := (h _).mpr (.element hx hu)
  bounds _ hx _ hy hb := (h _).mpr (.bound ((h _).mp hx) hy hb)

/-- A scope has the parameters of the class that its element mentions, in their order. -/
theorem typeParameters_of_mem_scopes (h : Plan.synthesize c k = .ok S) (ht : t ∈ S.scopes) :
    t.typeParameters = c.typeParameters.filter fun x => t.element.mentions x.name := by
  obtain ⟨-, -, rfl⟩ := Plan.synthesize_eq_ok.mp h
  obtain ⟨p, -, htp⟩ := List.mem_flatMap.mp ht
  exact typeParameters_scopesOf htp

/-- **The type parameters of a scope type.**  They are type parameters of the class in its order,
    none is declared without need, and none is missing exactly if all that are needed, for the
    elements or for a bound, are mentioned by the elements themselves. -/
theorem scope_closed_iff (h : Plan.synthesize c k = .ok S) (ht : t ∈ S.scopes) :
    t.typeParameters.Sublist c.typeParameters ∧
      (∀ x ∈ t.typeParameters, Needed c t.element x) ∧
      (Closed c t ↔ ∀ x, Needed c t.element x → t.element.mentions x.name = true) := by
  have heq := typeParameters_of_mem_scopes h ht
  have hmem : ∀ x, x ∈ t.typeParameters ↔
      x ∈ c.typeParameters ∧ t.element.mentions x.name = true := by
    intro x
    rw [heq, List.mem_filter]
  have hneeded : ∀ x ∈ t.typeParameters, Needed c t.element x := by
    intro x hx
    obtain ⟨hxc, hm⟩ := (hmem x).mp hx
    exact .element hxc (TypeRef.uses_of_mentions t.element hm)
  refine ⟨?_, hneeded, ?_, ?_⟩
  · rw [heq]
    exact List.filter_sublist
  · intro hc x hx
    exact ((hmem x).mp (hc.mem_of_needed hx)).2
  · intro hall
    refine closed_of_needed fun x => ⟨hneeded x, fun hx => ?_⟩
    exact (hmem x).mpr ⟨mem_of_needed hx, hall x hx⟩

/-- A class with a type parameter that the bound of another uses. -/
def table : Class where
  name := "Table"
  package := "m"
  visibility := .pub
  modality := .concrete
  kind := .plain
  nesting := .topLevel
  displayName := none
  typeParameters :=
    [{ name := "K", bounds := [{ name := "Iterator" }] },
     { name := "V", bounds := [{ name := "Into", arguments := [{ name := "K" }] }] }]

/-- A parameter for a list whose elements are added in a scope. -/
def listed (name : String) (element : TypeRef) : ClassifiedParameter where
  name := name
  type := { name := "Vec", arguments := [element] }
  category := listOf element false

/-- Lists of elements of three kinds: of both type parameters, of one, and of a type that goes with
    the other. -/
def filling : ClassifiedConstructor where
  function := "new"
  parameters :=
    [listed "cells" { name := "Cell", arguments := [{ name := "K" }, { name := "V" }] },
     listed "rows" { name := "V" },
     listed "items" { name := "K::Item" }]

theorem synthesize_table : Plan.synthesize table filling = .ok (Plan.drawn table filling) := by rfl

theorem scope_closed_iff_cells :
    ∃ S, Plan.synthesize table filling = .ok S ∧ ∃ t ∈ S.scopes, t.name = "CellsCollection" ∧
      t.typeParameters.map (·.name) = ["K", "V"] ∧ Closed table t := by
  have hcells := List.mem_of_getElem? (l := (Plan.drawn table filling).scopes) (i := 0) rfl
  obtain ⟨-, -, hclosed⟩ := scope_closed_iff synthesize_table hcells
  refine ⟨_, synthesize_table, _, hcells, rfl, rfl, hclosed.mpr ?_⟩
  intro x hx
  rcases List.mem_cons.mp (mem_of_needed hx) with rfl | hx
  · rfl
  · rw [List.mem_singleton.mp hx]
    rfl

/-- **Scope types that are not closed**: one misses a type parameter in the bound of another, one
    the type parameter that the path of its elements begins with. -/
theorem rows_items_unclosed :
    ∃ S, Plan.synthesize table filling = .ok S ∧ (table.typeParameters.map (·.name)).Nodup ∧
      (∃ t ∈ S.scopes, t.name = "RowsCollection" ∧ t.typeParameters.map (·.name) = ["V"] ∧
        ¬ Closed table t) ∧
      (∃ t ∈ S.scopes, t.name = "ItemsCollection" ∧ t.typeParameters.map (·.name) = [] ∧
        ¬ Closed table t) := by
  have hrows := List.mem_of_getElem? (l := (Plan.drawn table filling).scopes) (i := 1) rfl
  have hitems := List.mem_of_getElem? (l := (Plan.drawn table filling).scopes) (i := 2) rfl
  refine ⟨_, synthesize_table, by decide, ⟨_, hrows, rfl, rfl, ?_⟩, ⟨_, hitems, rfl, rfl, ?_⟩⟩
  · intro hclosed
    have hmem := hclosed.bounds _ List.mem_cons_self _ List.mem_cons_self
      ⟨_, List.mem_singleton.mpr rfl, by decide⟩
    have hname : "K" ∈ ["V"] := List.mem_map_of_mem (f := TypeParameter.name) hmem
    exact absurd hname (by decide)
  · intro hclosed
    have hmem := hclosed.element _ List.mem_cons_self (by decide)
    exact absurd hmem List.not_mem_nil

end Synthesis

end FluentBuilders
