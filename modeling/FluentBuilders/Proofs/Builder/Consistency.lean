/-
  Consistency — the parts of a builder plan fit together.

  A plan keeps its parts in lists of their own, and whoever writes it as code joins them again: by
  position, by the name of a property, by the name of a storage.  Each list is drawn from the
  parameters in order (`Plan.drawn`), so two lists that are joined by position fit if what a single
  parameter gives to one of them fits what it gives to the other.  Joining by name leads to one
  part only because no name is claimed twice (`nodup_members_iff`).
-/
import FluentBuilders.Batch.Report
import FluentBuilders.Proofs.Builder.Members

namespace FluentBuilders.Synthesis

open Batch (isInsert isScope)

variable {c : Class} {k : ClassifiedConstructor} {S : Plan}

/-! ## Lists that are drawn from one -/

section Drawn

variable {α β γ : Type} {R : β → γ → Prop} {Q : α → β → Prop}

theorem forall₂_flatMap {f : α → List β} {g : α → List γ} (h : ∀ a, List.Forall₂ R (f a) (g a)) :
    ∀ l : List α, List.Forall₂ R (l.flatMap f) (l.flatMap g)
  | [] => .nil
  | a :: l => by
    rw [List.flatMap_cons, List.flatMap_cons]
    exact List.rel_append (h a) (forall₂_flatMap h l)

/-- What elements of one kind give, one thing each, stands in their order. -/
theorem forall₂_filter_flatMap {f : α → List β} {test : α → Bool}
    (h : ∀ a, List.Forall₂ Q (if test a then [a] else []) (f a)) :
    ∀ l : List α, List.Forall₂ Q (l.filter test) (l.flatMap f)
  | [] => .nil
  | a :: l => by
    have ha := h a
    rw [List.filter_cons, List.flatMap_cons]
    split
    · rename_i ht
      rw [if_pos ht] at ha
      exact List.rel_append ha (forall₂_filter_flatMap h l)
    · rename_i ht
      rw [if_neg ht] at ha
      exact List.rel_append ha (forall₂_filter_flatMap h l)

end Drawn

/-! ## What belongs together -/

/-- Whether a parameter has nothing beside its property and its setter. -/
def isPlain (p : ClassifiedParameter) : Bool :=
  match p.category with
  | .plain => true
  | _ => false

/-- A setter is that of a property. -/
def Sets (q : Property) (s : Setter) : Prop := s.mutator = q.mutator ∧ s.type = q.type

/-- A function is the one that a parameter has because of its category. -/
def FunctionFor (p : ClassifiedParameter) : PlannedFunction → Prop
  | .nested name property builder nullable =>
    nestedName? p = some name ∧ property = p.name ∧ builder.arguments = p.type.arguments ∧
      nullable = p.type.nullable
  | .scope name property _ nullable =>
    isScoped p = true ∧ name = p.name ∧ property = p.name ∧ nullable = p.type.nullable
  | .insert name storage _ =>
    isInline p = true ∧ name = Name.insert p.name ∧ storage = Name.storage p.name

/-- A storage is that of an inline parameter. -/
def StorageFor (p : ClassifiedParameter) (s : Storage) : Prop :=
  s.name = Name.storage p.name ∧ s.property = p.name ∧ s.nullable = p.type.nullable

/-- A scope type is that of a scoped parameter. -/
def ScopeFor (p : ClassifiedParameter) (t : ScopeType) : Prop := t.name = Name.scope p.name

/-- A function adds to a storage, whose container holds just what it adds. -/
def AddsTo (f : PlannedFunction) (s : Storage) : Prop :=
  ∃ name element, f = .insert name s.name element ∧ s.container.arguments = [element]

/-- A function fills a scope type, applied to its own type parameters in order, whose container
    holds just what is added there. -/
def Fills (f : PlannedFunction) (t : ScopeType) : Prop :=
  ∃ name property scope nullable, f = .scope name property scope nullable ∧
    scope.name = t.name ∧ scope.arguments = t.typeParameters.map (fun x => { name := x.name }) ∧
    t.container.arguments = [t.element]

/-- The property that a function assigns to when it is called, with what is said of its type. -/
def assigned? : PlannedFunction → Option (String × Bool)
  | .nested _ property _ nullable | .scope _ property _ nullable => some (property, nullable)
  | .insert .. => none

/-! ## One parameter -/

variable {p : ClassifiedParameter}

/-- A parameter that is not plain has one function, made for it. -/
theorem functionFor_functionsOf (c : Class) (p : ClassifiedParameter) :
    List.Forall₂ FunctionFor (if !isPlain p then [p] else []) (functionsOf c p) := by
  cases hp : p.category with
  | plain => simp [isPlain, functionsOf, hp]
  | nested b => simp [isPlain, functionsOf, FunctionFor, nestedName?, hp]
  | collection k =>
    cases hk : k.inline with
    | true => simp [isPlain, functionsOf, FunctionFor, isInline, hp, hk]
    | false => simp [isPlain, functionsOf, FunctionFor, isScoped, hp, hk]

/-- An inline parameter, and no other, has a storage. -/
theorem storageFor_storagesOf (p : ClassifiedParameter) :
    List.Forall₂ StorageFor (if isInline p then [p] else []) (storagesOf p) := by
  cases hp : p.category with
  | plain => simp [isInline, storagesOf, hp]
  | nested b => simp [isInline, storagesOf, hp]
  | collection k => cases hk : k.inline <;> simp [isInline, storagesOf, StorageFor, hp, hk]

/-- A parameter with a scope, and no other, has a scope type. -/
theorem scopeFor_scopesOf (c : Class) (p : ClassifiedParameter) :
    List.Forall₂ ScopeFor (if isScoped p then [p] else []) (scopesOf c p) := by
  cases hp : p.category with
  | plain => simp [isScoped, scopesOf, hp]
  | nested b => simp [isScoped, scopesOf, hp]
  | collection k => cases hk : k.inline <;> simp [isScoped, scopesOf, ScopeFor, hp, hk]

/-- The inserting functions of a parameter and its storages belong together. -/
theorem addsTo_functionsOf (c : Class) (p : ClassifiedParameter) :
    List.Forall₂ AddsTo ((functionsOf c p).filter isInsert) (storagesOf p) := by
  cases hp : p.category with
  | plain => simp [functionsOf, storagesOf, hp]
  | nested b => simp [functionsOf, storagesOf, isInsert, hp]
  | collection k =>
    cases hk : k.inline with
    | true =>
      simp [functionsOf, storagesOf, isInsert, AddsTo, Collection.type, List.filter_cons, hp, hk]
    | false => simp [functionsOf, storagesOf, isInsert, hp, hk]

/-- The scope functions of a parameter and its scope types belong together. -/
theorem fills_functionsOf (c : Class) (p : ClassifiedParameter) :
    List.Forall₂ Fills ((functionsOf c p).filter isScope) (scopesOf c p) := by
  cases hp : p.category with
  | plain => simp [functionsOf, scopesOf, hp]
  | nested b => simp [functionsOf, scopesOf, isScope, hp]
  | collection k =>
    cases hk : k.inline with
    | true => simp [functionsOf, scopesOf, isScope, hp, hk]
    | false =>
      simp [functionsOf, scopesOf, isScope, Fills, Collection.type, TypeRef.applied,
        List.filter_cons, hp, hk]

/-- What a function assigns to is the property of its parameter. -/
theorem assigned_functionsOf {f : PlannedFunction} {property : String} {nullable : Bool}
    (hf : f ∈ functionsOf c p) (h : assigned? f = some (property, nullable)) :
    property = p.name ∧ nullable = p.type.nullable := by
  obtain ⟨q, hq, hfor⟩ := exists_left_of_mem (functionFor_functionsOf c p) hf
  have hqp : q = p := by
    split at hq
    · exact List.mem_singleton.mp hq
    · exact absurd hq List.not_mem_nil
  subst hqp
  cases f with
  | nested name property' builder nullable' =>
    cases h
    exact ⟨hfor.2.1, hfor.2.2.2⟩
  | scope name property' scope nullable' =>
    cases h
    exact ⟨hfor.2.2.1, hfor.2.2.2⟩
  | insert => cases h

/-- The type parameters of a scope type are those of the class that its elements mention. -/
theorem typeParameters_scopesOf {t : ScopeType} (h : t ∈ scopesOf c p) :
    t.typeParameters = c.typeParameters.filter fun x => t.element.mentions x.name := by
  rw [scopesOf] at h
  split at h
  · split at h
    · exact absurd h List.not_mem_nil
    · rw [List.mem_singleton.mp h]
      rfl
  · exact absurd h List.not_mem_nil

/-! ## The whole plan -/

/-- The plan of a builder that calls a constructor is consistent: its parts refer to one another as
    the parameters say, and to nothing that the plan does not hold. -/
structure Consistent (k : ClassifiedConstructor) (S : Plan) : Prop where
  /-- Each property has its setter, in order. -/
  setters : List.Forall₂ Sets S.properties S.setters
  /-- The constructor is passed every property, in order. -/
  arguments : S.build.arguments = S.properties.map (·.name)
  /-- A name stands for one property. -/
  properties : (S.properties.map (·.name)).Nodup
  /-- There is one function for each parameter that is not plain, in order. -/
  functions : List.Forall₂ FunctionFor (k.parameters.filter fun p => !isPlain p) S.functions
  /-- What a function assigns to is a property, and it knows whether that is nullable. -/
  assigned : ∀ f ∈ S.functions, ∀ property nullable, assigned? f = some (property, nullable) →
    ∃ q ∈ S.properties, q.name = property ∧ q.type.nullable = nullable
  /-- The functions that add an element and the storages belong to each other, in order. -/
  inserts : List.Forall₂ AddsTo (S.functions.filter isInsert) S.storages
  /-- There is one storage for each inline parameter, in order. -/
  storages : List.Forall₂ StorageFor (k.parameters.filter isInline) S.storages
  /-- What is stored is moved into a property, and the storage knows whether that is nullable. -/
  flushed : ∀ s ∈ S.storages, ∃ q ∈ S.properties, q.name = s.property ∧
    q.type.nullable = s.nullable
  /-- No two storages have one name, and no two are moved into one property. -/
  storageNames : (S.storages.map (·.name)).Nodup ∧ (S.storages.map (·.property)).Nodup
  /-- The functions that fill a scope and the scope types belong to each other, in order. -/
  fills : List.Forall₂ Fills (S.functions.filter isScope) S.scopes
  /-- There is one scope type for each scoped parameter, in order. -/
  scopes : List.Forall₂ ScopeFor (k.parameters.filter isScoped) S.scopes
  scopeNames : (S.scopes.map (·.name)).Nodup
  /-- A scope type has the type parameters of the builder that its elements mention. -/
  scopeParameters : ∀ t ∈ S.scopes,
    t.typeParameters = S.typeParameters.filter fun x => t.element.mentions x.name

/-- A parameter has a property of its name and type. -/
theorem exists_propertyOf (hp : p ∈ k.parameters) :
    ∃ q ∈ (Plan.drawn c k).properties, q.name = p.name ∧ q.type.nullable = p.type.nullable :=
  ⟨propertyOf p, List.mem_map.mpr ⟨p, hp, rfl⟩, rfl, rfl⟩

/-- **Every builder plan is consistent.** -/
theorem synthesize_consistent (c : Class) (k : ClassifiedConstructor) (S : Plan)
    (h : Plan.synthesize c k = .ok S) : Consistent k S := by
  obtain ⟨hmembers, -, rfl⟩ := Plan.synthesize_eq_ok.mp h
  have hnames := nodup_names_of_members (List.nodup_append.mp hmembers).1
  have hspaces := nodup_members_iff.mp hmembers
  have hstorages := forall₂_filter_flatMap storageFor_storagesOf k.parameters
  have hscopes := forall₂_filter_flatMap (scopeFor_scopesOf c) k.parameters
  have hstorageNames : ((Plan.drawn c k).storages.map (·.name)).Nodup := by
    have hmap : (Plan.drawn c k).storages.map (·.name)
        = (k.parameters.filter isInline).map fun p => Name.storage p.name :=
      (map_eq_map_of_forall₂ hstorages fun p s hs => hs.1.symm).symm
    rw [hmap]
    exact (hspaces .field).sublist ((List.sublist_append_right _ _).trans
      (List.sublist_append_left _ _))
  have hstored : ((Plan.drawn c k).storages.map (·.property)).Nodup := by
    have hmap : (Plan.drawn c k).storages.map (·.property)
        = (k.parameters.filter isInline).map (·.name) :=
      (map_eq_map_of_forall₂ hstorages fun p s hs => hs.2.1.symm).symm
    rw [hmap]
    exact hnames.sublist (List.filter_sublist.map _)
  have hscopeNames : ((Plan.drawn c k).scopes.map (·.name)).Nodup := by
    have hmap : (Plan.drawn c k).scopes.map (·.name)
        = (k.parameters.filter isScoped).map fun p => Name.scope p.name :=
      (map_eq_map_of_forall₂ hscopes fun p t ht => Eq.symm ht).symm
    rw [hmap]
    exact (hspaces .type).sublist (List.sublist_append_left _ _)
  refine
    { setters := ?_
      arguments := ?_
      properties := ?_
      functions := forall₂_filter_flatMap (functionFor_functionsOf c) k.parameters
      assigned := ?_
      inserts := ?_
      storages := hstorages
      flushed := ?_
      storageNames := ⟨hstorageNames, hstored⟩
      fills := ?_
      scopes := hscopes
      scopeNames := hscopeNames
      scopeParameters := ?_ }
  · refine List.forall₂_map_left_iff.mpr (List.forall₂_map_right_iff.mpr ?_)
    exact List.forall₂_same.mpr fun p _ => ⟨rfl, rfl⟩
  · show k.parameters.map (·.name) = (k.parameters.map propertyOf).map (·.name)
    rw [List.map_map]
    rfl
  · show ((k.parameters.map propertyOf).map (·.name)).Nodup
    rw [List.map_map]
    exact hnames
  · intro f hf property nullable hassigned
    obtain ⟨p, hp, hf⟩ := List.mem_flatMap.mp hf
    obtain ⟨rfl, rfl⟩ := assigned_functionsOf hf hassigned
    exact exists_propertyOf hp
  · show List.Forall₂ AddsTo ((k.parameters.flatMap (functionsOf c)).filter isInsert) _
    rw [List.filter_flatMap]
    exact forall₂_flatMap (addsTo_functionsOf c) k.parameters
  · intro s hs
    obtain ⟨p, hp, -, hproperty, hnullable⟩ := exists_left_of_mem hstorages hs
    rw [hproperty, hnullable]
    exact exists_propertyOf (List.mem_filter.mp hp).1
  · show List.Forall₂ Fills ((k.parameters.flatMap (functionsOf c)).filter isScope) _
    rw [List.filter_flatMap]
    exact forall₂_flatMap (fills_functionsOf c) k.parameters
  · intro t ht
    obtain ⟨p, -, ht⟩ := List.mem_flatMap.mp ht
    exact typeParameters_scopesOf ht

/-- A class with a type parameter. -/
def album : Class where
  name := "Album"
  package := "music"
  visibility := .pub
  modality := .concrete
  kind := .plain
  nesting := .topLevel
  displayName := none
  typeParameters := [{ name := "T" }]

/-- A list of elements, gathered in the builder or in a scope. -/
def listOf (element : TypeRef) (inline : Bool) : Category :=
  .collection { container := { name := "::std::vec::Vec" }, inline, element, shape := .list,
                overridden := false }

/-- A constructor with a parameter of each category. -/
def pressing : ClassifiedConstructor where
  function := "new"
  parameters :=
    [{ name := "title", type := { name := "String" }, category := .plain },
     { name := "artist"
       type := { name := "Artist", nullable := true }
       category := .nested
         { builder := "ArtistBuilder", module := "super::artist_builder", displayName := none } },
     { name := "tags"
       type := { name := "Vec", arguments := [{ name := "String" }] }
       category := listOf { name := "String" } true },
     { name := "tracks"
       type := { name := "Vec", arguments := [{ name := "T" }], nullable := true }
       category := listOf { name := "T" } false }]

theorem synthesize_consistent_album :
    ∃ S, Plan.synthesize album pressing = .ok S ∧
      (S.functions.map (·.name) = ["artist", "add_tags", "tracks"] ∧
        S.storages.length = 1 ∧ S.scopes.length = 1) ∧ Consistent pressing S := by
  have hS : Plan.synthesize album pressing = .ok (Plan.drawn album pressing) := by rfl
  exact ⟨_, hS, by decide, synthesize_consistent album pressing _ hS⟩

end FluentBuilders.Synthesis
