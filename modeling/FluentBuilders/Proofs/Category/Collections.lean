/-
  Collections — what becomes of a directive, and what a collection is gathered in.

  A directive asks for a collection, and may name the container.  If the type of the parameter has
  no builder, the directive is followed or the class is rejected; a builder goes first, whatever the
  directive says (`override_honoured_iff`).

  A container that a directive names is looked at before it is used, a default one is not.  The path
  of a default container can be declared again by the descriptor, and then its values can be made
  only if what is declared there says so (`container_instantiable_iff`).
-/
import FluentBuilders.Proofs.Category.Rules

namespace FluentBuilders

open Descriptor (CollectionOverride TypeEntry)

variable {k : Catalogue} {p : Parameter} {o : CollectionOverride} {category : Category}
  {className support : String} {c : Constructor} {kc : ClassifiedConstructor} {g : Collection}
  {d : Descriptor}

/-! ## Directives -/

/-- A collection is what a directive on a parameter asks for. -/
structure Follows (k : Catalogue) (p : Parameter) (o : CollectionOverride) (g : Collection) :
    Prop where
  inline : g.inline = o.inline
  element : p.type.arguments.head? = some g.element
  /-- A container that is named is the one used, and values of it can be made. -/
  container : ∀ wanted, o.concreteType = some wanted → g.overridden = true ∧
    ∃ t, k.resolve wanted = some t ∧ t.isInstantiable = true ∧ g.container = { name := t.path }

/-- A category honours a directive if it is a collection as the directive asks for. -/
def Category.Honours (category : Category) (k : Catalogue) (p : Parameter)
    (o : CollectionOverride) : Prop :=
  ∃ g, category = .collection g ∧ Follows k p o g

/-- A container that a directive names is the one supplied. -/
theorem Catalogue.Supplies.named {shape : Option Shape} {override : Option CollectionOverride}
    {path wanted : String} {s : Shape} {overridden : Bool}
    (h : k.Supplies shape override path s overridden)
    (hw : override.bind (·.concreteType) = some wanted) :
    overridden = true ∧ ∃ t, k.resolve wanted = some t ∧ t.isInstantiable = true ∧
      path = t.path := by
  cases h with
  | asked hw' hr hi =>
    cases hw.symm.trans hw'
    exact ⟨rfl, _, hr, hi, rfl⟩
  | usual hw' _ _ => cases hw.symm.trans hw'

/-- A collection that is gathered for a parameter follows its directive. -/
theorem Gathers.follows {shape : Option Shape} (h : Gathers k p shape g)
    (ho : p.override = some o) : Follows k p o g where
  inline := by rw [h.inline, ho]; rfl
  element := h.element
  container := by
    intro wanted hw
    have hasked : p.override.bind (·.concreteType) = some wanted := by
      rw [ho]
      exact hw
    obtain ⟨hoverridden, t, hr, hi, hpath⟩ := h.supplied.named hasked
    exact ⟨hoverridden, t, hr, hi, hpath ▸ h.container⟩

/-- **When an override is honoured**: unless the type has a builder, which is asked for first. -/
theorem honours_iff (h : p.category className k = .ok category) (ho : p.override = some o) :
    category.Honours k p o ↔ k.builderOf p.type.name = none := by
  constructor
  · rintro ⟨g, rfl, -⟩
    exact (category_collection_iff.mp h).1
  · intro hb
    cases category with
    | plain => cases ho.symm.trans (category_plain_iff.mp h).2.2
    | nested b => cases hb.symm.trans (category_nested_iff.mp h)
    | collection g => exact ⟨g, rfl, (category_collection_iff.mp h).2.2.follows ho⟩

/-- **What becomes of a directive**, if the constructor is accepted: its parameter is never plain,
    and the directive is honoured exactly if the type of the parameter has no builder; one that has
    is filled by that builder. -/
theorem override_honoured_iff (h : c.classify className k = .ok kc) :
    List.Forall₂ (fun p q => q.name = p.name ∧ q.type = p.type ∧
      ∀ o, p.override = some o →
        q.category ≠ .plain ∧
        (q.category.Honours k p o ↔ k.builderOf p.type.name = none) ∧
        ∀ b, k.builderOf p.type.name = some b → q.category = .nested b)
      c.parameters kc.parameters := by
  refine (constructor_classify_eq_ok h).2.imp fun p q hq => ?_
  obtain ⟨hn, ht, hc⟩ := classify_eq_ok_iff.mp hq
  refine ⟨hn, ht, fun o ho => ?_⟩
  refine ⟨fun hplain => ?_, honours_iff hc ho, fun b hb => ?_⟩
  · rw [hplain] at hc
    cases ho.symm.trans (category_plain_iff.mp hc).2.2
  · exact Except.ok.inj (hc.symm.trans (category_nested_iff.mpr hb))

/-- A constructor with one parameter, of a container type with one argument. -/
def filling (container : String) (o : Option CollectionOverride) : Constructor where
  function := "new"
  visibility := .pub
  canonical := false
  parameters := [{ name := "xs", type := .applied container ["u8"], override := o }]

/-- A descriptor that only names further types. -/
def naming (types : List TypeEntry) : Descriptor where
  version := Descriptor.currentVersion
  types := types

/-- A bag is no container, but a directive makes it one. -/
theorem override_honoured_iff_bag :
    ∃ kc, (filling "Bag" (some { concreteType := some "Vec", inline := true })).classify "A"
        (.ofDescriptor (naming []) "support") = .ok kc ∧
      ∀ q ∈ kc.parameters, ∃ g, q.category = .collection g ∧ g.inline = true ∧
        g.overridden = true := by
  have hclassify : (filling "Bag" (some { concreteType := some "Vec", inline := true })).classify
      "A" (.ofDescriptor (naming []) "support") = .ok _ := rfl
  refine ⟨_, hclassify, ?_⟩
  intro q hq
  obtain ⟨p, hp, -, -, hdirected⟩ := exists_left_of_mem (override_honoured_iff hclassify) hq
  cases List.mem_singleton.mp hp
  obtain ⟨-, hhonoured, -⟩ := hdirected _ rfl
  obtain ⟨g, hg, hfollows⟩ := hhonoured.mpr rfl
  exact ⟨g, hg, hfollows.inline, (hfollows.container _ rfl).1⟩

/-- **A directive is ignored** where the type of its parameter has a builder. -/
theorem override_ignored :
    ∃ (d : Descriptor) (k : Catalogue) (c : Constructor) (kc : ClassifiedConstructor),
      k = .ofDescriptor d "support" ∧ c.classify "A" k = .ok kc ∧
      ∃ p ∈ c.parameters, ∃ o, p.override = some o ∧ ∃ q ∈ kc.parameters,
        q.name = p.name ∧ (∃ b, q.category = .nested b) ∧ ¬ q.category.Honours k p o := by
  refine ⟨naming [{ name := "Bag", path := some "ext::Bag", generate := some {} }], _,
    filling "ext::Bag" (some { concreteType := some "Vec" }), _, rfl, rfl, _,
    List.mem_singleton.mpr rfl, _, rfl, _, List.mem_singleton.mpr rfl, rfl, ⟨_, rfl⟩, ?_⟩
  rintro ⟨g, hg, -⟩
  cases hg

/-! ## Containers -/

/-- A descriptor declares something at a path, last of all, of which no values can be made. -/
def Spoiled (d : Descriptor) (path : String) : Prop :=
  ∃ t, Catalogue.redeclared d path = some t ∧ t.isInstantiable = false

/-- What can be instantiated is a plain and concrete type. -/
theorem isInstantiable_iff {t : KnownType} :
    t.isInstantiable = true ↔ t.kind = .plain ∧ t.modality = .concrete := by
  rw [KnownType.isInstantiable, Bool.and_eq_true, beq_iff_eq, beq_iff_eq]

/-- What stands at the path of a default container can be made unless it is spoiled. -/
theorem isInstantiable_default (d : Descriptor) (support : String) (s : Shape) :
    ((Catalogue.redeclared d (Catalogue.defaultPath support s)).getD
        (Catalogue.builtin support s)).isInstantiable = true ↔
      ¬ Spoiled d (Catalogue.defaultPath support s) := by
  rw [Spoiled]
  cases Catalogue.redeclared d (Catalogue.defaultPath support s) with
  | none =>
    refine iff_of_true (by cases s <;> rfl) ?_
    rintro ⟨t, ht, -⟩
    cases ht
  | some t => simp

/-- What a catalogue supplies stands in it at its own path. -/
theorem Catalogue.Supplies.stands {shape : Option Shape} {override : Option CollectionOverride}
    {path : String} {s : Shape} {overridden : Bool}
    (h : (ofDescriptor d support).Supplies shape override path s overridden) :
    ∃ t, (ofDescriptor d support).types.find? (·.path == path) = some t ∧
      (overridden = false → path = defaultPath support s) ∧
      (t.isInstantiable = true ↔ overridden = true ∨ ¬ Spoiled d (defaultPath support s)) := by
  cases h with
  | asked _ hr hi =>
    refine ⟨_, find?_path_of_resolve hr, fun h => ?_, iff_of_true hi (.inl rfl)⟩
    cases h
  | usual _ _ hr =>
    have hd := find?_defaultPath d support s
    have ht := (resolve_of_find? hd).symm.trans hr
    cases ht
    rw [path_of_find? hd]
    refine ⟨_, hd, fun _ => rfl, ?_⟩
    rw [isInstantiable_default, or_iff_right Bool.false_ne_true]

/-- **What a collection is gathered in** stands in the catalogue, and is the default of its shape
    unless it was asked for.  Values of it can be made exactly if it was asked for, or if the
    descriptor has not declared the default path again as something else. -/
theorem container_instantiable_iff (h : c.classify className (.ofDescriptor d support) = .ok kc)
    {q : ClassifiedParameter} (hq : q ∈ kc.parameters) (hg : q.category = .collection g) :
    ∃ t, (Catalogue.ofDescriptor d support).types.find? (·.path == g.container.name) = some t ∧
      (g.overridden = false → g.container.name = Catalogue.defaultPath support g.shape) ∧
      ((t.kind = .plain ∧ t.modality = .concrete) ↔
        g.overridden = true ∨ ¬ Spoiled d (Catalogue.defaultPath support g.shape)) := by
  obtain ⟨p, -, hpq⟩ := exists_left_of_mem (constructor_classify_eq_ok h).2 hq
  have hc := (classify_eq_ok_iff.mp hpq).2.2
  rw [hg] at hc
  obtain ⟨t, ht, hpath, hi⟩ := (category_collection_iff.mp hc).2.2.supplied.stands
  exact ⟨t, ht, hpath, isInstantiable_iff.symm.trans hi⟩

/-- Nothing is declared at the default path, so values of the container can be made. -/
theorem container_instantiable_iff_deque :
    ∃ kc, (filling "VecDeque" none).classify "A" (.ofDescriptor (naming []) "support") = .ok kc ∧
      ∀ q ∈ kc.parameters, ∃ g, q.category = .collection g ∧
        ∃ t, (Catalogue.ofDescriptor (naming []) "support").types.find?
            (·.path == g.container.name) = some t ∧
          t.path = "::std::vec::Vec" ∧ t.kind = .plain ∧ t.modality = .concrete := by
  have hclassify : (filling "VecDeque" none).classify "A" (.ofDescriptor (naming []) "support")
      = .ok _ := rfl
  refine ⟨_, hclassify, fun q hq => ?_⟩
  cases List.mem_singleton.mp hq
  refine ⟨_, rfl, ?_⟩
  obtain ⟨t, ht, hpath, hi⟩ :=
    container_instantiable_iff hclassify (List.mem_singleton.mpr rfl) rfl
  refine ⟨t, ht, (Catalogue.path_of_find? ht).trans (hpath rfl), hi.mpr (.inr ?_)⟩
  rintro ⟨u, hu, -⟩
  cases hu

/-- **A default container of which no values can be made**: the descriptor says that what stands at
    its path is an interface, and a list is gathered in it all the same. -/
theorem container_spoiled :
    ∃ (d : Descriptor) (c : Constructor) (kc : ClassifiedConstructor),
      c.classify "A" (.ofDescriptor d "support") = .ok kc ∧
      ∃ q ∈ kc.parameters, ∃ g, q.category = .collection g ∧
        ∃ t,
          (Catalogue.ofDescriptor d "support").types.find? (·.path == g.container.name) = some t ∧
            t.kind = .other := by
  refine ⟨naming [{ name := "Vec", path := some "::std::vec::Vec", kind := .interface }],
    filling "LinkedList" none, _, rfl, _, List.mem_singleton.mpr rfl, _, rfl, _, rfl, rfl⟩

end FluentBuilders
