/-
  Rules — when a parameter has which category.

  The category is decided by three things: a builder for the type, a shape that the type has as a
  container, and a directive on the parameter.  The builder comes first, so each category has one
  condition (`category_nested_iff`, `category_plain_iff`, `category_collection_iff`).  How
  a collection is gathered is a relation of its own (`Gathers`), with one case for each way to come
  by a container (`Supplies`).
-/
import FluentBuilders.Category
import FluentBuilders.Proofs.Catalogue.Declarations
import FluentBuilders.Proofs.Outcome

namespace FluentBuilders

open Descriptor (CollectionOverride)

variable {k : Catalogue} {p : Parameter} {className path : String} {shape : Option Shape}
  {s : Shape} {overridden : Bool} {override : Option CollectionOverride} {c : Collection}
  {b : BuilderRef}

/-! ## Containers -/

/-- A catalogue supplies a container, with a shape, for a parameter whose type has a certain shape
    or none. -/
inductive Catalogue.Supplies (k : Catalogue) (shape : Option Shape)
    (override : Option CollectionOverride) : String → Shape → Bool → Prop
  /-- The one that the directive names, if values of it can be made. -/
  | asked {wanted : String} {t : KnownType} :
      override.bind (·.concreteType) = some wanted → k.resolve wanted = some t →
      t.isInstantiable = true →
      Supplies k shape override t.path ((t.shape <|> shape).getD .list) true
  /-- The default one of the shape, whatever it is. -/
  | usual {s : Shape} {t : KnownType} :
      override.bind (·.concreteType) = none → shape = some s →
      k.resolve (Catalogue.defaultPath k.support s) = some t →
      Supplies k shape override t.path s false

/-- **The container for a parameter** is what the catalogue supplies for the shape and the
    override. -/
theorem Catalogue.containerFor_eq_ok {unresolvable : Option String → Rejection} :
    k.containerFor shape override unresolvable = .ok (path, s, overridden) ↔
      k.Supplies shape override path s overridden := by
  rw [containerFor]
  constructor
  · intro h
    split at h
    · rename_i wanted hw
      split at h
      · rename_i t ht
        cases h
        obtain ⟨hr, hi⟩ := Option.filter_eq_some_iff.mp ht
        exact .asked hw hr hi
      · cases h
    · rename_i hw
      split at h
      · rename_i hd
        cases h
        obtain ⟨s', hs, hd⟩ := Option.bind_eq_some_iff.mp hd
        obtain ⟨t, ht, he⟩ := Option.map_eq_some_iff.mp hd
        cases he
        rw [defaultContainer_eq] at ht
        exact .usual hw hs ht
      · cases h
  · intro h
    cases h with
    | asked hw hr hi =>
      have ht := Option.filter_eq_some_iff.mpr ⟨hr, hi⟩
      simp only [hw, ht]
    | usual hw hs ht =>
      rw [← defaultContainer_eq] at ht
      simp only [hw, hs, Option.bind_some, ht, Option.map_some]

/-! ## Collections -/

/-- A collection gathers the elements of a parameter whose type has a certain shape or none. -/
structure Gathers (k : Catalogue) (p : Parameter) (shape : Option Shape) (c : Collection) :
    Prop where
  element : p.type.arguments.head? = some c.element
  inline : c.inline = (p.override.map (·.inline)).getD false
  container : c.container = { name := c.container.name }
  supplied : k.Supplies shape p.override c.container.name c.shape c.overridden

/-- A parameter is a collection if it gathers elements in a container that is supplied. -/
theorem collection_eq_ok : p.collection className k shape = .ok c ↔ Gathers k p shape c := by
  rw [Parameter.collection]
  constructor
  · intro h
    split at h
    · cases h
    · rename_i element rest ha
      obtain ⟨⟨path, s, o⟩, hf, h⟩ := bind_eq_ok.mp h
      cases h
      exact ⟨by rw [ha]; rfl, rfl, rfl, Catalogue.containerFor_eq_ok.mp hf⟩
  · rintro ⟨he, hi, hc, hs⟩
    split
    · rename_i ha
      rw [ha] at he
      cases he
    · rename_i element rest ha
      rw [ha] at he
      cases he
      refine bind_eq_ok.mpr ⟨_, Catalogue.containerFor_eq_ok.mpr hs, ?_⟩
      dsimp only
      rw [← hc, ← hi]

/-! ## Categories -/

/-- A parameter is nested exactly when its type has a builder. -/
theorem category_nested_iff :
    p.category className k = .ok (.nested b) ↔ k.builderOf p.type.name = some b := by
  rw [Parameter.category]
  cases k.builderOf p.type.name with
  | some b' =>
    constructor
    · intro h
      cases h
      rfl
    · intro h
      cases h
      rfl
  | none =>
    refine iff_of_false (fun h => ?_) (fun h => ?_)
    · dsimp only at h
      split at h
      · cases h
      · obtain ⟨c, -, hc⟩ := map_eq_ok.mp h
        cases hc
    · cases h

/-- A parameter is plain exactly when nothing says otherwise. -/
theorem category_plain_iff : p.category className k = .ok .plain ↔
    k.builderOf p.type.name = none ∧ k.shapeOf p.type.name = none ∧ p.override = none := by
  rw [Parameter.category]
  cases k.builderOf p.type.name with
  | some b' => exact iff_of_false (fun h => by cases h) (fun h => by cases h.1)
  | none =>
    dsimp only
    split
    · rename_i hs ho
      exact iff_of_true rfl ⟨rfl, hs, ho⟩
    · rename_i hn
      refine iff_of_false (fun h => ?_) (fun h => hn h.2.1 h.2.2)
      obtain ⟨c, -, hc⟩ := map_eq_ok.mp h
      cases hc

/-- A parameter is a collection exactly when its type has no builder, but a shape, or when there is
    a directive, and a collection can be made. -/
theorem category_collection_iff : p.category className k = .ok (.collection c) ↔
    k.builderOf p.type.name = none ∧ (k.shapeOf p.type.name ≠ none ∨ p.override ≠ none) ∧
      Gathers k p (k.shapeOf p.type.name) c := by
  rw [Parameter.category]
  cases k.builderOf p.type.name with
  | some b' => exact iff_of_false (fun h => by cases h) (fun h => by cases h.1)
  | none =>
    dsimp only
    split
    · rename_i hs ho
      refine iff_of_false (fun h => by cases h) (fun h => ?_)
      exact h.2.1.elim (· hs) (· ho)
    · rename_i hn
      constructor
      · intro h
        obtain ⟨c', hc, he⟩ := map_eq_ok.mp h
        cases he
        refine ⟨rfl, ?_, collection_eq_ok.mp hc⟩
        by_contra ha
        obtain ⟨hs, ho⟩ := not_or.mp ha
        exact hn (not_not.mp hs) (not_not.mp ho)
      · rintro ⟨-, -, hc⟩
        exact map_eq_ok.mpr ⟨c, collection_eq_ok.mpr hc, rfl⟩

/-! ## Constructors -/

/-- Classification puts a category on a parameter and changes nothing else. -/
theorem classify_eq_ok_iff {q : ClassifiedParameter} : p.classify className k = .ok q ↔
    q.name = p.name ∧ q.type = p.type ∧ p.category className k = .ok q.category := by
  rw [Parameter.classify, bind_eq_ok]
  constructor
  · rintro ⟨category, hc, hq⟩
    cases hq
    exact ⟨rfl, rfl, hc⟩
  · rintro ⟨hn, ht, hc⟩
    exact ⟨_, hc, by rw [← hn, ← ht]⟩

/-- Classification changes neither the function nor the order of the parameters. -/
theorem constructor_classify_eq_ok {c : Constructor} {kc : ClassifiedConstructor}
    (h : c.classify className k = .ok kc) :
    kc.function = c.function ∧
      List.Forall₂ (fun p q => p.classify className k = .ok q) c.parameters kc.parameters := by
  obtain ⟨qs, hq, hkc⟩ := bind_eq_ok.mp h
  cases hkc
  exact ⟨rfl, mapM_eq_ok.mp hq⟩

end FluentBuilders
