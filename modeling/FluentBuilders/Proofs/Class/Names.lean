/-
  Checked names — what is known of the names of a class once it has been read.

  Reading checks every name that a builder is made of: those of the class itself, of its type
  parameters, of its constructors and of their parameters, and the paths in the types of parameters
  and in bounds.  So no later stage needs to look at a name again, and none has to assume anything
  about the descriptor.
-/
import FluentBuilders.Proofs.Class.Reading

namespace FluentBuilders.Class

open Descriptor

/-- The names in the facts about a class are well formed. -/
structure Checked (f : Facts) : Prop where
  name : Name.isIdentifier f.subject.name = true
  package : Name.isPath f.subject.package = true
  display : ∀ n, f.subject.displayName = some n → Name.isIdentifier n = true
  typeParameters : ∀ p ∈ f.subject.typeParameters, Name.isIdentifier p.name = true
  functions : ∀ c ∈ f.constructors, Name.isIdentifier c.function = true
  parameters : ∀ c ∈ f.constructors, ∀ p ∈ c.parameters, Name.isIdentifier p.name = true
  bounds : ∀ p ∈ f.subject.typeParameters, TypeRef.badNameIn? p.bounds = none
  types : ∀ c ∈ f.constructors, ∀ p ∈ c.parameters, p.type.badName? = none

/-- Whether a type admits the absent value has nothing to do with the names in it. -/
theorem named_of_nullable {t : TypeRef} {nullable : Bool} :
    TypeRef.Named { t with nullable } ↔ t.Named := by
  obtain ⟨name, arguments, _⟩ := t
  rw [TypeRef.Named, TypeRef.Named, TypeRef.names, TypeRef.names]

/-- What is put together from two consistent views of a constructor has the names of the declared
    one. -/
theorem ConsistentConstructor.named {c : ConstructorEntry} {m : ConstructorMetadata}
    (h : ConsistentConstructor c m) : ∀ p ∈ (constructorOf c m).parameters,
      Name.isIdentifier p.name = true ∧ p.type.Named := by
  intro p hp
  obtain ⟨q, n, hqn, rfl⟩ := exists_of_mem_zipWith hp
  have hq := (List.of_mem_zip hqn).1
  exact ⟨h.parameters.identifiers q hq, named_of_nullable.mpr (h.parameters.types q hq)⟩

/-- **A class that was read has well-formed names**, whatever the descriptor says. -/
theorem checked_of_read {e : ClassEntry} {f : Facts} (h : (read e).2 = .ok f) : Checked f := by
  obtain ⟨m, -, hc, rfl⟩ := read_eq_ok_iff.mp h
  have hks : ∀ k ∈ (factsOf e m).constructors, ∃ c n, ConsistentConstructor c n ∧
      constructorOf c n = k := by
    intro k hk
    obtain ⟨c, n, hcn, hk⟩ := exists_of_mem_zipWith hk
    exact ⟨c, n, (List.forall₂_iff_zip.mp hc.constructors).2 hcn, hk⟩
  have hps : ∀ k ∈ (factsOf e m).constructors, ∀ p ∈ k.parameters,
      Name.isIdentifier p.name = true ∧ p.type.Named := by
    intro k hk
    obtain ⟨c, n, hcn, rfl⟩ := hks k hk
    exact hcn.named
  exact
    { name := hc.names.name
      package := hc.names.package
      display := isIdentifier_displayNameOf.mpr hc.names.display
      typeParameters := fun p hp => (hc.typeParameters p hp).1
      functions := by
        intro k hk
        obtain ⟨c, n, hcn, rfl⟩ := hks k hk
        exact hcn.function
      parameters := fun k hk p hp => (hps k hk p hp).1
      bounds := fun p hp => badNameIn?_eq_none_iff.mpr (hc.typeParameters p hp).2
      types := fun k hk p hp => badName?_eq_none_iff.mpr (hps k hk p hp).2 }

end FluentBuilders.Class
