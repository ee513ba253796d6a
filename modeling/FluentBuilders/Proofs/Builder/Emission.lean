/-
  Emission — which texts a plan is written with.

  A plan becomes code by way of its names and types, and each text in them ends up as an identifier.
  `Plan.words` lists these texts, all of them and no others: the code of a plan is there exactly
  when each of them is a word (`isSome_module?`).
-/
import FluentBuilders.Builder.Emission
import FluentBuilders.Proofs.Code.Spelling

namespace FluentBuilders

open Code

variable {support : Path} {p : Plan} {q : Property} {s : Setter}

/-! ## The texts of a plan -/

/-- The texts that the field of a property is written with. -/
def Property.words (q : Property) : List String := q.name :: q.type.words

/-- The texts that a storage is written with. -/
def Storage.words (s : Storage) : List String := s.name :: s.property :: s.container.words

/-- The texts that a further function is written with. -/
def PlannedFunction.words : PlannedFunction → List String
  | .nested n property builder _ => n :: property :: builder.words
  | .scope n property type _ => n :: property :: type.words
  | .insert n storage element => n :: storage :: element.words

/-- The texts that a scope type is written with. -/
def ScopeType.words (s : ScopeType) : List String :=
  s.name :: (s.typeParameters.flatMap (·.words) ++ s.selfType.words ++ s.container.words
    ++ s.element.words)

/-- The texts that the making of a value is written with. -/
def BuildStep.words (b : BuildStep) : List String :=
  b.constructor :: (b.classType.words ++ b.arguments)

/-- The texts that the methods of a property are named with. -/
def memberWords (q : Property) (s : Setter) : List String := [q.mutator, s.name]

/-- The texts that a plan is written with. -/
def Plan.words (p : Plan) : List String :=
  [p.builder, p.module, p.entry.name]
    ++ p.imports.flatMap pathWords
    ++ p.typeParameters.flatMap (·.words)
    ++ p.selfType.words
    ++ p.properties.flatMap (·.words)
    ++ (p.properties.zip p.setters).flatMap (fun (q, s) => memberWords q s)
    ++ p.functions.flatMap (·.words)
    ++ p.storages.flatMap (·.words)
    ++ p.scopes.flatMap (·.words)
    ++ p.build.words

/-! ## The builder type -/

theorem isSome_imports? :
    p.imports?.isSome = true ↔ ∀ i ∈ p.imports, Spelled (pathWords i) := by
  rw [Plan.imports?, isSome_mapM]
  simp only [isSome_pathOfName?]

theorem isSome_propertyField? : (q.field? support).isSome = true ↔ Spelled q.words := by
  simp only [Property.field?, isSome_bind, exists_and_right, ← Option.isSome_iff_exists,
    Option.isSome_some, and_true, isSome_ofName?, isSome_tyOfRef?, Property.words, spelled_cons]

theorem isSome_storageField? {s : Storage} : (s.field? support).isSome = true ↔
    Text.isWord s.name.toList = true ∧ Spelled s.container.words := by
  simp only [Storage.field?, isSome_bind, exists_and_right, ← Option.isSome_iff_exists,
    Option.isSome_some, and_true, isSome_ofName?, isSome_tyOfRef?]

theorem isSome_phantomField? (h : Spelled (p.typeParameters.flatMap (·.words))) :
    p.phantomField?.isSome = true := by
  rw [Plan.phantomField?]
  split
  · rw [isSome_bind_some, isSome_phantomOf?, spelled_map]
    intro t ht
    exact (spelled_cons.mp (spelled_flatMap.mp h t ht)).1
  · rfl

/-- **The builder type** can be written if its name, its type parameters, its properties and its
    storages can. -/
theorem isSome_struct? : (p.struct? support).isSome = true ↔
    Text.isWord p.builder.toList = true ∧ Spelled (p.typeParameters.flatMap (·.words)) ∧
      (∀ q ∈ p.properties, Spelled q.words) ∧
      (∀ s ∈ p.storages, Text.isWord s.name.toList = true ∧ Spelled s.container.words) := by
  simp only [Plan.struct?, isSome_bind, exists_and_right, ← Option.isSome_iff_exists,
    Option.isSome_some, and_true, isSome_ofName?, isSome_genericsOf?, isSome_mapM,
    isSome_propertyField?, isSome_storageField?]
  constructor
  · rintro ⟨hb, ht, hp, hs, -⟩
    exact ⟨hb, ht, hp, hs⟩
  · rintro ⟨hb, ht, hp, hs⟩
    exact ⟨hb, ht, hp, hs, isSome_phantomField? ht⟩

/-- The initial builder can be written if the names of its fields can, on a type that can. -/
theorem isSome_default? : (p.default? support).isSome = true ↔
    Spelled (p.typeParameters.flatMap (·.words)) ∧ Spelled p.selfType.words ∧
      (∀ q ∈ p.properties, Text.isWord q.name.toList = true) ∧
      (∀ s ∈ p.storages, Text.isWord s.name.toList = true) := by
  simp only [Plan.default?, Property.default?, Storage.default?, isSome_bind, exists_and_right,
    ← Option.isSome_iff_exists, Option.isSome_some, and_true, isSome_ofName?, isSome_genericsOf?,
    isSome_ofRef?, isSome_mapM]

/-! ## Methods -/

/-- A mutator discards what is stored for its property, so the names of those storages count. -/
theorem isSome_mutator? : (p.mutator? q).isSome = true ↔
    Spelled q.words ∧ Text.isWord q.mutator.toList = true ∧
      (∀ s ∈ p.storages, s.property = q.name → Text.isWord s.name.toList = true) := by
  simp only [Plan.mutator?, Plan.clearStorages?, isSome_bind, exists_and_right,
    ← Option.isSome_iff_exists, Option.isSome_some, and_true, isSome_ofName?, isSome_tyOfRef?,
    isSome_mapM, List.mem_filter, beq_iff_eq, and_imp, Property.words, spelled_cons]
  constructor
  · rintro ⟨hn, hm, ht, hs⟩
    exact ⟨⟨hn, ht⟩, hm, hs⟩
  · rintro ⟨⟨hn, ht⟩, hm, hs⟩
    exact ⟨hn, hm, ht, hs⟩

/-- The mutator and the setter of a property can be written if the words of both can. -/
theorem isSome_propertyMethods? : (p.propertyMethods? q s).isSome = true ↔
    Spelled q.words ∧ Spelled (memberWords q s) ∧
      (∀ s ∈ p.storages, s.property = q.name → Text.isWord s.name.toList = true) := by
  simp only [Plan.propertyMethods?, Setter.emit?, isSome_bind, exists_and_right,
    ← Option.isSome_iff_exists, Option.isSome_some, and_true, isSome_ofName?, isSome_tyOfRef?,
    isSome_mutator?, memberWords, spelled_cons, spelled_nil]
  constructor
  · rintro ⟨⟨hq, hm, hs⟩, hn, -, -⟩
    exact ⟨hq, ⟨hm, hn⟩, hs⟩
  · rintro ⟨hq, ⟨hm, hn⟩, hs⟩
    exact ⟨⟨hq, hm, hs⟩, hn, hm, (spelled_cons.mp hq).2⟩

theorem isSome_method? {f : PlannedFunction} : f.method?.isSome = true ↔ Spelled f.words := by
  cases f <;>
    simp only [PlannedFunction.method?, PlannedFunction.nestedMethod?, PlannedFunction.scopeMethod?,
      PlannedFunction.insertMethod?, isSome_bind, exists_and_right, ← Option.isSome_iff_exists,
      Option.isSome_some, and_true, isSome_ofName?, isSome_tyOfRef?, isSome_calledRef?,
      PlannedFunction.words, spelled_cons, and_self]

theorem isSome_flush? {s : Storage} : s.flush?.isSome = true ↔
    Text.isWord s.property.toList = true ∧ Text.isWord s.name.toList = true := by
  simp only [Storage.flush?, isSome_bind, exists_and_right, ← Option.isSome_iff_exists,
    Option.isSome_some, and_true, isSome_ofName?]

/-- Finishing can be written if the call of the constructor can, and each move of what is stored. -/
theorem isSome_buildMethod? : (p.buildMethod? support).isSome = true ↔
    Spelled p.build.words ∧ ∀ s ∈ p.storages,
      Text.isWord s.property.toList = true ∧ Text.isWord s.name.toList = true := by
  simp only [Plan.buildMethod?, Plan.argument?, isSome_bind, exists_and_right,
    ← Option.isSome_iff_exists, Option.isSome_some, and_true, isSome_ofName?, isSome_tyOfRef?,
    isSome_calledRef?, isSome_mapM, isSome_flush?, BuildStep.words, spelled_cons, spelled_append]
  constructor
  · rintro ⟨ht, -, hc, hs, ha⟩
    exact ⟨⟨hc, ht, ha⟩, hs⟩
  · rintro ⟨⟨hc, ht, ha⟩, hs⟩
    exact ⟨ht, ht, hc, hs, ha⟩

/-- **The methods of a builder** can be written if each of them can. -/
theorem isSome_methods? : (p.methods? support).isSome = true ↔
    Spelled (p.typeParameters.flatMap (·.words)) ∧ Spelled p.selfType.words ∧
      (∀ m ∈ p.properties.zip p.setters, (p.propertyMethods? m.1 m.2).isSome = true) ∧
      (∀ f ∈ p.functions, Spelled f.words) ∧ (p.buildMethod? support).isSome = true := by
  simp only [Plan.methods?, isSome_bind, exists_and_right, ← Option.isSome_iff_exists,
    Option.isSome_some, and_true, isSome_genericsOf?, isSome_ofRef?, isSome_mapM, isSome_method?]

/-- The builder with its defaults and its methods is there when its names and types are spelled;
    no method needs a text that stands nowhere else. -/
theorem isSome_body? : (p.body? support).isSome = true ↔
    Text.isWord p.builder.toList = true ∧ Spelled (p.typeParameters.flatMap (·.words)) ∧
      Spelled p.selfType.words ∧ (∀ q ∈ p.properties, Spelled q.words) ∧
      (∀ m ∈ p.properties.zip p.setters, Spelled (memberWords m.1 m.2)) ∧
      (∀ f ∈ p.functions, Spelled f.words) ∧ (∀ s ∈ p.storages, Spelled s.words) ∧
      Spelled p.build.words := by
  simp only [Plan.body?, isSome_bind, exists_and_right, ← Option.isSome_iff_exists,
    Option.isSome_some, and_true, isSome_struct?, isSome_default?, isSome_methods?,
    isSome_propertyMethods?, isSome_buildMethod?, Storage.words, spelled_cons]
  constructor
  · rintro ⟨⟨hb, ht, hp, hs⟩, ⟨-, hself, -, -⟩, -, -, hm, hf, hmade, hflush⟩
    refine ⟨hb, ht, hself, hp, fun m h => (hm m h).2.1, hf, fun s h => ?_, hmade⟩
    exact ⟨(hs s h).1, (hflush s h).1, (hs s h).2⟩
  · rintro ⟨hb, ht, hself, hp, hm, hf, hs, hmade⟩
    have hnames : ∀ s ∈ p.storages, Text.isWord s.name.toList = true := fun s h => (hs s h).1
    refine ⟨⟨hb, ht, hp, fun s h => ⟨hnames s h, (hs s h).2.2⟩⟩,
      ⟨ht, hself, fun q h => (spelled_cons.mp (hp q h)).1, hnames⟩, ht, hself, fun m h => ?_, hf,
      hmade, fun s h => ⟨(hs s h).2.1, hnames s h⟩⟩
    exact ⟨hp m.1 (List.of_mem_zip h).1, hm m h, fun s hs _ => hnames s hs⟩

/-! ## Scope types and the entry function -/

theorem isSome_items? {s : ScopeType} {internal : Bool} :
    (s.items? support internal).isSome = true ↔ Spelled s.words := by
  simp only [ScopeType.items?, isSome_bind, exists_and_right, ← Option.isSome_iff_exists,
    Option.isSome_some, and_true, isSome_ofName?, isSome_genericsOf?, isSome_ofRef?,
    isSome_tyOfRef?, ScopeType.words, spelled_cons, spelled_append, and_assoc]

/-- The entry function can be written if its name can, and the types of the builder and of the
    class. -/
theorem isSome_entry? : (p.entry? support).isSome = true ↔
    Text.isWord p.entry.name.toList = true ∧ Spelled (p.typeParameters.flatMap (·.words)) ∧
      Spelled p.selfType.words ∧ Spelled p.build.classType.words := by
  simp only [Plan.entry?, isSome_bind, exists_and_right, ← Option.isSome_iff_exists,
    Option.isSome_some, and_true, isSome_ofName?, isSome_genericsOf?, isSome_tyOfRef?,
    isSome_calledRef?]
  constructor
  · rintro ⟨hn, ht, hs, -, hc⟩
    exact ⟨hn, ht, hs, hc⟩
  · rintro ⟨hn, ht, hs, hc⟩
    exact ⟨hn, ht, hs, hs, hc⟩

/-! ## Modules -/

theorem isSome_declaration? : p.declaration?.isSome = true ↔
    Spelled [p.module, p.builder, p.entry.name] := by
  simp only [Plan.declaration?, isSome_bind, exists_and_right, ← Option.isSome_iff_exists,
    Option.isSome_some, and_true, isSome_ofName?, spelled_cons, spelled_nil]

/-- The index can be written if each of its declarations can. -/
theorem isSome_indexModule? {plans : List Plan} :
    (indexModule? plans).isSome = true ↔ ∀ p ∈ plans, p.declaration?.isSome = true := by
  rw [indexModule?, isSome_bind_some, isSome_mapM]

/-- **What code needs to be there.**  The module of a plan and the declaration of the module have a
    tree exactly when each text that the plan is written with is a word. -/
theorem isSome_module? : (p.module? support).isSome = true ∧ p.declaration?.isSome = true ↔
    Spelled p.words := by
  simp only [Plan.module?, Plan.scopes?, isSome_bind, exists_and_right,
    ← Option.isSome_iff_exists, Option.isSome_some, and_true, isSome_mapM, isSome_imports?,
    isSome_body?, isSome_items?, isSome_entry?, isSome_declaration?, Plan.words, spelled_append,
    spelled_flatMap, spelled_cons, spelled_nil]
  constructor
  · rintro ⟨⟨hi, ⟨hb, ht, hself, hp, hm, hf, hs, hmade⟩, hscopes, he, -⟩, hmodule, -⟩
    exact ⟨⟨⟨⟨⟨⟨⟨⟨⟨⟨hb, hmodule, he⟩, hi⟩, ht⟩, hself⟩, hp⟩, hm⟩, hf⟩, hs⟩, hscopes⟩, hmade⟩
  · rintro ⟨⟨⟨⟨⟨⟨⟨⟨⟨⟨hb, hmodule, he⟩, hi⟩, ht⟩, hself⟩, hp⟩, hm⟩, hf⟩, hs⟩, hscopes⟩, hmade⟩
    have hclass : Spelled p.build.classType.words :=
      (spelled_append.mp (spelled_cons.mp hmade).2).1
    exact ⟨⟨hi, ⟨hb, ht, hself, hp, hm, hf, hs, hmade⟩, hscopes, he, ht, hself, hclass⟩, hmodule,
      hb, he⟩

end FluentBuilders
