/-
  Drafting — what the plan of a builder holds, said parameter by parameter.

  `Plan.synthesize` carries a draft through the parameters of the constructor and may stop at each
  of them.  Here the two sides of that work are told apart: what a parameter adds to a draft, which
  never fails (`Draft.extend`), and when it may be added (`Fresh`, `namesNested`).  A whole run then
  ends well exactly when all the names it claims are different and every nested function can be
  named, and the plan is `Plan.drawn`, a list for each kind of member.
-/
import FluentBuilders.Builder.Synthesis
import FluentBuilders.Proofs.Outcome

namespace FluentBuilders.Synthesis

/-! ## What a parameter adds -/

/-- The property of a parameter. -/
def propertyOf (p : ClassifiedParameter) : Property where
  name := p.name
  mutator := Name.mutator p.name
  type := p.type
  start := if p.type.nullable then .absent else .unset

/-- The setter of a parameter. -/
def setterOf (p : ClassifiedParameter) : Setter where
  name := Name.setter p.name
  mutator := Name.mutator p.name
  type := p.type

/-- The type parameters of a class that the elements of a collection mention. -/
def mentionedIn (c : Class) (k : Collection) : List Descriptor.TypeParameter :=
  c.typeParameters.filter fun t => k.element.mentions t.name

/-- The function of a parameter, if it has one beside its setters. -/
def functionsOf (c : Class) (p : ClassifiedParameter) : List PlannedFunction :=
  match p.category with
  | .plain => []
  | .nested b =>
    [.nested (b.displayName.getD p.name) p.name
      { name := b.builder, arguments := p.type.arguments } p.type.nullable]
  | .collection k =>
    if k.inline then [.insert (Name.insert p.name) (Name.storage p.name) k.element]
    else [.scope p.name p.name (.applied (Name.scope p.name) ((mentionedIn c k).map (·.name)))
      p.type.nullable]

/-- The storage of a parameter, if it is an inline collection. -/
def storagesOf (p : ClassifiedParameter) : List Storage :=
  match p.category with
  | .collection k =>
    if k.inline then
      [{ name := Name.storage p.name, property := p.name, container := k.type,
         nullable := p.type.nullable }]
    else []
  | _ => []

/-- The scope type of a parameter, if it is any other collection. -/
def scopesOf (c : Class) (p : ClassifiedParameter) : List ScopeType :=
  match p.category with
  | .collection k =>
    if k.inline then []
    else [{ name := Name.scope p.name, typeParameters := mentionedIn c k, element := k.element,
            container := k.type }]
  | _ => []

/-- What has to be imported for a parameter: the builder it runs, unless it is this very one. -/
def importsOf (c : Class) (p : ClassifiedParameter) : List String :=
  match p.category with
  | .nested b => if b.builder ≠ Name.builder c.name then [Name.join b.module b.builder] else []
  | _ => []

/-- The names that a parameter claims, in order. -/
def membersOf (p : ClassifiedParameter) : List Member :=
  [⟨.field, p.name⟩, ⟨.method, Name.mutator p.name⟩, ⟨.method, Name.setter p.name⟩] ++
    match p.category with
    | .plain => []
    | .nested b => [⟨.method, b.displayName.getD p.name⟩]
    | .collection k =>
      if k.inline then [⟨.method, Name.insert p.name⟩, ⟨.field, Name.storage p.name⟩]
      else [⟨.method, p.name⟩, ⟨.type, Name.scope p.name⟩]

/-- The names that every builder of a class claims, in order. -/
def commonMembers (c : Class) : List Member :=
  commonMethods.map (⟨.method, ·⟩)
    ++ (if c.typeParameters.isEmpty then [] else [⟨.field, phantomField⟩])
    ++ [⟨.type, Name.builder c.name⟩]

/-- The function that a nested parameter adds has a name. -/
def namesNested (p : ClassifiedParameter) : Prop :=
  ∀ b, p.category = .nested b → Name.isIdentifier (b.displayName.getD p.name) = true

/-- Imports with another one, unless it is there. -/
def addImport (imports : List String) (path : String) : List String :=
  if imports.contains path then imports else imports ++ [path]

/-- A draft with everything that a parameter adds. -/
def Draft.extend (c : Class) (d : Draft) (p : ClassifiedParameter) : Draft where
  imports := (importsOf c p).foldl addImport d.imports
  properties := d.properties ++ [propertyOf p]
  setters := d.setters ++ [setterOf p]
  functions := d.functions ++ functionsOf c p
  storages := d.storages ++ storagesOf p
  scopes := d.scopes ++ scopesOf c p
  claimed := d.claimed ++ membersOf p

/-! ## Claiming names -/

/-- Names that can be claimed one after the other. -/
def Fresh (claimed ms : List Member) : Prop := ms.Nodup ∧ ∀ m ∈ ms, m ∉ claimed

theorem fresh_nil (claimed : List Member) : Fresh claimed [] :=
  ⟨List.nodup_nil, fun _ h => absurd h List.not_mem_nil⟩

/-- Names are free if the first ones are, and then the others beside them. -/
theorem fresh_append {claimed xs ys : List Member} :
    Fresh claimed (xs ++ ys) ↔ Fresh claimed xs ∧ Fresh (claimed ++ xs) ys := by
  simp only [Fresh, List.nodup_append, List.mem_append, not_or]
  constructor
  · rintro ⟨⟨hx, hy, hxy⟩, h⟩
    refine ⟨⟨hx, ?_⟩, hy, ?_⟩
    · intro m hm
      exact h m (.inl hm)
    · intro m hm
      exact ⟨h m (.inr hm), fun hm' => hxy m hm' m hm rfl⟩
  · rintro ⟨⟨hx, hxc⟩, hy, hyc⟩
    refine ⟨⟨hx, hy, ?_⟩, ?_⟩
    · intro a ha b hb hab
      exact (hyc b hb).2 (hab ▸ ha)
    · intro m hm
      rcases hm with hm | hm
      · exact hxc m hm
      · exact (hyc m hm).1

theorem fresh_cons {claimed ms : List Member} {m : Member} :
    Fresh claimed (m :: ms) ↔ m ∉ claimed ∧ Fresh (claimed ++ [m]) ms := by
  have h : Fresh claimed [m] ↔ m ∉ claimed := by simp [Fresh]
  rw [← h, ← fresh_append]
  rfl

variable {c : Class} {d d' : Draft} {p : ClassifiedParameter} {builder : String}

/-- A name can be claimed if it is free, and then it is claimed. -/
theorem claim_eq_ok {space : Space} {name : String} :
    d.claim builder space name = .ok d' ↔
      ⟨space, name⟩ ∉ d.claimed ∧ d' = { d with claimed := d.claimed ++ [⟨space, name⟩] } := by
  unfold Draft.claim
  split
  · rename_i h
    constructor
    · intro e
      cases e
    · rintro ⟨hfree, -⟩
      exact absurd (List.contains_iff_mem.mp h) hfree
  · rename_i h
    rw [List.contains_iff_mem] at h
    constructor
    · intro e
      exact ⟨h, (Except.ok.inj e).symm⟩
    · rintro ⟨-, he⟩
      rw [he]

/-! ## One parameter -/

/-- A property is drafted if its field, its mutator and its setter are free. -/
theorem addProperty_eq_ok :
    d.addProperty builder p = .ok d' ↔
      Fresh d.claimed [⟨.field, p.name⟩, ⟨.method, Name.mutator p.name⟩,
        ⟨.method, Name.setter p.name⟩] ∧
      d' = { d with
        properties := d.properties ++ [propertyOf p]
        setters := d.setters ++ [setterOf p]
        claimed := d.claimed ++ [⟨.field, p.name⟩, ⟨.method, Name.mutator p.name⟩,
          ⟨.method, Name.setter p.name⟩] } := by
  simp only [Draft.addProperty, bind_eq_ok, claim_eq_ok, fresh_cons, fresh_nil, and_true]
  constructor
  · rintro ⟨_, ⟨h₁, rfl⟩, _, ⟨h₂, rfl⟩, _, ⟨h₃, rfl⟩, h⟩
    cases h
    exact ⟨⟨h₁, h₂, h₃⟩, by simp [propertyOf, setterOf]⟩
  · rintro ⟨⟨h₁, h₂, h₃⟩, rfl⟩
    exact ⟨_, ⟨h₁, rfl⟩, _, ⟨h₂, rfl⟩, _, ⟨h₃, rfl⟩, by simp [propertyOf, setterOf]⟩

/-- A nested function is drafted if its name can be declared and is free. -/
theorem addNested_eq_ok {b : BuilderRef} (hp : p.category = .nested b) :
    d.addNested c p b = .ok d' ↔
      Name.isIdentifier (b.displayName.getD p.name) = true ∧
      Fresh d.claimed [⟨.method, b.displayName.getD p.name⟩] ∧
      d' = { d with
        imports := (importsOf c p).foldl addImport d.imports
        functions := d.functions ++ functionsOf c p
        claimed := d.claimed ++ [⟨.method, b.displayName.getD p.name⟩] } := by
  simp only [Draft.addNested, importsOf, functionsOf, hp, fresh_cons, fresh_nil, and_true]
  cases hid : Name.isIdentifier (b.displayName.getD p.name) with
  | false => simp
  | true =>
    simp only [Bool.not_true, Bool.false_eq_true, if_false, bind_eq_ok, claim_eq_ok, true_and]
    -- adding to the imports and including differ only where there is nothing to import
    have hd : ∀ e : Draft, (if b.builder ≠ Name.builder c.name then
          e.include (Name.join b.module b.builder) else e) =
        { e with imports := (if b.builder ≠ Name.builder c.name then
            [Name.join b.module b.builder] else []).foldl addImport e.imports } := by
      intro e
      split
      · simp only [Draft.include, List.foldl_cons, List.foldl_nil, addImport]
        split <;> rfl
      · rfl
    constructor
    · rintro ⟨_, ⟨h, rfl⟩, he⟩
      rw [hd] at he
      exact ⟨h, (Except.ok.inj he).symm⟩
    · rintro ⟨h, rfl⟩
      exact ⟨_, ⟨h, rfl⟩, by rw [hd]⟩

/-- An inserting function is drafted with its storage if the names of both are free. -/
theorem addInsert_eq_ok {k : Collection} (hp : p.category = .collection k)
    (hk : k.inline = true) :
    d.addInsert builder p k = .ok d' ↔
      Fresh d.claimed [⟨.method, Name.insert p.name⟩, ⟨.field, Name.storage p.name⟩] ∧
      d' = { d with
        functions := d.functions ++ functionsOf c p
        storages := d.storages ++ storagesOf p
        claimed := d.claimed ++
          [⟨.method, Name.insert p.name⟩, ⟨.field, Name.storage p.name⟩] } := by
  simp only [Draft.addInsert, functionsOf, storagesOf, hp, hk, if_true, bind_eq_ok, claim_eq_ok,
    fresh_cons, fresh_nil, and_true]
  constructor
  · rintro ⟨_, ⟨h₁, rfl⟩, _, ⟨h₂, rfl⟩, h⟩
    cases h
    exact ⟨⟨h₁, h₂⟩, by simp⟩
  · rintro ⟨⟨h₁, h₂⟩, rfl⟩
    exact ⟨_, ⟨h₁, rfl⟩, _, ⟨h₂, rfl⟩, by simp⟩

/-- A scope function is drafted with its scope type if the names of both are free. -/
theorem addScope_eq_ok {k : Collection} (hp : p.category = .collection k)
    (hk : k.inline = false) :
    d.addScope c p k = .ok d' ↔
      Fresh d.claimed [⟨.method, p.name⟩, ⟨.type, Name.scope p.name⟩] ∧
      d' = { d with
        functions := d.functions ++ functionsOf c p
        scopes := d.scopes ++ scopesOf c p
        claimed := d.claimed ++ [⟨.method, p.name⟩, ⟨.type, Name.scope p.name⟩] } := by
  simp only [Draft.addScope, functionsOf, scopesOf, mentionedIn, hp, hk, Bool.false_eq_true,
    if_false, bind_eq_ok, claim_eq_ok, fresh_cons, fresh_nil, and_true]
  constructor
  · rintro ⟨_, ⟨h₁, rfl⟩, _, ⟨h₂, rfl⟩, h⟩
    cases h
    exact ⟨⟨h₁, h₂⟩, by simp⟩
  · rintro ⟨⟨h₁, h₂⟩, rfl⟩
    exact ⟨_, ⟨h₁, rfl⟩, _, ⟨h₂, rfl⟩, by simp⟩

/-- **What one parameter does to a draft**, and when it is let in. -/
theorem addParameter_eq_ok :
    d.addParameter c p = .ok d' ↔
      Fresh d.claimed (membersOf p) ∧ namesNested p ∧ d' = d.extend c p := by
  simp only [Draft.addParameter, bind_eq_ok, addProperty_eq_ok, membersOf, fresh_append]
  cases hp : p.category with
  | plain =>
    constructor
    · rintro ⟨_, ⟨h, rfl⟩, he⟩
      cases he
      refine ⟨⟨h, fresh_nil _⟩, ?_, ?_⟩
      · intro b hb
        cases hp.symm.trans hb
      · simp [Draft.extend, importsOf, functionsOf, storagesOf, scopesOf, membersOf, hp]
    · rintro ⟨⟨h, -⟩, -, rfl⟩
      refine ⟨_, ⟨h, rfl⟩, ?_⟩
      simp [Draft.extend, importsOf, functionsOf, storagesOf, scopesOf, membersOf, hp]
  | nested b =>
    constructor
    · rintro ⟨_, ⟨h, rfl⟩, he⟩
      obtain ⟨hid, hf, rfl⟩ := (addNested_eq_ok hp).mp he
      refine ⟨⟨h, hf⟩, fun b' hb => ?_, ?_⟩
      · cases hp.symm.trans hb
        exact hid
      · simp [Draft.extend, storagesOf, scopesOf, membersOf, hp]
    · rintro ⟨⟨h, hf⟩, hn, rfl⟩
      refine ⟨_, ⟨h, rfl⟩, (addNested_eq_ok hp).mpr ⟨hn b hp, hf, ?_⟩⟩
      simp [Draft.extend, storagesOf, scopesOf, membersOf, hp]
  | collection k =>
    have hn : namesNested p := by
      intro b hb
      cases hp.symm.trans hb
    cases hk : k.inline with
    | true =>
      simp only [hk, if_true, addInsert_eq_ok (c := c) hp hk]
      constructor
      · rintro ⟨_, ⟨h, rfl⟩, hf, rfl⟩
        refine ⟨⟨h, hf⟩, hn, ?_⟩
        simp [Draft.extend, importsOf, scopesOf, membersOf, hp, hk]
      · rintro ⟨⟨h, hf⟩, -, rfl⟩
        refine ⟨_, ⟨h, rfl⟩, hf, ?_⟩
        simp [Draft.extend, importsOf, scopesOf, membersOf, hp, hk]
    | false =>
      simp only [hk, Bool.false_eq_true, if_false, addScope_eq_ok hp hk]
      constructor
      · rintro ⟨_, ⟨h, rfl⟩, hf, rfl⟩
        refine ⟨⟨h, hf⟩, hn, ?_⟩
        simp [Draft.extend, importsOf, storagesOf, membersOf, hp, hk]
      · rintro ⟨⟨h, hf⟩, -, rfl⟩
        refine ⟨_, ⟨h, rfl⟩, hf, ?_⟩
        simp [Draft.extend, importsOf, storagesOf, membersOf, hp, hk]

/-! ## All parameters -/

/-- The run over the parameters: the step of `addParameter_eq_ok` at every one of them. -/
theorem foldlM_addParameter_eq_ok : ∀ {ps : List ClassifiedParameter} {d d' : Draft},
    ps.foldlM (fun d p => d.addParameter c p) d = .ok d' ↔
      Fresh d.claimed (ps.flatMap membersOf) ∧ (∀ p ∈ ps, namesNested p) ∧
      d' = ps.foldl (Draft.extend c) d
  | [], d, d' => by
    simp only [List.foldlM_nil, List.flatMap_nil, List.foldl_nil]
    constructor
    · intro h
      exact ⟨fresh_nil _, fun _ hp => absurd hp List.not_mem_nil, (Except.ok.inj h).symm⟩
    · rintro ⟨-, -, h⟩
      rw [h]
      rfl
  | p :: ps, d, d' => by
    simp only [List.foldlM_cons, bind_eq_ok, addParameter_eq_ok, List.flatMap_cons, fresh_append,
      List.foldl_cons, List.forall_mem_cons]
    constructor
    · rintro ⟨_, ⟨hf, hn, rfl⟩, h⟩
      obtain ⟨hfs, hns, rfl⟩ := foldlM_addParameter_eq_ok.mp h
      exact ⟨⟨hf, hfs⟩, ⟨hn, hns⟩, rfl⟩
    · rintro ⟨⟨hf, hfs⟩, ⟨hn, hns⟩, rfl⟩
      exact ⟨_, ⟨hf, hn, rfl⟩, foldlM_addParameter_eq_ok.mpr ⟨hfs, hns, rfl⟩⟩

/-- What a run adds, kind by kind. -/
theorem foldl_extend : ∀ (ps : List ClassifiedParameter) (d : Draft),
    ps.foldl (Draft.extend c) d =
      { imports := (ps.flatMap (importsOf c)).foldl addImport d.imports
        properties := d.properties ++ ps.map propertyOf
        setters := d.setters ++ ps.map setterOf
        functions := d.functions ++ ps.flatMap (functionsOf c)
        storages := d.storages ++ ps.flatMap storagesOf
        scopes := d.scopes ++ ps.flatMap (scopesOf c)
        claimed := d.claimed ++ ps.flatMap membersOf }
  | [], d => by simp
  | p :: ps, d => by
    rw [List.foldl_cons, foldl_extend ps]
    simp [Draft.extend, List.foldl_append]

/-! ## The names of every builder -/

/-- Names are claimed one after the other if each is free when its turn comes. -/
theorem foldlM_claim_eq_ok {space : Space} : ∀ {names : List String} {d d' : Draft},
    names.foldlM (fun d name => d.claim builder space name) d = .ok d' ↔
      Fresh d.claimed (names.map (⟨space, ·⟩)) ∧
      d' = { d with claimed := d.claimed ++ names.map (⟨space, ·⟩) }
  | [], d, d' => by
    simp only [List.foldlM_nil, List.map_nil, List.append_nil]
    constructor
    · intro h
      exact ⟨fresh_nil _, (Except.ok.inj h).symm⟩
    · rintro ⟨-, h⟩
      rw [h]
      rfl
  | n :: names, d, d' => by
    simp only [List.foldlM_cons, bind_eq_ok, claim_eq_ok, List.map_cons, fresh_cons]
    constructor
    · rintro ⟨_, ⟨h, rfl⟩, hs⟩
      obtain ⟨hf, rfl⟩ := foldlM_claim_eq_ok.mp hs
      exact ⟨⟨h, hf⟩, by simp⟩
    · rintro ⟨⟨h, hf⟩, rfl⟩
      exact ⟨_, ⟨h, rfl⟩, foldlM_claim_eq_ok.mpr ⟨hf, by simp⟩⟩

theorem claimCommon_eq_ok :
    d.claimCommon c = .ok d' ↔
      Fresh d.claimed (commonMembers c) ∧
      d' = { d with claimed := d.claimed ++ commonMembers c } := by
  simp only [Draft.claimCommon, commonMembers, fresh_append, bind_eq_ok, foldlM_claim_eq_ok]
  split
  · constructor
    · rintro ⟨_, ⟨h, rfl⟩, he⟩
      obtain ⟨ht, rfl⟩ := claim_eq_ok.mp he
      exact ⟨⟨⟨h, fresh_nil _⟩, fresh_cons.mpr ⟨by simpa using ht, fresh_nil _⟩⟩, by simp⟩
    · rintro ⟨⟨⟨h, -⟩, ht⟩, rfl⟩
      refine ⟨_, ⟨h, rfl⟩, claim_eq_ok.mpr ⟨?_, by simp⟩⟩
      simpa using (fresh_cons.mp ht).1
  · constructor
    · rintro ⟨_, ⟨h, rfl⟩, he⟩
      obtain ⟨_, hd, he⟩ := bind_eq_ok.mp he
      obtain ⟨hφ, rfl⟩ := claim_eq_ok.mp hd
      obtain ⟨ht, rfl⟩ := claim_eq_ok.mp he
      exact ⟨⟨⟨h, fresh_cons.mpr ⟨hφ, fresh_nil _⟩⟩,
        fresh_cons.mpr ⟨by simpa using ht, fresh_nil _⟩⟩, by simp⟩
    · rintro ⟨⟨⟨h, hφ⟩, ht⟩, rfl⟩
      refine ⟨_, ⟨h, rfl⟩, bind_eq_ok.mpr ⟨_, claim_eq_ok.mpr ⟨(fresh_cons.mp hφ).1, rfl⟩, ?_⟩⟩
      exact claim_eq_ok.mpr ⟨by simpa using (fresh_cons.mp ht).1, by simp⟩

end FluentBuilders.Synthesis

/-! ## The finished plan -/

namespace FluentBuilders

open Synthesis

/-- The plan of a builder, member by member. -/
def Plan.drawn (c : Class) (k : ClassifiedConstructor) : Plan where
  builder := Name.builder c.name
  className := c.name
  package := c.package
  module := Name.moduleOf (Name.builder c.name)
  internal := c.isInternal
  typeParameters := c.typeParameters
  imports := (k.parameters.flatMap (importsOf c)).foldl addImport [Name.join c.package "*"]
  properties := k.parameters.map propertyOf
  setters := k.parameters.map setterOf
  functions := k.parameters.flatMap (functionsOf c)
  storages := k.parameters.flatMap storagesOf
  scopes := k.parameters.flatMap (scopesOf c)
  build :=
    { classType := c.selfType, constructor := k.function,
      arguments := k.parameters.map (·.name) }
  entry := { name := Name.entry c.displayName c.name, internal := c.isInternal }

/-- **What a builder plan is**: the drawn one, made exactly when no name is claimed twice and every
    nested function has a name. -/
theorem Plan.synthesize_eq_ok {c : Class} {k : ClassifiedConstructor} {S : Plan} :
    Plan.synthesize c k = .ok S ↔
      (k.parameters.flatMap membersOf ++ commonMembers c).Nodup ∧
      (∀ p ∈ k.parameters, namesNested p) ∧ S = Plan.drawn c k := by
  have hf : ∀ ms : List Member, Fresh [] ms ↔ ms.Nodup := by
    intro ms
    constructor
    · intro h
      exact h.1
    · intro h
      exact ⟨h, fun _ _ => List.not_mem_nil⟩
  simp only [Plan.synthesize, bind_eq_ok, foldlM_addParameter_eq_ok, claimCommon_eq_ok]
  -- the draft at the end of the run is the drawn plan, but for the names it has claimed
  have hs : ∀ d : Draft,
      d = { k.parameters.foldl (Draft.extend c) (Draft.empty c) with
        claimed := (k.parameters.foldl (Draft.extend c) (Draft.empty c)).claimed
          ++ commonMembers c } →
      d.finish c k.function = Plan.drawn c k := by
    rintro d rfl
    rw [foldl_extend]
    simp [Draft.finish, Draft.empty, Plan.drawn, propertyOf, Function.comp_def]
  rw [← hf, fresh_append]
  constructor
  · rintro ⟨_, ⟨h, hn, rfl⟩, d, ⟨hc, hd⟩, he⟩
    rw [foldl_extend] at hc
    exact ⟨⟨h, hc⟩, hn, by rw [← hs d hd]; exact (Except.ok.inj he).symm⟩
  · rintro ⟨⟨h, hc⟩, hn, rfl⟩
    refine ⟨_, ⟨h, hn, rfl⟩, _, ⟨?_, rfl⟩, by rw [hs _ rfl]⟩
    rw [foldl_extend]
    exact hc

namespace Synthesis

/-! ## Imports and properties of the finished plan -/

theorem mem_foldl_addImport {x : String} : ∀ {xs imports : List String},
    x ∈ xs.foldl addImport imports ↔ x ∈ imports ∨ x ∈ xs
  | [], imports => by simp
  | y :: xs, imports => by
    rw [List.foldl_cons, mem_foldl_addImport, addImport]
    split
    · rename_i hy
      rw [List.contains_iff_mem] at hy
      constructor
      · rintro (h | h)
        · exact .inl h
        · exact .inr (List.mem_cons_of_mem _ h)
      · rintro (h | h)
        · exact .inl h
        · rcases List.mem_cons.mp h with rfl | h
          · exact .inl hy
          · exact .inr h
    · simp [or_assoc]

/-- Imports that are there stay where they are; only new ones come behind them. -/
theorem foldl_addImport_eq : ∀ (xs imports : List String),
    ∃ rest, xs.foldl addImport imports = imports ++ rest ∧ ∀ x ∈ rest, x ∈ xs
  | [], imports => ⟨[], by simp, fun _ h => h⟩
  | y :: xs, imports => by
    obtain ⟨rest, hr, hm⟩ := foldl_addImport_eq xs (addImport imports y)
    rw [List.foldl_cons, hr, addImport]
    split
    · exact ⟨rest, rfl, fun x hx => List.mem_cons_of_mem _ (hm x hx)⟩
    · refine ⟨y :: rest, by simp, fun x hx => ?_⟩
      rcases List.mem_cons.mp hx with rfl | hx
      · exact List.mem_cons_self
      · exact List.mem_cons_of_mem _ (hm x hx)

/-- The first import opens the package, and each one behind it is asked for by a parameter. -/
theorem drawn_imports (c : Class) (k : ClassifiedConstructor) :
    ∃ rest, (Plan.drawn c k).imports = Name.join c.package "*" :: rest ∧
      ∀ path ∈ rest, ∃ p ∈ k.parameters, path ∈ importsOf c p := by
  obtain ⟨rest, hr, hm⟩ := foldl_addImport_eq (k.parameters.flatMap (importsOf c))
    [Name.join c.package "*"]
  exact ⟨rest, hr, fun path hp => List.mem_flatMap.mp (hm path hp)⟩

/-- An accepted constructor has no two parameters of one name. -/
theorem nodup_names_of_members : ∀ {ps : List ClassifiedParameter},
    (ps.flatMap membersOf).Nodup → (ps.map (·.name)).Nodup
  | [], _ => List.nodup_nil
  | p :: ps, h => by
    rw [List.flatMap_cons, List.nodup_append] at h
    obtain ⟨-, hps, hdis⟩ := h
    refine List.nodup_cons.mpr ⟨?_, nodup_names_of_members hps⟩
    intro hp
    -- both parameters would claim one field
    obtain ⟨q, hq, hqp⟩ := List.mem_map.mp hp
    have hmp : (⟨.field, p.name⟩ : Member) ∈ membersOf p := by simp [membersOf]
    have hmq : (⟨.field, p.name⟩ : Member) ∈ membersOf q := by simp [membersOf, hqp]
    exact hdis _ hmp _ (List.mem_flatMap.mpr ⟨q, hq, hmq⟩) rfl

end Synthesis

end FluentBuilders
