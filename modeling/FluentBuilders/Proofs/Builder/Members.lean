/-
  Members — which names a builder declares, and that it is rejected exactly when two of them
  collide.

  Names are claimed one by one, in the order of the parameters, and the names that every builder
  has come last.  What a plan needs can be said without that order: three lists of names, one for
  each space, none of which has a name twice (`namesIn`).  The two views meet in how often a name
  is claimed (`count_namesIn`).

  A run over names that stops has met one that was claimed before (`Clash`), so the name that is
  reported is in its list at least twice.
-/
import FluentBuilders.Proofs.Builder.Drafting
import Mathlib.Data.List.Nodup

namespace FluentBuilders.Synthesis

/-! ## The names of a builder -/

/-- The name of the function that a nested parameter adds. -/
def nestedName? (p : ClassifiedParameter) : Option String :=
  match p.category with
  | .nested b => some (b.displayName.getD p.name)
  | _ => none

/-- The names of the functions that run nested builders. -/
def nestedNames (ps : List ClassifiedParameter) : List String := ps.filterMap nestedName?

/-- Whether the elements of a parameter are added to the builder itself. -/
def isInline (p : ClassifiedParameter) : Bool :=
  match p.category with
  | .collection k => k.inline
  | _ => false

/-- Whether the elements of a parameter are added to a scope. -/
def isScoped (p : ClassifiedParameter) : Bool :=
  match p.category with
  | .collection k => !k.inline
  | _ => false

/-- The names that the builder of a class with these parameters declares in a space. -/
def namesIn (c : Class) (ps : List ClassifiedParameter) : Space → List String
  | .field =>
    ps.map (·.name) ++ (ps.filter isInline).map (fun p => Name.storage p.name)
      ++ if c.typeParameters.isEmpty then [] else [phantomField]
  | .method =>
    ps.map (fun p => Name.mutator p.name) ++ ps.map (fun p => Name.setter p.name)
      ++ nestedNames ps ++ (ps.filter isScoped).map (·.name)
      ++ (ps.filter isInline).map (fun p => Name.insert p.name) ++ commonMethods
  | .type => (ps.filter isScoped).map (fun p => Name.scope p.name) ++ [Name.builder c.name]

variable {c : Class} {d d' : Draft} {p : ClassifiedParameter} {ps : List ClassifiedParameter}
  {k : ClassifiedConstructor} {builder name : String} {space : Space} {r : Rejection}

/-- The names that come with every builder of a class. -/
theorem count_commonMembers (c : Class) (space : Space) (name : String) :
    (commonMembers c).count ⟨space, name⟩ = (namesIn c [] space).count name := by
  cases space <;> cases hc : c.typeParameters.isEmpty <;>
    simp [commonMembers, commonMethods, namesIn, nestedNames, List.count_cons, hc]

/-- The names that one more parameter declares. -/
theorem count_membersOf (c : Class) (p : ClassifiedParameter) (ps : List ClassifiedParameter)
    (space : Space) (name : String) :
    (namesIn c (p :: ps) space).count name
      = (membersOf p).count ⟨space, name⟩ + (namesIn c ps space).count name := by
  cases hp : p.category with
  | plain =>
    cases space <;>
      simp [namesIn, nestedNames, nestedName?, isInline, isScoped, membersOf, hp,
        List.count_cons] <;> omega
  | nested b =>
    cases space <;>
      simp [namesIn, nestedNames, nestedName?, isInline, isScoped, membersOf, hp,
        List.count_cons] <;> omega
  | collection k =>
    cases hk : k.inline <;> cases space <;>
      simp [namesIn, nestedNames, nestedName?, isInline, isScoped, membersOf, hp, hk,
        List.count_cons] <;> omega

/-- **A name is claimed as often as it is declared.** -/
theorem count_namesIn (c : Class) (space : Space) (name : String) :
    ∀ ps : List ClassifiedParameter,
      (ps.flatMap membersOf ++ commonMembers c).count ⟨space, name⟩
        = (namesIn c ps space).count name
  | [] => count_commonMembers c space name
  | p :: ps => by
    have ih := count_namesIn c space name ps
    rw [count_membersOf, List.flatMap_cons, List.append_assoc, List.count_append, ih]

/-! ## Names that are taken -/

/-- Claiming names in order stops at one of them, which was claimed before. -/
def Clash (builder : String) (claimed ms : List Member) (r : Rejection) : Prop :=
  ∃ before m after, ms = before ++ m :: after ∧ m ∈ claimed ++ before ∧
    r = .nameCollision builder m.name

theorem Clash.append_right {claimed xs : List Member} (h : Clash builder claimed xs r)
    (ys : List Member) : Clash builder claimed (xs ++ ys) r := by
  obtain ⟨before, m, after, rfl, hm, hr⟩ := h
  exact ⟨before, m, after ++ ys, by simp, hm, hr⟩

theorem Clash.append_left {claimed xs ys : List Member}
    (h : Clash builder (claimed ++ xs) ys r) : Clash builder claimed (xs ++ ys) r := by
  obtain ⟨before, m, after, rfl, hm, hr⟩ := h
  exact ⟨xs ++ before, m, after, by simp, by simpa using hm, hr⟩

theorem clash_singleton {claimed : List Member} {m : Member} (h : m ∈ claimed) :
    Clash builder claimed [m] (.nameCollision builder m.name) :=
  ⟨[], m, [], rfl, by simpa using h, rfl⟩

/-- The name at which claiming stops occurs twice among those to be claimed. -/
theorem Clash.two_le_count {ms : List Member} (h : Clash builder [] ms r) :
    ∃ m, r = .nameCollision builder m.name ∧ 2 ≤ ms.count m := by
  obtain ⟨before, m, after, rfl, hm, hr⟩ := h
  have hbefore : 0 < before.count m := List.count_pos_iff.mpr hm
  refine ⟨m, hr, ?_⟩
  rw [List.count_append, List.count_cons_self]
  omega

/-- A name cannot be claimed if it is claimed already, and the rejection says which. -/
theorem claim_eq_error :
    d.claim builder space name = .error r ↔
      ⟨space, name⟩ ∈ d.claimed ∧ r = .nameCollision builder name := by
  unfold Draft.claim
  split
  · rename_i h
    rw [List.contains_iff_mem] at h
    constructor
    · intro e
      cases e
      exact ⟨h, rfl⟩
    · rintro ⟨-, rfl⟩
      rfl
  · rename_i h
    rw [List.contains_iff_mem] at h
    constructor
    · intro e
      cases e
    · rintro ⟨hm, -⟩
      exact absurd hm h

/-- A name that cannot be claimed clashes with those before. -/
theorem clash_of_claim (h : d.claim builder space name = .error r) :
    Clash builder d.claimed [⟨space, name⟩] r := by
  obtain ⟨hm, rfl⟩ := claim_eq_error.mp h
  exact clash_singleton hm

/-- Names that are claimed one after the other: either the first of them is taken, or it is claimed
    and a later one is taken. -/
theorem clash_of_claim_bind {α : Type} {f : Draft → Except Rejection α} {ms : List Member}
    (h : d.claim builder space name >>= f = .error r)
    (hf : ∀ e : Draft, e.claimed = d.claimed ++ [⟨space, name⟩] → f e = .error r →
      Clash builder e.claimed ms r) :
    Clash builder d.claimed (⟨space, name⟩ :: ms) r := by
  rcases bind_eq_error.mp h with h | ⟨e, he, h⟩
  · exact (clash_of_claim h).append_right ms
  · obtain ⟨-, rfl⟩ := claim_eq_ok.mp he
    have hclash : Clash builder (d.claimed ++ [⟨space, name⟩]) ms r := hf _ rfl h
    exact hclash.append_left

/-! ## Why a parameter is not let in -/

/-- A nested function would have a name that is none. -/
def Unnamed (c : Class) (ps : List ClassifiedParameter) (r : Rejection) : Prop :=
  ∃ n ∈ nestedNames ps, Name.isIdentifier n = false ∧ r = .invalidName c.name n .displayName

/-- A property that cannot be drafted clashes by one of its three names. -/
theorem clash_of_addProperty (h : d.addProperty builder p = .error r) :
    Clash builder d.claimed [⟨.field, p.name⟩, ⟨.method, Name.mutator p.name⟩,
      ⟨.method, Name.setter p.name⟩] r := by
  refine clash_of_claim_bind h fun e _ h => ?_
  refine clash_of_claim_bind h fun e _ h => ?_
  refine clash_of_claim_bind h fun e _ h => ?_
  cases h

/-- A nested function that cannot be drafted clashes, or has a name that cannot be declared. -/
theorem clash_of_addNested {b : BuilderRef} (h : d.addNested c p b = .error r) :
    Clash (Name.builder c.name) d.claimed [⟨.method, b.displayName.getD p.name⟩] r ∨
      Name.isIdentifier (b.displayName.getD p.name) = false ∧
        r = .invalidName c.name (b.displayName.getD p.name) .displayName := by
  rw [Draft.addNested] at h
  split at h
  · rename_i hid
    rw [Bool.not_eq_true'] at hid
    cases h
    exact .inr ⟨hid, rfl⟩
  · refine .inl (clash_of_claim_bind h fun e _ h => ?_)
    cases h

/-- An inserting function that cannot be drafted clashes by its name or that of its storage. -/
theorem clash_of_addInsert {k : Collection} (h : d.addInsert builder p k = .error r) :
    Clash builder d.claimed [⟨.method, Name.insert p.name⟩, ⟨.field, Name.storage p.name⟩] r := by
  refine clash_of_claim_bind h fun e _ h => ?_
  refine clash_of_claim_bind h fun e _ h => ?_
  cases h

/-- A scope function that cannot be drafted clashes by its name or that of its scope type. -/
theorem clash_of_addScope {k : Collection} (h : d.addScope c p k = .error r) :
    Clash (Name.builder c.name) d.claimed [⟨.method, p.name⟩, ⟨.type, Name.scope p.name⟩] r := by
  refine clash_of_claim_bind h fun e _ h => ?_
  refine clash_of_claim_bind h fun e _ h => ?_
  cases h

/-- **Why one parameter is not let in.** -/
theorem clash_of_addParameter (h : d.addParameter c p = .error r) :
    Clash (Name.builder c.name) d.claimed (membersOf p) r ∨ Unnamed c [p] r := by
  rcases bind_eq_error.mp h with h | ⟨e, he, h⟩
  · exact .inl ((clash_of_addProperty h).append_right _)
  -- the property is there; what the category adds comes behind it
  obtain ⟨-, rfl⟩ := addProperty_eq_ok.mp he
  cases hp : p.category with
  | plain =>
    rw [hp] at h
    cases h
  | nested b =>
    rw [hp] at h
    rcases clash_of_addNested h with h | ⟨hid, hr⟩
    · refine .inl ?_
      rw [membersOf, hp]
      exact h.append_left
    · have hname : nestedName? p = some (b.displayName.getD p.name) := by rw [nestedName?, hp]
      exact .inr ⟨_, List.mem_filterMap.mpr ⟨p, List.mem_singleton.mpr rfl, hname⟩, hid, hr⟩
  | collection k =>
    rw [hp] at h
    refine .inl ?_
    rw [membersOf, hp]
    cases hk : k.inline with
    | true =>
      simp only [hk, if_true] at h ⊢
      exact (clash_of_addInsert h).append_left
    | false =>
      simp only [hk, Bool.false_eq_true, if_false] at h ⊢
      exact (clash_of_addScope h).append_left

/-- The run over the parameters stops at the first of them that is not let in. -/
theorem clash_of_foldlM_addParameter : ∀ {ps : List ClassifiedParameter} {d : Draft},
    ps.foldlM (fun d p => d.addParameter c p) d = .error r →
      Clash (Name.builder c.name) d.claimed (ps.flatMap membersOf) r ∨ Unnamed c ps r
  | [], d, h => by cases h
  | p :: ps, d, h => by
    rw [List.foldlM_cons] at h
    rw [List.flatMap_cons]
    rcases bind_eq_error.mp h with h | ⟨e, he, h⟩
    · rcases clash_of_addParameter h with h | ⟨n, hn, hr⟩
      · exact .inl (h.append_right _)
      · obtain ⟨q, hq, hqn⟩ := List.mem_filterMap.mp hn
        rw [List.mem_singleton.mp hq] at hqn
        exact .inr ⟨n, List.mem_filterMap.mpr ⟨p, List.mem_cons_self, hqn⟩, hr⟩
    · obtain ⟨-, -, rfl⟩ := addParameter_eq_ok.mp he
      rcases clash_of_foldlM_addParameter h with h | ⟨n, hn, hr⟩
      · exact .inl h.append_left
      · obtain ⟨q, hq, hqn⟩ := List.mem_filterMap.mp hn
        exact .inr ⟨n, List.mem_filterMap.mpr ⟨q, List.mem_cons_of_mem _ hq, hqn⟩, hr⟩

theorem clash_of_foldlM_claim : ∀ {names : List String} {d : Draft},
    names.foldlM (fun d name => d.claim builder space name) d = .error r →
      Clash builder d.claimed (names.map (⟨space, ·⟩)) r
  | [], d, h => by cases h
  | n :: names, d, h => by
    rw [List.foldlM_cons] at h
    exact clash_of_claim_bind h fun e _ h => clash_of_foldlM_claim h

/-- **Why the names of every builder cannot be claimed.** -/
theorem clash_of_claimCommon (h : d.claimCommon c = .error r) :
    Clash (Name.builder c.name) d.claimed (commonMembers c) r := by
  rw [commonMembers]
  rcases bind_eq_error.mp h with h | ⟨e, he, h⟩
  · exact ((clash_of_foldlM_claim h).append_right _).append_right _
  obtain ⟨-, rfl⟩ := foldlM_claim_eq_ok.mp he
  cases hc : c.typeParameters.isEmpty with
  | true =>
    simp only [hc, if_true, List.append_nil] at h ⊢
    exact (clash_of_claim h).append_left
  | false =>
    simp only [hc, Bool.false_eq_true, if_false] at h ⊢
    rw [List.append_assoc]
    exact (clash_of_claim_bind h fun e _ h => clash_of_claim h).append_left

/-! ## Rejected builders -/

/-- All nested functions can be declared if their names can. -/
theorem forall_namesNested_iff :
    (∀ p ∈ ps, namesNested p) ↔ ∀ n ∈ nestedNames ps, Name.isIdentifier n = true := by
  have hone : ∀ p, namesNested p ↔ ∀ n, nestedName? p = some n → Name.isIdentifier n = true := by
    intro p
    rw [namesNested, nestedName?]
    cases p.category <;> simp
  constructor
  · intro h n hn
    obtain ⟨p, hp, hpn⟩ := List.mem_filterMap.mp hn
    exact (hone p).mp (h p hp) n hpn
  · intro h p hp
    exact (hone p).mpr fun n hn => h n (List.mem_filterMap.mpr ⟨p, hp, hn⟩)

/-- No name is claimed twice exactly when no space has a name twice. -/
theorem nodup_members_iff :
    (ps.flatMap membersOf ++ commonMembers c).Nodup ↔ ∀ space, (namesIn c ps space).Nodup := by
  simp only [List.nodup_iff_count_le_one, ← count_namesIn]
  constructor
  · intro h space name
    exact h ⟨space, name⟩
  · rintro h ⟨space, name⟩
    exact h space name

/-- A rejected builder would declare a name twice in one of its spaces, or one that is none. -/
theorem synthesize_eq_error (h : Plan.synthesize c k = .error r) :
    (∃ space member, r = .nameCollision (Name.builder c.name) member ∧
      2 ≤ (namesIn c k.parameters space).count member) ∨ Unnamed c k.parameters r := by
  have hclash :
      Clash (Name.builder c.name) [] (k.parameters.flatMap membersOf ++ commonMembers c) r ∨
        Unnamed c k.parameters r := by
    rcases bind_eq_error.mp h with h | ⟨d, hd, h⟩
    · rcases clash_of_foldlM_addParameter h with h | h
      · exact .inl (h.append_right _)
      · exact .inr h
    · obtain ⟨-, -, rfl⟩ := foldlM_addParameter_eq_ok.mp hd
      rcases bind_eq_error.mp h with h | ⟨_, -, h⟩
      · refine .inl (Clash.append_left ?_)
        have hc := clash_of_claimCommon h
        rw [foldl_extend] at hc
        exact hc
      · cases h
  rcases hclash with hc | hu
  · obtain ⟨⟨space, member⟩, hr, hcount⟩ := hc.two_le_count
    rw [count_namesIn] at hcount
    exact .inl ⟨space, member, hr, hcount⟩
  · exact .inr hu

/-- **Colliding members are rejected, and nothing else is.**  A class with classified parameters has
    a builder exactly when every nested function can be named and no name is declared twice as a
    field, as a method or as a type.  What is reported otherwise is true: the name is declared at
    least twice in one space, or it is that of a nested function and is none. -/
theorem synthesize_iff_apart (c : Class) (k : ClassifiedConstructor) :
    ((∃ S, Plan.synthesize c k = .ok S) ↔
      (∀ n ∈ nestedNames k.parameters, Name.isIdentifier n = true) ∧
      (namesIn c k.parameters .field).Nodup ∧
      (namesIn c k.parameters .method).Nodup ∧
      (namesIn c k.parameters .type).Nodup) ∧
    ∀ r, Plan.synthesize c k = .error r →
      (∃ space member, r = .nameCollision (Name.builder c.name) member ∧
        2 ≤ (namesIn c k.parameters space).count member) ∨
      ∃ n ∈ nestedNames k.parameters, Name.isIdentifier n = false ∧
        r = .invalidName c.name n .displayName := by
  constructor
  · simp only [Plan.synthesize_eq_ok, nodup_members_iff, forall_namesNested_iff]
    constructor
    · rintro ⟨S, hspaces, hnested, -⟩
      exact ⟨hnested, hspaces .field, hspaces .method, hspaces .type⟩
    · rintro ⟨hnested, hfield, hmethod, htype⟩
      refine ⟨_, ?_, hnested, rfl⟩
      rintro (_ | _ | _)
      · exact hfield
      · exact hmethod
      · exact htype
  · intro r h
    exact synthesize_eq_error h

/-- A parameter next to an inline collection whose elements are stored under its name. -/
def tagged : ClassifiedConstructor where
  function := "new"
  parameters :=
    [{ name := "tags"
       type := { name := "Vec", arguments := [{ name := "String" }] }
       category := .collection
         { container := { name := "::std::vec::Vec" }
           inline := true
           element := { name := "String" }
           shape := .list
           overridden := false } },
     { name := "tags_items", type := { name := "u8" }, category := .plain }]

example (c : Class) :
    Plan.synthesize c tagged = .error (.nameCollision (Name.builder c.name) "tags_items") := by
  rfl

end FluentBuilders.Synthesis
