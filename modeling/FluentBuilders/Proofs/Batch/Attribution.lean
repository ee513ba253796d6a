/-
  Attribution — whom a rejection is reported against.

  A stage knows the class that it works on by its name, and makes its rejections of that name and of
  the parameters that it looks at.  So what is to be said of all stages together is said of each of
  them for itself (`Attributed`), with the name of the class and what counts as one of its
  parameters left open, and then the stages are chained.

  One kind of rejection does not name the class.  Where names collide, be it within a builder or
  between the builders of a batch, the builder that the class would have had is named in its place.
-/
import FluentBuilders.Proofs.Batch.Accounts
import FluentBuilders.Proofs.Builder.Members

namespace FluentBuilders

/-- What a rejection of a class is reported against: the class, or its builder if names collide. -/
def Rejection.subjectFor (className : String) : Rejection → String
  | .nameCollision _ _ => Name.builder className
  | _ => className

/-- A rejection belongs to a class with certain parameters. -/
structure Attributed (className : String) (isParameter : String → Prop) (r : Rejection) : Prop where
  subject : r.subject = r.subjectFor className
  parameter : ∀ p, r.parameter? = some p → isParameter p

variable {className function name : String} {known : String → Prop} {r : Rejection}

theorem attributed_of_none (hs : r.subject = r.subjectFor className) (hp : r.parameter? = none) :
    Attributed className known r := by
  refine ⟨hs, fun p h => ?_⟩
  cases hp.symm.trans h

theorem attributed_of_some (hs : r.subject = r.subjectFor className) (hp : r.parameter? = some name)
    (hn : known name) : Attributed className known r := by
  refine ⟨hs, fun p h => ?_⟩
  cases hp.symm.trans h
  exact hn

/-- Whatever an outcome fails with belongs to a class. -/
abbrev Blames (className : String) (known : String → Prop) {α : Type}
    (x : Except Rejection α) : Prop :=
  FailsWith (Attributed className known) x

/-! ## Reading -/

namespace Class

open Descriptor

/-- A bad name is blamed on the class that it is checked for. -/
theorem blames_checkName {role : NameRole} {good : String → Bool} :
    Blames className known (checkName className name role good) := by
  rw [checkName]
  split
  · exact failsWith_ok _
  · exact failsWith_error (attributed_of_none rfl rfl)

theorem blames_checkTypeParameter (p : TypeParameter) :
    Blames className known (checkTypeParameter className p) := by
  refine failsWith_bind blames_checkName fun _ _ => ?_
  split
  · exact failsWith_error (attributed_of_none rfl rfl)
  · exact failsWith_ok _

theorem blames_readTypeParameters : ∀ ps : List TypeParameter,
    Blames className known (readTypeParameters className ps).2
  | [] => failsWith_ok _
  | p :: ps => by
    rw [readTypeParameters]
    split
    · rename_i r h
      exact failsWith_error (blames_checkTypeParameter p r h)
    · exact blames_readTypeParameters ps

theorem blames_readParameter {seen : List String} {p : ParameterEntry} (m : ParameterMetadata)
    (hp : known p.name) : Blames className known (readParameter className function seen p m) := by
  rw [readParameter]
  split
  · exact failsWith_error (attributed_of_none rfl rfl)
  split
  · exact failsWith_error (attributed_of_some rfl rfl hp)
  split
  · exact failsWith_error (attributed_of_some rfl rfl hp)
  split
  · exact failsWith_error (attributed_of_some rfl rfl hp)
  · exact failsWith_ok _

/-- Parameters that cannot be read are blamed on the class, by names that it declares. -/
theorem blames_readParameters : ∀ {seen : List String} {ps : List ParameterEntry}
    {ms : List ParameterMetadata}, (∀ p ∈ ps, known p.name) →
      Blames className known (readParameters className function seen ps ms)
  | _, [], _, _ => failsWith_ok _
  | _, _ :: _, [], _ => failsWith_ok _
  | _, p :: ps, m :: ms, h => by
    obtain ⟨hp, hps⟩ := List.forall_mem_cons.mp h
    refine failsWith_bind (blames_readParameter m hp) fun _ _ => ?_
    refine failsWith_bind (blames_readParameters hps) fun _ _ => ?_
    exact failsWith_ok _

theorem blames_readConstructor {c : ConstructorEntry} (m : ConstructorMetadata)
    (h : ∀ p ∈ c.parameters, known p.name) :
    Blames className known (readConstructor className c m) := by
  refine failsWith_bind blames_checkName fun _ _ => ?_
  split
  · exact failsWith_error (attributed_of_none rfl rfl)
  · refine failsWith_bind (blames_readParameters h) fun _ _ => ?_
    exact failsWith_ok _

theorem blames_readConstructors : ∀ {cs : List ConstructorEntry} {ms : List ConstructorMetadata},
    (∀ c ∈ cs, ∀ p ∈ c.parameters, known p.name) →
      Blames className known (readConstructors className cs ms)
  | [], _, _ => failsWith_ok _
  | _ :: _, [], _ => failsWith_ok _
  | c :: cs, m :: ms, h => by
    obtain ⟨hc, hcs⟩ := List.forall_mem_cons.mp h
    refine failsWith_bind (blames_readConstructor m hc) fun _ _ => ?_
    refine failsWith_bind (blames_readConstructors hcs) fun _ _ => ?_
    exact failsWith_ok _

/-- A class entry with a bad name is blamed by its own name. -/
theorem blames_checkNames (e : ClassEntry) : Blames e.name known (checkNames e) := by
  refine failsWith_bind blames_checkName fun _ _ => ?_
  refine failsWith_bind blames_checkName fun _ _ => ?_
  split
  · exact blames_checkName
  · exact failsWith_ok _

/-- **Reading a class** fails with a rejection of that class. -/
theorem blames_read {e : ClassEntry} (h : ∀ c ∈ e.constructors, ∀ p ∈ c.parameters, known p.name) :
    Blames e.name known (read e).2 := by
  unfold read
  split
  · exact failsWith_error (attributed_of_none rfl rfl)
  rename_i m hm
  split
  · rename_i r hr
    exact failsWith_error (blames_checkNames e r hr)
  split
  · rename_i notices r hr
    exact failsWith_error (blames_readTypeParameters m.typeParameters r (by rw [hr]))
  show FailsWith _ (readBody e m)
  rw [readBody]
  split
  · exact failsWith_error (attributed_of_none rfl rfl)
  · refine failsWith_bind (blames_readConstructors h) fun _ _ => ?_
    exact failsWith_ok _

/-! ## Eligibility -/

theorem blames_checkEligible (c : Class) : Blames c.name known c.checkEligible := by
  rw [Class.checkEligible]
  split
  · exact failsWith_error (attributed_of_none rfl rfl)
  · exact failsWith_ok _

end Class

theorem blames_choose (cs : List Constructor) :
    Blames className known (Constructor.choose className cs) := by
  unfold Constructor.choose
  split
  · exact failsWith_ok _
  · exact failsWith_error (attributed_of_none rfl rfl)
  · split
    · split
      · exact failsWith_ok _
      · exact failsWith_error (attributed_of_none rfl rfl)
    · exact failsWith_error (attributed_of_none rfl rfl)

theorem Constructor.blames_checkEligible (c : Constructor) :
    Blames className known (c.checkEligible className) := by
  rw [Constructor.checkEligible]
  split
  · exact failsWith_ok _
  · exact failsWith_error (attributed_of_none rfl rfl)

/-! ## Classification -/

variable {k : Catalogue} {p : Parameter}

/-- A container that cannot be found is reported as it was asked to be. -/
theorem failsWith_containerFor {P : Rejection → Prop} {shape : Option Shape}
    {override : Option Descriptor.CollectionOverride} {unresolvable : Option String → Rejection}
    (h : ∀ wanted, P (unresolvable wanted)) :
    FailsWith P (k.containerFor shape override unresolvable) := by
  rw [Catalogue.containerFor]
  split
  · split
    · exact failsWith_ok _
    · exact failsWith_error (h _)
  · split
    · exact failsWith_ok _
    · exact failsWith_error (h none)

theorem blames_collection {shape : Option Shape} (hp : known p.name) :
    Blames className known (p.collection className k shape) := by
  rw [Parameter.collection]
  split
  · exact failsWith_error (attributed_of_some rfl rfl hp)
  · refine failsWith_bind (failsWith_containerFor fun wanted => ?_) fun _ _ => failsWith_ok _
    exact attributed_of_some rfl rfl hp

theorem blames_classify (hp : known p.name) : Blames className known (p.classify className k) := by
  refine failsWith_bind ?_ fun _ _ => failsWith_ok _
  rw [Parameter.category]
  split
  · exact failsWith_ok _
  · split
    · exact failsWith_ok _
    · exact failsWith_map (blames_collection hp)

/-- A constructor that cannot be classified is blamed on the class, by a parameter of it. -/
theorem Constructor.blames_classify {c : Constructor} (h : ∀ p ∈ c.parameters, known p.name) :
    Blames className known (c.classify className k) := by
  refine failsWith_bind ?_ fun _ _ => failsWith_ok _
  exact failsWith_mapM fun p hp => FluentBuilders.blames_classify (h p hp)

/-! ## Synthesis -/

/-- **Synthesis** fails for a name: one that collides, or one of a nested function that is none. -/
theorem blames_synthesize (c : Class) (kc : ClassifiedConstructor) :
    Blames c.name known (Plan.synthesize c kc) := by
  intro r h
  rcases Synthesis.synthesize_eq_error h with ⟨space, member, rfl, -⟩ | ⟨n, -, -, rfl⟩
  · exact attributed_of_none rfl rfl
  · exact attributed_of_none rfl rfl

namespace Batch

open Descriptor (ClassEntry)

variable {e : ClassEntry} {s : Pass}

/-! ## A whole target -/

/-- A parameter of one of the constructors that a class declares. -/
def IsParameterOf (e : ClassEntry) (name : String) : Prop :=
  ∃ c ∈ e.constructors, ∃ p ∈ c.parameters, p.name = name

/-- The parameters that are left after reading are declared ones. -/
theorem isParameterOf_of_read {f : Class.Facts} (h : (Class.read e).2 = .ok f) :
    ∀ c ∈ f.constructors, ∀ p ∈ c.parameters, IsParameterOf e p.name := by
  obtain ⟨m, -, -, hcs, -⟩ := Class.read_facts h
  intro c hc p hp
  rw [hcs] at hc
  obtain ⟨i, hi⟩ := List.mem_iff_getElem?.mp hc
  obtain ⟨c', v, hci, -, rfl⟩ := List.getElem?_zipWith_eq_some.mp hi
  obtain ⟨j, hj⟩ := List.mem_iff_getElem?.mp hp
  obtain ⟨p', w, hpj, -, rfl⟩ := List.getElem?_zipWith_eq_some.mp hj
  exact ⟨c', List.mem_of_getElem? hci, p', List.mem_of_getElem? hpj, rfl⟩

/-- What fails behind the reading is blamed on the class that was read. -/
theorem blames_planOf {f : Class.Facts}
    (h : ∀ c ∈ f.constructors, ∀ p ∈ c.parameters, known p.name) :
    Blames f.subject.name known (planOf k f) := by
  refine failsWith_bind (Class.blames_checkEligible f.subject) fun _ _ => ?_
  refine failsWith_bind (blames_choose f.constructors) fun c hc => ?_
  refine failsWith_bind c.blames_checkEligible fun _ _ => ?_
  -- the chosen constructor is one of those that were read
  obtain ⟨i, hi, -⟩ := Class.choose_eq_ok hc
  refine failsWith_bind (Constructor.blames_classify (h c (List.mem_of_getElem? hi))) fun _ _ => ?_
  exact blames_synthesize f.subject _

/-- **Every stage blames the class that it is run for**, by parameters of its entry alone. -/
theorem blames_process (k : Catalogue) (e : ClassEntry) :
    Blames e.name (IsParameterOf e) (process k e).2 := by
  refine failsWith_bind (Class.blames_read fun c hc p hp => ⟨c, hc, p, hp, rfl⟩) fun f hf => ?_
  have hplan : Blames f.subject.name (IsParameterOf e) (planOf k f) :=
    blames_planOf (isParameterOf_of_read hf)
  rwa [(read_eq_ok hf).1] at hplan

/-- **The outcome of a target**: if it is a rejection, it belongs to the class, whether the class
    could not be planned or its plan found a name taken. -/
theorem blames_verdict (k : Catalogue) (s : Pass) (e : ClassEntry) :
    Blames e.name (IsParameterOf e) (s.verdict k e) := by
  cases hp : (process k e).2 with
  | error r =>
    rw [verdict_of_error hp]
    exact failsWith_error (blames_process k e r hp)
  | ok S =>
    have htaken : ∀ n, Blames e.name (IsParameterOf e) (taken S n : Except Rejection Plan) := by
      intro n
      exact failsWith_error (attributed_of_none (process_names hp).1 rfl)
    rw [verdict_of_ok hp]
    split
    · exact htaken S.module
    · split
      · exact htaken S.entry.name
      · exact failsWith_ok S

/-- A notice is about the class that is read. -/
theorem className_of_notice {n : Notice} (h : n ∈ (Class.read e).1) : n.className = e.name := by
  obtain ⟨p, -, rfl⟩ := List.mem_map.mp ((notices_isPrefix e).subset h)
  rfl

/-- The builder of a class does not have the name of the class. -/
theorem builder_ne_self (className : String) : Name.builder className ≠ className := by
  intro h
  have hlen := congrArg String.length h
  rw [Name.builder, String.length_append] at hlen
  have hpos : 0 < "Builder".length := by decide
  omega

/-- What a rejection says about the class that it belongs to. -/
structure Concerns (e : ClassEntry) (r : Rejection) : Prop where
  /-- It names the class, unless it is about names that collide. -/
  subject : r.subject = e.name ↔ ∀ builder member, r ≠ .nameCollision builder member
  /-- Where names collide, it names the builder of the class. -/
  collision : ∀ builder member, r = .nameCollision builder member →
    builder = Name.builder e.name
  /-- What is reported and what is warned of is about whatever the rejection names. -/
  diagnostic : (Diagnostic.rejected r).subject = r.subject
  warning : (Warning.ofDiagnostic (.rejected r)).className = r.subject
  /-- A parameter that it names is declared by the class. -/
  parameter : ∀ p, r.parameter? = some p → IsParameterOf e p

/-- A rejection that is attributed to an entry concerns it. -/
theorem concerns_of_attributed {r : Rejection} (h : Attributed e.name (IsParameterOf e) r) :
    Concerns e r where
  subject := by
    rw [h.subject]
    cases r with
    | nameCollision builder member =>
      constructor
      · intro hs
        exact absurd hs (builder_ne_self e.name)
      · intro hn
        exact absurd rfl (hn builder member)
    | _ =>
      constructor
      · intro _ builder member hc
        cases hc
      · intro _
        rfl
  collision := by
    rintro builder member rfl
    exact h.subject
  diagnostic := rfl
  warning := rfl
  parameter := h.parameter

/-- **Whom a rejection names.**  Whatever a target is rejected for, the rejection and all that is
    made of it name the class of the target and one of its parameters, except that a collision of
    names is reported against the builder; and the notices on the way name the class. -/
theorem rejection_concerns_class (k : Catalogue) (s : Pass) (e : ClassEntry) (r : Rejection)
    (h : (s.step k e).outcomes = s.outcomes ++ [.error r]) :
    Concerns e r ∧ ∃ notices : List Notice, (∀ n ∈ notices, n.className = e.name) ∧
      (s.step k e).diagnostics
        = s.diagnostics ++ (notices.map Diagnostic.noticed ++ [Diagnostic.rejected r]) := by
  have hv : s.verdict k e = .error r := by
    rw [(step_eq k s e).1] at h
    exact List.singleton_inj.mp (List.append_cancel_left h)
  refine ⟨concerns_of_attributed (blames_verdict k s e r hv), (Class.read e).1, ?_, ?_⟩
  · intro n hn
    exact className_of_notice hn
  · rw [diagnostics_step, hv]
    rfl

/-- A class whose constructor has two parameters of one name. -/
def repeating : ClassEntry := smallClass "A" "m" "" .final [("b", "B"), ("b", "B")]

theorem rejection_concerns_class_repeating :
    ∃ r, (Pass.step (.ofDescriptor { version := 1, classes := [repeating] } "s") {}
        repeating).outcomes = [] ++ [.error r] ∧ r.parameter? = some "b" ∧ r.subject = "A" ∧
      IsParameterOf repeating "b" := by
  have h : (Pass.step (.ofDescriptor { version := 1, classes := [repeating] } "s") {}
      repeating).outcomes = [] ++ [.error (.invalidParameter "A" "b" .repeated)] := by rfl
  obtain ⟨hc, -⟩ := rejection_concerns_class _ _ _ _ h
  exact ⟨_, h, rfl, hc.subject.mpr fun _ _ => Rejection.noConfusion, hc.parameter "b" rfl⟩

/-- Two classes of one name, whose builders would be in one module. -/
def twins : Descriptor where
  version := 1
  classes := [smallClass "A" "m" "" .final [], smallClass "A" "n" "" .final []]

/-- **A rejection that does not name its class**: the second class is rejected under the name of its
    builder, and so is the warning about it. -/
theorem collision_names_builder :
    ∃ e r, (Selection.apply {} twins).targets[1]? = some e ∧
      (finalPass twins {} "s").outcomes[1]? = some (.error r) ∧ r.subject ≠ e.name ∧
      ∃ w ∈ (synthesize twins {} "s").statistics.warnings, w.isSkip = true ∧
        w.className ≠ e.name := by
  have hr : (finalPass twins {} "s").outcomes[1]?.bind rejection?
      = some (.nameCollision "ABuilder" "abuilder") := by decide +kernel
  have hw : (synthesize twins {} "s").statistics.warnings
      = [.rejected "ABuilder" "`ABuilder` would declare `abuilder` more than once"] := by
    decide +kernel
  obtain ⟨o, ho, hor⟩ := Option.bind_eq_some_iff.mp hr
  cases o with
  | ok S => cases hor
  | error r =>
    cases hor
    refine ⟨smallClass "A" "n" "" .final [], _, rfl, ho, by decide, ?_⟩
    rw [hw]
    exact ⟨_, List.mem_singleton.mpr rfl, rfl, by decide⟩

end Batch

end FluentBuilders
