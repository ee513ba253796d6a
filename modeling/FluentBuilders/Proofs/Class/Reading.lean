/-
  Reading classes — which class entries can be read, and what the facts about a class owe to its two
  views.

  The checks are spread over loops within loops, each of which stops at its first flaw.  So each
  loop is said to end well exactly when the views that it goes through are consistent
  (`readParameters_eq_ok`, `readConstructors_eq_ok`), and the class is put together of these
  (`read_eq_ok_iff`).  The views are paired by position; consistent ones have the same length
  everywhere, so the facts are the two views zipped (`constructorOf`, `parameterOf`), and an index
  into the facts is an index into both views.

  The choice among the constructors is turned into a statement about indices (`IsCanonical`), which
  can be made of the declared view as well as of the facts.
-/
import FluentBuilders.Class.Eligibility
import FluentBuilders.Class.Reading
import FluentBuilders.Proofs.Outcome
import Mathlib.Data.List.TakeWhile
import Mathlib.Data.Option.Basic

namespace FluentBuilders

/-! ## Names in types -/

mutual

/-- The names in a type, at every depth. -/
def TypeRef.names : TypeRef → List String
  | ⟨name, arguments, _⟩ => name :: TypeRef.namesIn arguments

/-- The names in several types. -/
def TypeRef.namesIn : List TypeRef → List String
  | [] => []
  | t :: ts => t.names ++ TypeRef.namesIn ts

end

/-- Every name in a type is a path. -/
def TypeRef.Named (t : TypeRef) : Prop := ∀ n ∈ t.names, Name.isPath n = true

instance (t : TypeRef) : Decidable t.Named := inferInstanceAs (Decidable (∀ n ∈ t.names, _))

theorem forall_mem_namesIn {P : String → Prop} {ts : List TypeRef} :
    (∀ n ∈ TypeRef.namesIn ts, P n) ↔ ∀ t ∈ ts, ∀ n ∈ t.names, P n := by
  induction ts with
  | nil => simp [TypeRef.namesIn]
  | cons t ts ih => rw [TypeRef.namesIn, List.forall_mem_append, List.forall_mem_cons, ih]

mutual

/-- The search for a name that is no path finds nothing exactly where there is none. -/
theorem badName?_eq_none_iff : ∀ {t : TypeRef}, t.badName? = none ↔ t.Named
  | ⟨name, arguments, nullable⟩ => by
    rw [TypeRef.badName?, TypeRef.Named, TypeRef.names, List.forall_mem_cons, forall_mem_namesIn]
    by_cases h : Name.isPath name = true
    · rw [if_pos h, badNameIn?_eq_none_iff]
      exact (and_iff_right h).symm
    · rw [if_neg h]
      exact iff_of_false (Option.some_ne_none name) fun ha => h ha.1

theorem badNameIn?_eq_none_iff : ∀ {ts : List TypeRef},
    TypeRef.badNameIn? ts = none ↔ ∀ t ∈ ts, t.Named
  | [] => by simp [TypeRef.badNameIn?]
  | t :: ts => by
    rw [TypeRef.badNameIn?, Option.orElse_eq_none, badName?_eq_none_iff, badNameIn?_eq_none_iff,
      List.forall_mem_cons]

end

namespace Class

open Descriptor

variable {className function name : String}

theorem checkName_eq_ok {role : NameRole} {good : String → Bool} :
    checkName className name role good = .ok () ↔ good name = true := by
  rw [checkName]
  split
  · rename_i hg
    exact ⟨fun _ => hg, fun _ => rfl⟩
  · rename_i hg
    constructor
    · intro h
      cases h
    · intro h
      exact absurd h hg

/-! ## Parameters -/

/-- The parameter that two views of it make up. -/
def parameterOf (p : ParameterEntry) (m : ParameterMetadata) : Parameter where
  name := p.name
  type := { p.type with nullable := m.nullable }
  override := p.override

/-- Two views of the parameters of a constructor that can be put together: they name the same
    parameters in the same order, and so as many of them. -/
structure ConsistentParameters (ps : List ParameterEntry) (ms : List ParameterMetadata) :
    Prop where
  names : ps.map (·.name) = ms.map (·.name)
  identifiers : ∀ p ∈ ps, Name.isIdentifier p.name = true
  distinct : (ps.map (·.name)).Nodup
  types : ∀ p ∈ ps, p.type.Named

theorem consistentParameters_nil : ConsistentParameters [] [] where
  names := rfl
  identifiers := fun _ h => absurd h List.not_mem_nil
  distinct := List.nodup_nil
  types := fun _ h => absurd h List.not_mem_nil

/-- Two views of parameters are consistent if their first ones are, and the others, and the first
    name is not among the others. -/
theorem consistentParameters_cons {p : ParameterEntry} {m : ParameterMetadata}
    {ps : List ParameterEntry} {ms : List ParameterMetadata} :
    ConsistentParameters (p :: ps) (m :: ms) ↔
      (p.name = m.name ∧ Name.isIdentifier p.name = true ∧ p.type.Named) ∧
        p.name ∉ ps.map (·.name) ∧ ConsistentParameters ps ms := by
  constructor
  · rintro ⟨hnames, hids, hdistinct, htypes⟩
    obtain ⟨hname, hnames⟩ := List.cons.inj hnames
    obtain ⟨hid, hids⟩ := List.forall_mem_cons.mp hids
    obtain ⟨hnew, hdistinct⟩ := List.nodup_cons.mp hdistinct
    obtain ⟨htype, htypes⟩ := List.forall_mem_cons.mp htypes
    exact ⟨⟨hname, hid, htype⟩, hnew, hnames, hids, hdistinct, htypes⟩
  · rintro ⟨⟨hname, hid, htype⟩, hnew, hnames, hids, hdistinct, htypes⟩
    exact ⟨congrArg₂ List.cons hname hnames, List.forall_mem_cons.mpr ⟨hid, hids⟩,
      List.nodup_cons.mpr ⟨hnew, hdistinct⟩, List.forall_mem_cons.mpr ⟨htype, htypes⟩⟩

/-- A parameter is read if its two views agree and its name is new. -/
theorem readParameter_eq_ok {seen : List String} {p : ParameterEntry} {m : ParameterMetadata}
    {q : Parameter} : readParameter className function seen p m = .ok q ↔
      (p.name = m.name ∧ Name.isIdentifier p.name = true ∧ p.type.Named) ∧ p.name ∉ seen ∧
        q = parameterOf p m := by
  rw [readParameter]
  constructor
  · intro h
    split at h
    · cases h
    rename_i hname
    split at h
    · cases h
    rename_i hid
    split at h
    · cases h
    rename_i hseen
    split at h
    · cases h
    rename_i htype
    cases h
    have hnew : p.name ∉ seen := by simpa using hseen
    exact ⟨⟨Decidable.of_not_not hname, by simpa using hid, badName?_eq_none_iff.mp htype⟩, hnew,
      rfl⟩
  · rintro ⟨⟨hname, hid, htype⟩, hseen, rfl⟩
    rw [if_neg (not_not_intro hname), if_neg (by simp [hid]), if_neg (by simpa using hseen),
      badName?_eq_none_iff.mpr htype]
    rfl

/-- The run over the parameters.  What has been seen grows by each of them, so in the end no name is
    among those seen at the start, and no two names are the same. -/
theorem readParameters_eq_ok : ∀ {seen : List String} {ps : List ParameterEntry}
    {ms : List ParameterMetadata} {qs : List Parameter}, ps.length = ms.length →
    (readParameters className function seen ps ms = .ok qs ↔
      (∀ n ∈ ps.map (·.name), n ∉ seen) ∧ ConsistentParameters ps ms ∧
        qs = List.zipWith parameterOf ps ms)
  | seen, [], [], qs, _ => by
    constructor
    · intro h
      cases h
      exact ⟨fun _ h => absurd h List.not_mem_nil, consistentParameters_nil, rfl⟩
    · rintro ⟨-, -, rfl⟩
      rfl
  | seen, p :: ps, m :: ms, qs, hl => by
    have hseen : (∀ n ∈ ps.map (·.name), n ∉ p.name :: seen) ↔
        p.name ∉ ps.map (·.name) ∧ ∀ n ∈ ps.map (·.name), n ∉ seen := by
      simp only [List.mem_cons, not_or, forall_and]
      exact and_congr_left' ⟨fun h hm => h _ hm rfl, fun h n hn he => h (he ▸ hn)⟩
    rw [readParameters, bind_eq_ok, List.map_cons, List.forall_mem_cons, consistentParameters_cons]
    constructor
    · rintro ⟨q, hq, h⟩
      obtain ⟨qs, hqs, h⟩ := bind_eq_ok.mp h
      cases h
      obtain ⟨hp, hnew, rfl⟩ := readParameter_eq_ok.mp hq
      obtain ⟨hrest, hps, rfl⟩ := (readParameters_eq_ok (Nat.succ.inj hl)).mp hqs
      obtain ⟨hdistinct, hrest⟩ := hseen.mp hrest
      exact ⟨⟨hnew, hrest⟩, ⟨hp, hdistinct, hps⟩, rfl⟩
    · rintro ⟨⟨hnew, hrest⟩, ⟨hp, hdistinct, hps⟩, rfl⟩
      have hq : readParameter className function seen p m = .ok (parameterOf p m) :=
        readParameter_eq_ok.mpr ⟨hp, hnew, rfl⟩
      have hqs := (readParameters_eq_ok (Nat.succ.inj hl)).mpr
        ⟨hseen.mpr ⟨hdistinct, hrest⟩, hps, rfl⟩
      exact ⟨_, hq, bind_eq_ok.mpr ⟨_, hqs, rfl⟩⟩

/-! ## Constructors -/

/-- The constructor that two views of it make up. -/
def constructorOf (c : ConstructorEntry) (m : ConstructorMetadata) : Constructor where
  function := c.function
  visibility := m.visibility.reduced
  canonical := c.canonical
  parameters := List.zipWith parameterOf c.parameters m.parameters

/-- The two views of a constructor name the same parameters, in the same order. -/
def Agree (c : ConstructorEntry) (m : ConstructorMetadata) : Prop :=
  c.parameters.map (·.name) = m.parameters.map (·.name)

/-- Two views of a constructor that can be put together. -/
structure ConsistentConstructor (c : ConstructorEntry) (m : ConstructorMetadata) : Prop where
  function : Name.isIdentifier c.function = true
  parameters : ConsistentParameters c.parameters m.parameters

/-- A constructor is read if its two views can be put together. -/
theorem readConstructor_eq_ok {c : ConstructorEntry} {m : ConstructorMetadata} {k : Constructor} :
    readConstructor className c m = .ok k ↔ ConsistentConstructor c m ∧ k = constructorOf c m := by
  rw [readConstructor, bind_eq_ok]
  constructor
  · rintro ⟨⟨⟩, hf, h⟩
    split at h
    · cases h
    · rename_i hl
      obtain ⟨ps, hps, h⟩ := bind_eq_ok.mp h
      cases h
      obtain ⟨-, hc, rfl⟩ := (readParameters_eq_ok (Decidable.of_not_not hl)).mp hps
      exact ⟨⟨checkName_eq_ok.mp hf, hc⟩, rfl⟩
  · rintro ⟨⟨hf, hc⟩, rfl⟩
    have hl : c.parameters.length = m.parameters.length := by
      have h := congrArg List.length hc.names
      rwa [List.length_map, List.length_map] at h
    have hps : readParameters className c.function [] c.parameters m.parameters = .ok _ :=
      (readParameters_eq_ok hl).mpr ⟨fun _ _ => List.not_mem_nil, hc, rfl⟩
    refine ⟨(), checkName_eq_ok.mpr hf, ?_⟩
    rw [if_neg (not_not_intro hl)]
    exact bind_eq_ok.mpr ⟨_, hps, rfl⟩

/-- **The run over the constructors** ends well if each of them can be read. -/
theorem readConstructors_eq_ok : ∀ {cs : List ConstructorEntry} {ms : List ConstructorMetadata}
    {ks : List Constructor}, cs.length = ms.length →
      (readConstructors className cs ms = .ok ks ↔
        List.Forall₂ ConsistentConstructor cs ms ∧ ks = List.zipWith constructorOf cs ms)
  | [], [], ks, _ => by
    constructor
    · intro h
      cases h
      exact ⟨.nil, rfl⟩
    · rintro ⟨-, rfl⟩
      rfl
  | c :: cs, m :: ms, ks, hl => by
    rw [readConstructors, bind_eq_ok, List.forall₂_cons]
    constructor
    · rintro ⟨k, hk, h⟩
      obtain ⟨ks, hks, h⟩ := bind_eq_ok.mp h
      cases h
      obtain ⟨hc, rfl⟩ := readConstructor_eq_ok.mp hk
      obtain ⟨hcs, rfl⟩ := (readConstructors_eq_ok (Nat.succ.inj hl)).mp hks
      exact ⟨⟨hc, hcs⟩, rfl⟩
    · rintro ⟨⟨hc, hcs⟩, rfl⟩
      have hk : readConstructor className c m = .ok (constructorOf c m) :=
        readConstructor_eq_ok.mpr ⟨hc, rfl⟩
      have hks := (readConstructors_eq_ok (Nat.succ.inj hl)).mpr ⟨hcs, rfl⟩
      exact ⟨_, hk, bind_eq_ok.mpr ⟨_, hks, rfl⟩⟩

/-! ## The class -/

/-- A text without the blanks at its two ends. -/
def trimmed (s : String) : String := String.ofList (Text.trimBlanks s.toList)

/-- The display name of an entry: the text that its directive gives, trimmed, unless nothing is left
    of it. -/
def displayNameOf (e : ClassEntry) : Option String :=
  (e.generate.map fun g => trimmed g.name).filter (· ≠ "")

/-- The name that the directive of an entry gives is the display name. -/
theorem displayName_eq (e : ClassEntry) : e.generate.bind (·.displayName) = displayNameOf e := by
  rw [displayNameOf]
  cases e.generate with
  | none => rfl
  | some g =>
    show Name.trimmed? g.name = Option.filter _ (some (trimmed g.name))
    rw [Name.trimmed?, trimmed, Option.filter_some]
    cases Text.trimBlanks g.name.toList with
    | nil => rfl
    | cons c cs => exact (if_pos (by simp)).symm

/-- The names that a class entry gives to the class itself are well formed.  A display name that is
    blank counts as none. -/
structure ProperNames (e : ClassEntry) : Prop where
  name : Name.isIdentifier e.name = true
  package : Name.isPath e.package = true
  display : ∀ g ∈ e.generate, trimmed g.name = "" ∨ Name.isIdentifier (trimmed g.name) = true

instance (e : ClassEntry) : Decidable (ProperNames e) :=
  decidable_of_iff (Name.isIdentifier e.name = true ∧ Name.isPath e.package = true ∧
      ∀ g ∈ e.generate, trimmed g.name = "" ∨ Name.isIdentifier (trimmed g.name) = true)
    ⟨fun h => ⟨h.1, h.2.1, h.2.2⟩, fun h => ⟨h.name, h.package, h.display⟩⟩

/-- A directive gives no bad name if the display name is an identifier, where there is one. -/
theorem isIdentifier_displayNameOf {e : ClassEntry} :
    (∀ n, displayNameOf e = some n → Name.isIdentifier n = true) ↔
      ∀ g ∈ e.generate, trimmed g.name = "" ∨ Name.isIdentifier (trimmed g.name) = true := by
  simp only [displayNameOf, Option.filter_eq_some_iff, Option.map_eq_some_iff, decide_eq_true_eq,
    Option.mem_def, or_iff_not_imp_left]
  constructor
  · intro h g hg hne
    exact h _ ⟨⟨g, hg, rfl⟩, hne⟩
  · rintro h _ ⟨⟨g, hg, rfl⟩, hne⟩
    exact h g hg hne

/-- The checks of the names of the class itself. -/
theorem checkNames_eq_ok {e : ClassEntry} : checkNames e = .ok () ↔ ProperNames e := by
  rw [checkNames, bind_eq_ok, displayName_eq]
  constructor
  · rintro ⟨⟨⟩, hn, h⟩
    obtain ⟨⟨⟩, hp, h⟩ := bind_eq_ok.mp h
    refine ⟨checkName_eq_ok.mp hn, checkName_eq_ok.mp hp, ?_⟩
    refine isIdentifier_displayNameOf.mp fun n hd => ?_
    rw [hd] at h
    exact checkName_eq_ok.mp h
  · rintro ⟨hn, hp, hd⟩
    refine ⟨(), checkName_eq_ok.mpr hn, bind_eq_ok.mpr ⟨(), checkName_eq_ok.mpr hp, ?_⟩⟩
    split
    · rename_i n he
      exact checkName_eq_ok.mpr (isIdentifier_displayNameOf.mpr hd n he)
    · rfl

/-- A type parameter has a proper name, and every name in its bounds is a path. -/
def WellFormed (p : TypeParameter) : Prop :=
  Name.isIdentifier p.name = true ∧ ∀ t ∈ p.bounds, t.Named

instance (p : TypeParameter) : Decidable (WellFormed p) := inferInstanceAs (Decidable (_ ∧ _))

theorem checkTypeParameter_eq_ok {p : TypeParameter} :
    checkTypeParameter className p = .ok () ↔ WellFormed p := by
  rw [checkTypeParameter, bind_eq_ok, WellFormed, ← badNameIn?_eq_none_iff]
  constructor
  · rintro ⟨⟨⟩, hn, h⟩
    split at h
    · cases h
    · rename_i hb
      exact ⟨checkName_eq_ok.mp hn, hb⟩
  · rintro ⟨hn, hb⟩
    refine ⟨(), checkName_eq_ok.mpr hn, ?_⟩
    rw [hb]

/-- The run over the type parameters ends well if each is well formed. -/
theorem readTypeParameters_eq_ok : ∀ {ps : List TypeParameter},
    (readTypeParameters className ps).2 = .ok () ↔ ∀ p ∈ ps, WellFormed p
  | [] => iff_of_true rfl fun _ h => absurd h List.not_mem_nil
  | p :: ps => by
    have hp : checkTypeParameter className p = .ok () ↔ WellFormed p := checkTypeParameter_eq_ok
    rw [readTypeParameters, List.forall_mem_cons, ← hp, ← readTypeParameters_eq_ok]
    split
    · rename_i r h
      rw [h]
      constructor
      · intro hr
        cases hr
      · rintro ⟨hr, -⟩
        cases hr
    · rename_i h
      exact (and_iff_right h).symm

/-! ## Notices -/

/-- What reading reports of type parameters: something of each that it gets through, which are those
    before the first that is not well formed. -/
theorem notices_readTypeParameters : ∀ {ps : List TypeParameter},
    (readTypeParameters className ps).1
      = (ps.takeWhile fun p => WellFormed p).flatMap (noticesOf className)
  | [] => rfl
  | p :: ps => by
    rw [readTypeParameters, List.takeWhile_cons]
    split
    · rename_i r h
      have hp : ¬ WellFormed p := by
        intro hw
        cases h.symm.trans (checkTypeParameter_eq_ok.mpr hw)
      rw [if_neg (by simpa using hp)]
      rfl
    · rename_i h
      have hp : WellFormed p := checkTypeParameter_eq_ok.mp h
      rw [if_pos (by simpa using hp), List.flatMap_cons, ← notices_readTypeParameters]

/-- The type parameters of an entry that reading gets through: none before there is metadata and the
    names of the class itself are well formed. -/
def passed (e : ClassEntry) : List TypeParameter :=
  match e.metadata with
  | none => []
  | some m => if ProperNames e then m.typeParameters.takeWhile fun p => WellFormed p else []

/-- **What reading reports**, also of an entry that it rejects. -/
theorem notices_read (e : ClassEntry) : (read e).1 = (passed e).flatMap (noticesOf e.name) := by
  rw [read, passed]
  cases e.metadata with
  | none => rfl
  | some m =>
    dsimp only
    split
    · rename_i r h
      have hnames : ¬ ProperNames e := by
        rw [← checkNames_eq_ok, h]
        intro hr
        cases hr
      rw [if_neg hnames]
      rfl
    · rename_i h
      rw [if_pos (checkNames_eq_ok.mp h), ← notices_readTypeParameters]
      split
      · rename_i hps
        rw [hps]
      · rename_i hps
        rw [hps]

/-! ## The facts -/

/-- The class that an entry and its metadata make up. -/
def subjectOf (e : ClassEntry) (m : Metadata) : Class where
  name := e.name
  package := e.package
  visibility := m.visibility.reduced
  modality := m.modality.reduced
  kind := m.kind.reduced
  nesting := m.nesting.reduced
  displayName := displayNameOf e
  typeParameters := m.typeParameters

/-- The facts that an entry and its metadata make up: the flags, reduced, and the views, zipped. -/
def factsOf (e : ClassEntry) (m : Metadata) : Facts where
  subject := subjectOf e m
  constructors := List.zipWith constructorOf e.constructors m.constructors

/-- An entry and its metadata can be put together: every name is what its role asks for, and the two
    views agree constructor by constructor. -/
structure Consistent (e : ClassEntry) (m : Metadata) : Prop where
  names : ProperNames e
  typeParameters : ∀ p ∈ m.typeParameters, WellFormed p
  constructors : List.Forall₂ ConsistentConstructor e.constructors m.constructors

/-- Behind the checks of names, reading depends on the constructors alone. -/
theorem readBody_eq_ok {e : ClassEntry} {m : Metadata} {f : Facts} : readBody e m = .ok f ↔
    List.Forall₂ ConsistentConstructor e.constructors m.constructors ∧ f = factsOf e m := by
  rw [readBody, displayName_eq]
  constructor
  · intro h
    split at h
    · cases h
    rename_i hl
    obtain ⟨ks, hks, h⟩ := bind_eq_ok.mp h
    cases h
    obtain ⟨hc, rfl⟩ := (readConstructors_eq_ok (Decidable.of_not_not hl)).mp hks
    exact ⟨hc, rfl⟩
  · rintro ⟨hc, rfl⟩
    have hks : readConstructors e.name e.constructors m.constructors = .ok _ :=
      (readConstructors_eq_ok hc.length_eq).mpr ⟨hc, rfl⟩
    rw [if_neg (not_not_intro hc.length_eq)]
    exact bind_eq_ok.mpr ⟨_, hks, rfl⟩

/-- Of a consistent entry, reading gets through every type parameter. -/
theorem Consistent.passed_eq {e : ClassEntry} {m : Metadata} (h : Consistent e m)
    (hm : e.metadata = some m) : passed e = m.typeParameters := by
  have hps : ∀ p ∈ m.typeParameters, decide (WellFormed p) = true :=
    fun p hp => decide_eq_true (h.typeParameters p hp)
  rw [passed, hm]
  simp only [if_pos h.names, List.takeWhile_eq_self_iff.mpr hps]

/-- A consistent entry loses nothing when it is put together with its metadata: the facts list every
    declared constructor with every declared parameter, in order. -/
theorem Consistent.declared {e : ClassEntry} {m : Metadata} (h : Consistent e m) :
    (factsOf e m).constructors.map (fun k => (k.function, k.parameters.map (·.name)))
      = e.constructors.map fun c => (c.function, c.parameters.map (·.name)) := by
  refine map_zipWith_of_forall₂ h.constructors fun c n hc => congrArg (Prod.mk c.function) ?_
  have hnames : List.Forall₂ (fun (p : ParameterEntry) (q : ParameterMetadata) => p.name = q.name)
      c.parameters n.parameters := by
    have h := hc.parameters.names
    rwa [← List.forall₂_eq_eq_eq, List.forall₂_map_left_iff, List.forall₂_map_right_iff] at h
  exact map_zipWith_of_forall₂ hnames fun _ _ _ => rfl

/-- **Which class entries can be read**, and what the facts are. -/
theorem read_eq_ok_iff {e : ClassEntry} {f : Facts} : (read e).2 = .ok f ↔
    ∃ m, e.metadata = some m ∧ Consistent e m ∧ f = factsOf e m := by
  rw [read]
  constructor
  · intro h
    split at h
    · cases h
    rename_i m hm
    split at h
    · cases h
    rename_i hnames
    split at h
    · cases h
    rename_i notices htypes
    have hps := readTypeParameters_eq_ok.mp (congrArg Prod.snd htypes)
    obtain ⟨hc, rfl⟩ := readBody_eq_ok.mp h
    exact ⟨m, hm, ⟨checkNames_eq_ok.mp hnames, hps, hc⟩, rfl⟩
  · rintro ⟨m, hm, ⟨hnames, hps, hc⟩, rfl⟩
    have htypes : (readTypeParameters e.name m.typeParameters).2 = .ok () :=
      readTypeParameters_eq_ok.mpr hps
    rw [hm]
    simp only [checkNames_eq_ok.mpr hnames]
    split
    · rename_i notices r he
      rw [he] at htypes
      cases htypes
    · exact readBody_eq_ok.mpr ⟨hc, rfl⟩

/-- **What the facts about a class are**: its flags, reduced, and its views, zipped. -/
theorem read_facts {e : ClassEntry} {f : Facts} (h : (read e).2 = .ok f) :
    ∃ m, e.metadata = some m ∧ List.Forall₂ Agree e.constructors m.constructors ∧
      f.constructors = List.zipWith constructorOf e.constructors m.constructors ∧
      f.subject = subjectOf e m := by
  obtain ⟨m, hm, hc, rfl⟩ := read_eq_ok_iff.mp h
  exact ⟨m, hm, hc.constructors.imp fun _ _ h => h.parameters.names, rfl, rfl⟩

/-! ## Candidates -/

/-- What makes a class a candidate, in the words of its metadata. -/
structure Eligible (m : Metadata) : Prop where
  kind : m.kind = .plain
  modality : m.modality = .final ∨ m.modality = .inheritable
  nesting : m.nesting = .topLevel ∨ m.nesting = .nested
  visibility : m.visibility = .pub ∨ m.visibility = .internal

theorem plain_reduced {k : DeclaredKind} : k.reduced = .plain ↔ k = .plain := by
  cases k <;> decide

theorem concrete_reduced {m : DeclaredModality} :
    m.reduced = .concrete ↔ m = .final ∨ m = .inheritable := by
  cases m <;> decide

theorem topLevel_reduced {n : DeclaredNesting} :
    n.reduced = .topLevel ↔ n = .topLevel ∨ n = .nested := by
  cases n <;> decide

theorem isUsable_reduced {v : DeclaredVisibility} :
    v.reduced.isUsable = true ↔ v = .pub ∨ v = .internal := by
  cases v <;> decide

/-- Nothing speaks against a class if all four of its flags are right. -/
theorem ineligibility_eq_none {c : Class} :
    c.ineligibility? = none ↔ c.kind = .plain ∧ c.modality = .concrete ∧ c.nesting = .topLevel ∧
      c.visibility.isUsable = true := by
  obtain ⟨name, package, v, m, k, n, display, ps⟩ := c
  cases k <;> cases m <;> cases n <;> cases v <;>
    simp [Class.ineligibility?, Visibility.isUsable]

/-- A class that passes the check is a candidate, in the words of its metadata. -/
theorem eligible_of_check {e : ClassEntry} {m : Metadata}
    (h : (subjectOf e m).checkEligible = .ok ()) : Eligible m := by
  have hnone : (subjectOf e m).ineligibility? = none := by
    rw [checkEligible] at h
    split at h
    · cases h
    · assumption
  obtain ⟨hk, hm, hn, hv⟩ := ineligibility_eq_none.mp hnone
  exact ⟨plain_reduced.mp hk, concrete_reduced.mp hm, topLevel_reduced.mp hn,
    isUsable_reduced.mp hv⟩

/-! ## The canonical constructor -/

/-- The constructor at an index is the only one that is marked, or the first where none is. -/
def IsCanonical {α : Type} (canonical : α → Bool) (cs : List α) (i : Nat) : Prop :=
  (∃ c, cs[i]? = some c ∧ canonical c = true ∧
    ∀ (j : Nat) c', cs[j]? = some c' → canonical c' = true → j = i) ∨
  ((∀ c ∈ cs, canonical c = false) ∧ i = 0)

/-- A filter that leaves one element leaves the one at a certain index. -/
theorem index_of_filter {α : Type} {p : α → Bool} {l : List α} {a : α} (h : l.filter p = [a]) :
    ∃ i : Nat, l[i]? = some a ∧ p a = true ∧
      ∀ (j : Nat) b, l[j]? = some b → p b = true → j = i := by
  obtain ⟨l₁, l₂, rfl, h₁, ha, h₂⟩ := List.filter_eq_cons_iff.mp h
  refine ⟨l₁.length, by simp, ha, fun j b hj hb => ?_⟩
  rcases Nat.lt_trichotomy j l₁.length with hlt | heq | hgt
  · rw [List.getElem?_append_left hlt] at hj
    exact absurd hb (h₁ b (List.mem_of_getElem? hj))
  · exact heq
  · rw [List.getElem?_append_right (Nat.le_of_lt hgt), List.getElem?_cons,
      if_neg (by omega)] at hj
    exact absurd hb (List.filter_eq_nil_iff.mp h₂ b (List.mem_of_getElem? hj))

/-- **The constructor that is chosen is the canonical one.** -/
theorem choose_eq_ok {ks : List Constructor} {k : Constructor}
    (h : Constructor.choose className ks = .ok k) :
    ∃ i : Nat, ks[i]? = some k ∧ IsCanonical (·.canonical) ks i := by
  unfold Constructor.choose at h
  split at h
  · rename_i marked hf
    cases h
    obtain ⟨i, hi, hc, hu⟩ := index_of_filter hf
    exact ⟨i, hi, .inl ⟨_, hi, hc, hu⟩⟩
  · cases h
  · rename_i hf
    split at h
    · split at h
      · cases h
        refine ⟨0, rfl, .inr ⟨fun c hc => ?_, rfl⟩⟩
        exact Bool.eq_false_iff.mpr (List.filter_eq_nil_iff.mp hf c hc)
      · cases h
    · cases h

/-- The marks of the constructors are those of the declared view. -/
theorem isCanonical_of_zipWith {cs : List ConstructorEntry} {ms : List ConstructorMetadata}
    (hl : cs.length = ms.length) {i : Nat}
    (h : IsCanonical (·.canonical) (List.zipWith constructorOf cs ms) i) :
    IsCanonical (·.canonical) cs i := by
  have hm : ∀ (j : Nat) c, cs[j]? = some c →
      ∃ k, (List.zipWith constructorOf cs ms)[j]? = some k ∧ k.canonical = c.canonical := by
    intro j c hj
    have hlt : j < ms.length := hl ▸ (List.getElem?_eq_some_iff.mp hj).1
    refine ⟨constructorOf c ms[j], ?_, rfl⟩
    rw [List.getElem?_zipWith, hj, List.getElem?_eq_getElem hlt]
  rcases h with ⟨k, hk, hc, hu⟩ | ⟨hn, hi⟩
  · obtain ⟨c, m, hci, -, rfl⟩ := List.getElem?_zipWith_eq_some.mp hk
    refine .inl ⟨c, hci, hc, fun j c' hj hc' => ?_⟩
    obtain ⟨k', hk', he⟩ := hm j c' hj
    exact hu j k' hk' (he.trans hc')
  · refine .inr ⟨fun c hc => ?_, hi⟩
    obtain ⟨j, hj⟩ := List.mem_iff_getElem?.mp hc
    obtain ⟨k, hk, he⟩ := hm j c hj
    exact he.symm.trans (hn k (List.mem_of_getElem? hk))

end Class

end FluentBuilders
