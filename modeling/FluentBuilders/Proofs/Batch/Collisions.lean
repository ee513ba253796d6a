/-
  Collisions — which earlier class stands behind a rejection for a taken name.

  A class that could be planned is rejected only because its module name or its entry name is
  taken.  An entry name is taken by a class that was accepted.  A module name need not be: the first
  class that is planned with it takes it before its entry name is looked at, and if that one is
  taken the class is rejected but the module name is gone (`Lost`).  From then on no class can have
  it, so the module names that rejected classes hold are exactly the lost ones
  (`lost_iff_of_taken`).
-/
import FluentBuilders.Proofs.Batch.Processing
import FluentBuilders.Proofs.Batch.Settling
import Mathlib.Data.Nat.Find

namespace FluentBuilders.Batch

open Descriptor (ClassEntry)

variable {k : Catalogue} {es : List ClassEntry} {i j : Nat} {m : String} {e : ClassEntry}
  {Q S T : Plan} {r : Rejection}

/-! ## Names without a holder -/

/-- A target of a pass that could be planned, whether it was accepted or not. -/
def Planned (k : Catalogue) (es : List ClassEntry) (j : Nat) (Q : Plan) : Prop :=
  ∃ e, es[j]? = some e ∧ (process k e).2 = .ok Q

/-- A target of a pass that was accepted. -/
def Kept (k : Catalogue) (es : List ClassEntry) (j : Nat) (T : Plan) : Prop :=
  (Pass.over k es).outcomes[j]? = some (.ok T)

/-- A module name that is lost before a target: the first target planned with it found its entry
    name taken. -/
def Lost (k : Catalogue) (es : List ClassEntry) (i : Nat) (m : String) : Prop :=
  ∃ j < i, ∃ Q, Planned k es j Q ∧ Q.module = m ∧
    (∀ l < j, ∀ P, Planned k es l P → P.module ≠ m) ∧
    ∃ l < j, ∃ T, Kept k es l T ∧ T.entry.name = Q.entry.name

/-- A class whose plan was accepted was planned. -/
theorem planned_of_kept (h : Kept k es j T) : Planned k es j T := by
  obtain ⟨e, he, hv⟩ := verdict_of_getElem? h
  exact ⟨e, he, (verdict_eq_ok hv).1⟩

/-- A target is kept if no earlier one was planned with its module name and no earlier one was kept
    with its entry name. -/
theorem kept_iff (h : Planned k es j Q) :
    Kept k es j Q ↔
      (∀ l < j, ∀ P, Planned k es l P → P.module ≠ Q.module) ∧
        ∀ l < j, ∀ T, Kept k es l T → T.entry.name ≠ Q.entry.name := by
  obtain ⟨e, he, hQ⟩ := h
  have hm : Q.module ∈ (Pass.over k (es.take j)).modules ↔
      ∃ l < j, ∃ P, Planned k es l P ∧ P.module = Q.module := by
    rw [mem_modules_before]
    constructor
    · rintro ⟨l, hl, e', P, he', hP, hn⟩
      exact ⟨l, hl, P, ⟨e', he', hP⟩, hn⟩
    · rintro ⟨l, hl, P, ⟨e', he', hP⟩, hn⟩
      exact ⟨l, hl, e', P, he', hP, hn⟩
  rw [Kept, getElem?_outcomes_over k he, Option.some.injEq, verdict_of_ok hQ]
  constructor
  · intro h
    split at h
    · cases h
    · rename_i hfree
      split at h
      · cases h
      · rename_i hfree'
        constructor
        · intro l hl P hP hn
          exact hfree (hm.mpr ⟨l, hl, P, hP, hn⟩)
        · intro l hl T hT hn
          exact hfree' (mem_entries_before.mpr ⟨l, hl, T, hT, hn⟩)
  · rintro ⟨hfree, hfree'⟩
    have hmodule : Q.module ∉ (Pass.over k (es.take j)).modules := by
      intro h
      obtain ⟨l, hl, P, hP, hn⟩ := hm.mp h
      exact hfree l hl P hP hn
    have hentry : Q.entry.name ∉ (Pass.over k (es.take j)).entries := by
      intro h
      obtain ⟨l, hl, T, hT, hn⟩ := mem_entries_before.mp h
      exact hfree' l hl T hT hn
    rw [if_neg hmodule, if_neg hentry]

/-- Of the targets planned with a module name there is a first one. -/
theorem exists_first (h : ∃ j < i, ∃ Q, Planned k es j Q ∧ Q.module = m) :
    ∃ j < i, ∃ Q, Planned k es j Q ∧ Q.module = m ∧
      ∀ l < j, ∀ P, Planned k es l P → P.module ≠ m := by
  classical
  obtain ⟨n, hn, hQ⟩ := h
  have hex : ∃ j, ∃ Q, Planned k es j Q ∧ Q.module = m := ⟨n, hQ⟩
  obtain ⟨Q, hQ', hm⟩ := Nat.find_spec hex
  refine ⟨Nat.find hex, Nat.lt_of_le_of_lt (Nat.find_min' hex hQ) hn, Q, hQ', hm, ?_⟩
  intro l hl P hP hne
  exact Nat.find_min hex hl ⟨P, hP, hne⟩

/-- **Lost names.**  A module name that is taken is lost exactly when no accepted target has it. -/
theorem lost_iff_of_taken (h : ∃ j < i, ∃ Q, Planned k es j Q ∧ Q.module = m) :
    Lost k es i m ↔ ¬ ∃ j < i, ∃ T, Kept k es j T ∧ T.module = m := by
  constructor
  · rintro ⟨j, -, Q, hQ, hm, hfirst, l, hl, P, hP, hn⟩ ⟨j', -, T, hT, hm'⟩
    obtain ⟨hfree, hfree'⟩ := (kept_iff (planned_of_kept hT)).mp hT
    rcases Nat.lt_trichotomy j' j with hlt | rfl | hlt
    · exact hfirst j' hlt T (planned_of_kept hT) hm'
    · -- the first target itself found its entry name taken
      obtain ⟨e, he, hp⟩ := hQ
      obtain ⟨e', he', hp'⟩ := planned_of_kept hT
      cases he.symm.trans he'
      cases hp.symm.trans hp'
      exact hfree' l hl P hP hn
    · exact hfree j hlt Q hQ (hm.trans hm'.symm)
  · intro hnone
    obtain ⟨j, hj, Q, hQ, rfl, hfirst⟩ := exists_first h
    refine ⟨j, hj, Q, hQ, rfl, hfirst, ?_⟩
    -- with a free entry name the first target would have been accepted
    by_contra hfree
    have hkept : Kept k es j Q := by
      refine (kept_iff hQ).mpr ⟨hfirst, ?_⟩
      intro l hl T hT hn
      exact hfree ⟨l, hl, T, hT, hn⟩
    exact hnone ⟨j, hj, Q, hkept, rfl⟩

/-! ## Rejections for a taken name -/

/-- A name of a plan is held by an accepted target before it. -/
def HeldBefore (k : Catalogue) (es : List ClassEntry) (i : Nat) (S : Plan) : Prop :=
  ∃ j < i, ∃ T, Kept k es j T ∧ (T.module = S.module ∨ T.entry.name = S.entry.name)

/-- The module name of a plan is lost, and its entry name is free. -/
def LeftBehind (k : Catalogue) (es : List ClassEntry) (i : Nat) (S : Plan) : Prop :=
  Lost k es i S.module ∧ ¬ ∃ j < i, ∃ T, Kept k es j T ∧ T.entry.name = S.entry.name

/-- A planned class is rejected for one of its two names only. -/
theorem rejection_of_planned (hi : es[i]? = some e) (hS : (process k e).2 = .ok S)
    (ho : (Pass.over k es).outcomes[i]? = some (.error r)) :
    r = .nameCollision S.builder S.module ∨ r = .nameCollision S.builder S.entry.name := by
  rw [getElem?_outcomes_over k hi, verdict_of_ok hS] at ho
  split at ho
  · left
    cases ho
    rfl
  · split at ho
    · right
      cases ho
      rfl
    · cases ho

/-- A name of a rejected plan is held by an accepted one in front, or was left behind. -/
theorem heldBefore_iff (hi : es[i]? = some e) (hS : (process k e).2 = .ok S)
    (ho : (Pass.over k es).outcomes[i]? = some (.error r)) :
    HeldBefore k es i S ↔ ¬ LeftBehind k es i S := by
  have hplanned : Planned k es i S := ⟨e, hi, hS⟩
  constructor
  · rintro ⟨j, hj, T, hT, hm | hn⟩ ⟨hlost, hfree⟩
    · have htaken : ∃ j < i, ∃ Q, Planned k es j Q ∧ Q.module = S.module :=
        ⟨j, hj, T, planned_of_kept hT, hm⟩
      exact (lost_iff_of_taken htaken).mp hlost ⟨j, hj, T, hT, hm⟩
    · exact hfree ⟨j, hj, T, hT, hn⟩
  · intro hleft
    by_contra hheld
    have hmodule : ¬ ∃ j < i, ∃ T, Kept k es j T ∧ T.module = S.module := by
      rintro ⟨j, hj, T, hT, hm⟩
      exact hheld ⟨j, hj, T, hT, .inl hm⟩
    have hentry : ¬ ∃ j < i, ∃ T, Kept k es j T ∧ T.entry.name = S.entry.name := by
      rintro ⟨j, hj, T, hT, hn⟩
      exact hheld ⟨j, hj, T, hT, .inr hn⟩
    have hrejected : ¬ Kept k es i S := by
      intro hk
      cases ho.symm.trans hk
    -- the entry name is free, so the module name is what was taken
    have htaken : ∃ j < i, ∃ Q, Planned k es j Q ∧ Q.module = S.module := by
      by_contra hfree
      refine hrejected ((kept_iff hplanned).mpr ⟨?_, ?_⟩)
      · intro l hl P hP hm
        exact hfree ⟨l, hl, P, hP, hm⟩
      · intro l hl T hT hn
        exact hentry ⟨l, hl, T, hT, hn⟩
    exact hleft ⟨(lost_iff_of_taken htaken).mpr hmodule, hentry⟩

/-- **Behind a rejection for a taken name** stands an accepted class that has the name, except when
    the name is that of a module that is lost. -/
theorem collision_held_iff (d : Descriptor) (s : Selection) (support : String) (i : Nat)
    (e : ClassEntry) (S : Plan) (r : Rejection) (hi : (s.apply d).targets[i]? = some e)
    (hS : (process (finalCatalogue d s support) e).2 = .ok S)
    (ho : (finalPass d s support).outcomes[i]? = some (.error r)) :
    (r = .nameCollision S.builder S.module ∨ r = .nameCollision S.builder S.entry.name) ∧
      ((∃ j < i, ∃ T, (finalPass d s support).outcomes[j]? = some (.ok T) ∧
          (T.module = S.module ∨ T.entry.name = S.entry.name)) ↔
        ¬ LeftBehind (finalCatalogue d s support) (s.apply d).targets i S) := by
  rw [finalPass_eq_over] at ho ⊢
  exact ⟨rejection_of_planned hi hS ho, heldBefore_iff hi hS ho⟩

/-- Three classes.  The second has the entry name of the first, and the third the module name of the
    second. -/
def trio : Descriptor where
  version := 1
  classes := [
    smallClass "A" "m" "x" .final [],
    smallClass "B" "m" "x" .final [],
    smallClass "B" "n" "y" .final []]

/-- The names that a plan takes. -/
def namesOf (o : Except Rejection Plan) : Option (String × String) :=
  o.toOption.map fun T => (T.module, T.entry.name)

theorem namesOf_eq_some {o : Except Rejection Plan} {m n : String} (h : namesOf o = some (m, n)) :
    ∃ T, o = .ok T ∧ T.module = m ∧ T.entry.name = n := by
  cases o with
  | error r => cases h
  | ok T =>
    cases h
    exact ⟨T, rfl, rfl, rfl⟩

theorem namesOf_eq_none {o : Except Rejection Plan} (h : namesOf o = none) :
    ∃ r, o = .error r := by
  cases o with
  | error r => exact ⟨r, rfl⟩
  | ok T => cases h

/-- Only the first of the three classes is accepted. -/
theorem outcomes_trio :
    (finalPass trio {} "s").outcomes.map namesOf = [some ("abuilder", "x"), none, none] := by
  decide +kernel

theorem third_planned :
    ∃ S, (process (finalCatalogue trio {} "s") (smallClass "B" "n" "y" .final [])).2 = .ok S ∧
      S.module = "bbuilder" ∧ S.entry.name = "y" :=
  namesOf_eq_some (by decide +kernel)

/-- The third class is planned, rejected, and shares no name with an accepted one. -/
theorem third_of_trio :
    ∃ S r, (process (finalCatalogue trio {} "s") (smallClass "B" "n" "y" .final [])).2 = .ok S ∧
      (finalPass trio {} "s").outcomes[2]? = some (.error r) ∧
      ¬ ∃ j < 2, ∃ T, (finalPass trio {} "s").outcomes[j]? = some (.ok T) ∧
        (T.module = S.module ∨ T.entry.name = S.entry.name) := by
  have hnames (i : Nat) : (finalPass trio {} "s").outcomes[i]?.map namesOf
      = [some ("abuilder", "x"), none, none][i]? := by
    rw [← List.getElem?_map, outcomes_trio]
  obtain ⟨S, hS, hm, hn⟩ := third_planned
  obtain ⟨o, ho, hnone⟩ := Option.map_eq_some_iff.mp (hnames 2)
  obtain ⟨r, rfl⟩ := namesOf_eq_none hnone
  refine ⟨S, r, hS, ho, ?_⟩
  rintro ⟨j, hj, T, hT, hheld⟩
  have hj' := hnames j
  rw [hT] at hj'
  rcases Nat.le_one_iff_eq_zero_or_eq_one.mp (Nat.le_of_lt_succ hj) with rfl | rfl
  · -- the first class has other names
    obtain ⟨T', hT', hm', hn'⟩ := namesOf_eq_some (Option.some.inj hj')
    cases hT'
    rw [hm, hn, hm', hn'] at hheld
    exact absurd hheld (by decide)
  · cases Option.some.inj hj'

theorem collision_held_iff_trio :
    ∃ S, LeftBehind (finalCatalogue trio {} "s") (Selection.apply {} trio).targets 2 S := by
  obtain ⟨S, r, hS, hr, hfree⟩ := third_of_trio
  refine ⟨S, ?_⟩
  by_contra h
  exact hfree ((collision_held_iff trio {} "s" 2 (smallClass "B" "n" "y" .final []) S r rfl hS
    hr).2.mpr h)

/-- **A name that only rejected classes wanted** stands in the way of a class. -/
theorem collision_unheld :
    ∃ (i : Nat) (e : ClassEntry) (S : Plan) (r : Rejection),
      (Selection.apply {} trio).targets[i]? = some e ∧
      (process (finalCatalogue trio {} "s") e).2 = .ok S ∧
      (finalPass trio {} "s").outcomes[i]? = some (.error r) ∧
      ¬ ∃ j < i, ∃ T, (finalPass trio {} "s").outcomes[j]? = some (.ok T) ∧
        (T.module = S.module ∨ T.entry.name = S.entry.name) := by
  obtain ⟨S, r, hS, hr, hfree⟩ := third_of_trio
  exact ⟨2, smallClass "B" "n" "y" .final [], S, r, rfl, hS, hr, hfree⟩

end FluentBuilders.Batch
