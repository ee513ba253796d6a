/-
  Settling — the passes of a batch, from the first to the one that withdraws nothing.

  A run is described by the list of what is known in each of its passes (`knowns`).  Two facts carry
  everything that is said about runs.  What is known in the last pass is what was known in the first
  without the marks of all classes that some pass rejected (`lastKnown_eq_withdraw`): marks are only
  taken away, and by package and name.  And in the last pass no class that is still marked is
  rejected, since otherwise its mark would go and another pass would follow.
-/
import FluentBuilders.Proofs.Batch.Admission
import FluentBuilders.Proofs.Lookup
import FluentBuilders.Proofs.Outcome

namespace FluentBuilders.Batch

open Descriptor (ClassEntry)
open Catalogue (Origin origin origins)

variable {targets known : Descriptor} {support : String} {e : ClassEntry}

/-! ## Withdrawing marks -/

/-- A class without its mark if it is among the given ones. -/
def unmark (keys : List (String × String)) (e : ClassEntry) : ClassEntry :=
  if keys.contains (keyOf e) then { e with generate := none } else e

theorem unmark_of_not_mem {keys : List (String × String)} (h : keyOf e ∉ keys) :
    unmark keys e = e := by
  rw [unmark, if_neg (by rwa [List.contains_iff_mem])]

theorem unmark_of_mem {keys : List (String × String)} (h : keyOf e ∈ keys) :
    unmark keys e = { e with generate := none } := by
  rw [unmark, if_pos (List.contains_iff_mem.mpr h)]

/-- Marks may be withdrawn at once or one after the other. -/
theorem withdraw_append (ks ks' : List (String × String)) (d : Descriptor) :
    withdraw (ks ++ ks') d = withdraw ks' (withdraw ks d) := by
  -- a mark is gone after both lists if it is gone after one of them
  have h : ∀ e, unmark (ks ++ ks') e = unmark ks' (unmark ks e) := by
    intro e
    by_cases h : keyOf e ∈ ks
    · rw [unmark_of_mem (List.mem_append_left _ h), unmark_of_mem h]
      by_cases h' : keyOf e ∈ ks'
      · rw [unmark_of_mem (e := { e with generate := none }) h']
      · rw [unmark_of_not_mem (e := { e with generate := none }) h']
    · rw [unmark_of_not_mem h]
      by_cases h' : keyOf e ∈ ks'
      · rw [unmark_of_mem (List.mem_append_right _ h'), unmark_of_mem h']
      · rw [unmark_of_not_mem h', unmark_of_not_mem (by simp [h, h'])]
  show ({ d with classes := d.classes.map (unmark (ks ++ ks')) } : Descriptor) =
    { d with classes := (d.classes.map (unmark ks)).map (unmark ks') }
  rw [List.map_map, funext h]
  rfl

/-- The classes that keep their mark. -/
theorem targets_withdraw (keys : List (String × String)) (d : Descriptor) :
    (withdraw keys d).targets = d.targets.filter fun e => !keys.contains (keyOf e) := by
  show (d.classes.map (unmark keys)).filter (·.generate.isSome) = _
  rw [Descriptor.targets, List.filter_filter]
  induction d.classes with
  | nil => rfl
  | cons e es ih =>
    rw [List.map_cons, List.filter_cons, List.filter_cons, ih]
    by_cases h : keyOf e ∈ keys
    · rw [unmark_of_mem h]
      simp [h]
    · rw [unmark_of_not_mem h]
      simp [h]

/-- What is still a target is what was one and keeps its mark. -/
theorem mem_targets_withdraw {keys : List (String × String)} {d : Descriptor} :
    e ∈ (withdraw keys d).targets ↔ e ∈ d.targets ∧ keyOf e ∉ keys := by
  rw [targets_withdraw, List.mem_filter]
  simp

/-- If no class loses its mark, nothing is changed. -/
theorem withdraw_eq_self {keys : List (String × String)} {d : Descriptor}
    (h : ¬ (withdraw keys d).targets.length < d.targets.length) : withdraw keys d = d := by
  rw [targets_withdraw] at h
  have hle := List.length_filter_le (fun e => !keys.contains (keyOf e)) d.targets
  have hall := List.length_filter_eq_length_iff.mp (Nat.le_antisymm hle (Nat.le_of_not_lt h))
  have hm : d.classes.map (unmark keys) = d.classes := by
    refine (List.map_congr_left ?_).trans (List.map_id d.classes)
    intro e he
    show unmark keys e = e
    by_cases hk : keyOf e ∈ keys
    · -- a class among the given ones had no mark to lose
      cases hg : e.generate with
      | none =>
        rw [unmark_of_mem hk, ← hg]
      | some g =>
        have ht : e ∈ d.targets := List.mem_filter.mpr ⟨he, by rw [hg]; rfl⟩
        have := hall e ht
        simp [hk] at this
    · exact unmark_of_not_mem hk
  show ({ d with classes := d.classes.map (unmark keys) } : Descriptor) = d
  rw [hm]

/-! ## Withdrawn marks in a catalogue -/

/-- A declaration without its mark if it is a class among the given ones. -/
def unmarkOrigin (keys : List (String × String)) : Origin → Origin
  | .ofClass e => .ofClass (unmark keys e)
  | o => o

/-- Withdrawing marks takes them from the origins and changes nothing else. -/
theorem origins_withdraw (keys : List (String × String)) (d : Descriptor) (support : String) :
    origins (withdraw keys d) support = (origins d support).map (unmarkOrigin keys) := by
  show (Catalogue.containers support).map Origin.container
      ++ (d.classes.map (unmark keys)).map Origin.ofClass ++ d.types.map Origin.ofType = _
  simp [origins, Function.comp_def, unmarkOrigin]

/-- **A name leads to the same declaration**, whatever marks have been withdrawn. -/
theorem origin_withdraw (keys : List (String × String)) (d : Descriptor) (support name : String) :
    origin (withdraw keys d) support name
      = (origin d support name).map (unmarkOrigin keys) := by
  -- a mark is part of neither the path nor the name
  refine Catalogue.origin_of_map ?_ ?_ (origins_withdraw keys d support)
  · intro o
    cases o with
    | ofClass e =>
      show (Catalogue.ofClass (unmark keys e)).path = (Catalogue.ofClass e).path
      rw [unmark]
      split <;> rfl
    | container t => rfl
    | ofType t => rfl
  · intro o
    cases o with
    | ofClass e =>
      show (Catalogue.ofClass (unmark keys e)).name = (Catalogue.ofClass e).name
      rw [unmark]
      split <;> rfl
    | container t => rfl
    | ofType t => rfl

/-! ## The run -/

/-- What is known after a pass. -/
def afterPass (targets known : Descriptor) (support : String) : Descriptor :=
  withdraw ((Pass.run targets known support).rejected targets) known

/-- What is known in each pass of a run, from the first to the last. -/
def knowns (targets known : Descriptor) (support : String) : List Descriptor :=
  if (afterPass targets known support).targets.length < known.targets.length then
    known :: knowns targets (afterPass targets known support) support
  else [known]
termination_by known.targets.length

theorem knowns_ne_nil (targets known : Descriptor) (support : String) :
    knowns targets known support ≠ [] := by
  rw [knowns]
  split <;> exact List.cons_ne_nil _ _

/-- What is known in the last pass. -/
def lastKnown (targets known : Descriptor) (support : String) : Descriptor :=
  (knowns targets known support).getLast (knowns_ne_nil targets known support)

/-- As long as a pass leaves fewer targets, there is a further one. -/
theorem lastKnown_of_lt
    (h : (afterPass targets known support).targets.length < known.targets.length) :
    lastKnown targets known support
      = lastKnown targets (afterPass targets known support) support := by
  have hk : knowns targets known support
      = known :: knowns targets (afterPass targets known support) support := by
    rw [knowns, if_pos h]
  simp only [lastKnown, hk]
  exact List.getLast_cons (knowns_ne_nil _ _ _)

/-- A pass that leaves all targets is the last one. -/
theorem lastKnown_of_not_lt
    (h : ¬ (afterPass targets known support).targets.length < known.targets.length) :
    lastKnown targets known support = known := by
  have hk : knowns targets known support = [known] := by
    rw [knowns, if_neg h]
  simp only [lastKnown, hk, List.getLast_singleton]

/-- The result of a run is that of its last pass. -/
theorem settle_eq_run (targets known : Descriptor) (support : String) :
    settle targets known support
      = Pass.run targets (lastKnown targets known support) support := by
  induction known using knowns.induct targets support with
  | case1 known h ih =>
    rw [settle, lastKnown_of_lt h, ← ih]
    exact if_pos h
  | case2 known h =>
    rw [settle, lastKnown_of_not_lt h]
    exact if_neg h

theorem mem_rejected_of_getElem? {p : Pass} {i : Nat} {r : Rejection}
    (he : targets.targets[i]? = some e) (hr : p.outcomes[i]? = some (.error r)) :
    keyOf e ∈ p.rejected targets := by
  have hz : (e, Except.error r) ∈ targets.targets.zip p.outcomes :=
    List.mem_iff_getElem?.mpr ⟨i, List.getElem?_zip_eq_some.mpr ⟨he, hr⟩⟩
  exact List.mem_map.mpr ⟨(e, .error r), List.mem_filter.mpr ⟨hz, rfl⟩, rfl⟩

/-- The classes that some pass of a run rejects. -/
def everRejected (targets known : Descriptor) (support : String) : List (String × String) :=
  (knowns targets known support).flatMap fun k => (Pass.run targets k support).rejected targets

/-- **What is left at the end**: all marks but those of classes that some pass rejected. -/
theorem lastKnown_eq_withdraw (targets known : Descriptor) (support : String) :
    lastKnown targets known support
      = withdraw (everRejected targets known support) known := by
  induction known using knowns.induct targets support with
  | case1 known h ih =>
    rw [lastKnown_of_lt h, ih, everRejected]
    conv => rhs; rw [everRejected, knowns, if_pos h]
    rw [List.flatMap_cons, withdraw_append]
    rfl
  | case2 known h =>
    rw [lastKnown_of_not_lt h, everRejected, knowns, if_neg h, List.flatMap_cons, List.flatMap_nil,
      List.append_nil]
    exact (withdraw_eq_self h).symm

/-- The classes that are still marked at the end are the marked ones that no pass rejected. -/
theorem mem_targets_lastKnown :
    e ∈ (lastKnown targets known support).targets ↔
      e ∈ known.targets ∧ keyOf e ∉ everRejected targets known support := by
  rw [lastKnown_eq_withdraw, mem_targets_withdraw]

/-- What the last pass rejects was rejected at some time. -/
theorem rejected_settle_subset {key : String × String}
    (h : key ∈ (settle targets known support).rejected targets) :
    key ∈ everRejected targets known support := by
  rw [settle_eq_run] at h
  exact List.mem_flatMap.mpr ⟨_, List.getLast_mem (knowns_ne_nil _ _ _), h⟩

/-! ## The last pass over the wanted classes -/

variable {d : Descriptor} {s : Selection} {S T : Plan}

/-- What is known in the last pass over the wanted classes of a descriptor. -/
def finalKnown (d : Descriptor) (s : Selection) (support : String) : Descriptor :=
  lastKnown (s.apply d) (s.apply d) support

/-- The catalogue of the last pass. -/
def finalCatalogue (d : Descriptor) (s : Selection) (support : String) : Catalogue :=
  .ofDescriptor (finalKnown d s support) support

/-- The last pass goes over the selected targets under the last catalogue. -/
theorem finalPass_eq_over (d : Descriptor) (s : Selection) (support : String) :
    finalPass d s support = Pass.over (finalCatalogue d s support) (s.apply d).targets :=
  settle_eq_run (s.apply d) (s.apply d) support

/-- A wanted class is accepted in the last pass, with this plan. -/
def Accepted (d : Descriptor) (s : Selection) (support : String) (e : ClassEntry) (S : Plan) :
    Prop :=
  (e, Except.ok S) ∈ (s.apply d).targets.zip (finalPass d s support).outcomes

/-- A class is accepted if the outcome at its place is a plan. -/
theorem accepted_iff_getElem? :
    Accepted d s support e S ↔ ∃ i : Nat, (s.apply d).targets[i]? = some e ∧
      (finalPass d s support).outcomes[i]? = some (Except.ok S) := by
  simp only [Accepted, List.mem_iff_getElem?, List.getElem?_zip_eq_some]

/-- A class is accepted if its outcome is a plan, and what can be read off the outcome holds of the
    plan. -/
theorem exists_accepted (i : Nat) (P : Plan → Bool) (he : (s.apply d).targets[i]? = some e)
    (ho : ((finalPass d s support).outcomes[i]?.bind (·.toOption)).any P = true) :
    ∃ S, Accepted d s support e S ∧ P S = true := by
  obtain ⟨S, hS, hP⟩ := (Option.any_eq_true _ _).mp ho
  obtain ⟨o, hi, ht⟩ := Option.bind_eq_some_iff.mp hS
  rw [toOption_eq_some.mp ht] at hi
  exact ⟨S, accepted_iff_getElem?.mpr ⟨i, he, hi⟩, hP⟩

/-- The plan of an accepted class is what processing gives under the last catalogue. -/
theorem process_of_accepted (h : Accepted d s support e S) :
    (process (finalCatalogue d s support) e).2 = .ok S := by
  obtain ⟨i, he, ho⟩ := accepted_iff_getElem?.mp h
  rw [finalPass_eq_over] at ho
  obtain ⟨e', he', hv⟩ := verdict_of_getElem? ho
  cases he.symm.trans he'
  exact (verdict_eq_ok hv).1

/-- The plans of a batch are those of the classes accepted in its last pass. -/
theorem mem_plans_iff :
    S ∈ (synthesize d s support).plans ↔ ∃ e, Accepted d s support e S := by
  show S ∈ (finalPass d s support).outcomes.filterMap (·.toOption) ↔ _
  simp only [accepted_iff_getElem?, List.mem_filterMap]
  constructor
  · rintro ⟨o, ho, hS⟩
    obtain ⟨i, hi⟩ := List.mem_iff_getElem?.mp ho
    rw [toOption_eq_some.mp hS, finalPass_eq_over] at hi
    obtain ⟨e, he, -⟩ := verdict_of_getElem? hi
    exact ⟨e, i, he, finalPass_eq_over d s support ▸ hi⟩
  · rintro ⟨e, i, -, hi⟩
    exact ⟨_, List.mem_of_getElem? hi, rfl⟩

/-- Accepted classes have different modules. -/
theorem eq_of_module_eq {e' : ClassEntry} (h : Accepted d s support e S)
    (h' : Accepted d s support e' T) (hm : S.module = T.module) : S = T := by
  obtain ⟨i, -, hi⟩ := accepted_iff_getElem?.mp h
  obtain ⟨j, -, hj⟩ := accepted_iff_getElem?.mp h'
  have hij : i = j := by
    rw [finalPass_eq_over] at hi hj
    exact index_unique hi hj hm
  rw [hij] at hi
  exact Except.ok.inj (Option.some.inj (hi.symm.trans hj))

/-- The targets are the marked classes that are wanted. -/
theorem mem_targets_apply :
    e ∈ (s.apply d).targets ↔ e ∈ d.classes ∧ s.wants e = true ∧ e.generate.isSome = true := by
  show e ∈ (d.classes.map fun e => if s.wants e then e else { e with generate := none }).filter
    (·.generate.isSome) ↔ _
  rw [List.mem_filter, List.mem_map]
  constructor
  · rintro ⟨⟨c, hc, he⟩, hg⟩
    by_cases hw : s.wants c = true
    · rw [if_pos hw] at he
      exact ⟨he ▸ hc, he ▸ hw, hg⟩
    · rw [if_neg hw] at he
      rw [← he] at hg
      cases hg
  · rintro ⟨hc, hw, hg⟩
    exact ⟨⟨e, hc, if_pos hw⟩, hg⟩

/-- **At the end of a run** every class that is still marked is accepted. -/
theorem accepted_of_marked (h : e ∈ (finalKnown d s support).targets) :
    (∃ S, Accepted d s support e S) ∧
      keyOf e ∉ (finalPass d s support).rejected (s.apply d) := by
  obtain ⟨he, hr⟩ := mem_targets_lastKnown.mp h
  have hnot : keyOf e ∉ (finalPass d s support).rejected (s.apply d) := by
    intro hk
    exact hr (rejected_settle_subset hk)
  refine ⟨?_, hnot⟩
  obtain ⟨i, hi⟩ := List.mem_iff_getElem?.mp he
  have ho := getElem?_outcomes_over (finalCatalogue d s support) hi
  rw [← finalPass_eq_over] at ho
  cases hv : (Pass.over (finalCatalogue d s support) ((s.apply d).targets.take i)).verdict
      (finalCatalogue d s support) e with
  | ok S => exact ⟨S, accepted_iff_getElem?.mpr ⟨i, hi, hv ▸ ho⟩⟩
  | error r =>
    -- then the last pass would have rejected the class
    rw [hv] at ho
    exact absurd (mem_rejected_of_getElem? hi ho) hnot

end FluentBuilders.Batch
