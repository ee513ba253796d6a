/-
  Admission — which targets of a pass get a builder, and which find a name taken.

  A pass keeps the names of modules and of entry functions that are taken.  What these two lists
  hold after some targets is said here by the targets alone (`mem_modules_over`,
  `mem_entries_over`), and the two are not alike: an entry name is taken by an accepted class, but
  a module name is taken by every class that was planned, accepted or not.  The outcome of a target
  follows from the targets before it (`getElem?_outcomes_over`).
-/
import FluentBuilders.Batch.Report
import Mathlib.Data.List.Induction

namespace FluentBuilders.Batch

open Descriptor (ClassEntry)

variable {k : Catalogue} {s : Pass} {e : ClassEntry} {es : List ClassEntry} {p : Plan}

/-! ## One target -/

/-- The outcome of a target that a pass comes to next. -/
def Pass.verdict (k : Catalogue) (s : Pass) (e : ClassEntry) : Except Rejection Plan :=
  match (process k e).2 with
  | .ok p => (s.accept p).2
  | .error r => .error r

theorem accept_eq (s : Pass) (p : Plan) :
    s.accept p =
      if p.module ∈ s.modules then (s, taken p p.module)
      else if p.entry.name ∈ s.entries then
        ({ s with modules := s.modules ++ [p.module] }, taken p p.entry.name)
      else
        ({ s with modules := s.modules ++ [p.module], entries := s.entries ++ [p.entry.name] },
          .ok p) := by
  simp only [Pass.accept, List.contains_iff_mem]

theorem verdict_of_error {r : Rejection} (h : (process k e).2 = .error r) :
    s.verdict k e = .error r := by
  rw [Pass.verdict, h]

/-- A planned class is turned away for its module name, or else for its entry name, or accepted. -/
theorem verdict_of_ok (h : (process k e).2 = .ok p) :
    s.verdict k e =
      if p.module ∈ s.modules then taken p p.module
      else if p.entry.name ∈ s.entries then taken p p.entry.name
      else .ok p := by
  simp only [Pass.verdict, h, accept_eq]
  split
  · rfl
  · split <;> rfl

/-- A plan is accepted if both its names are new to the pass. -/
theorem verdict_eq_ok (h : s.verdict k e = .ok p) :
    (process k e).2 = .ok p ∧ p.module ∉ s.modules ∧ p.entry.name ∉ s.entries := by
  cases hp : (process k e).2 with
  | error r => cases (verdict_of_error hp).symm.trans h
  | ok q =>
    rw [verdict_of_ok hp] at h
    split at h
    · cases h
    · rename_i hm
      split at h
      · cases h
      · rename_i hn
        cases h
        exact ⟨rfl, hm, hn⟩

/-- What one target adds to a pass. -/
theorem step_eq (k : Catalogue) (s : Pass) (e : ClassEntry) :
    (s.step k e).outcomes = s.outcomes ++ [s.verdict k e] ∧
    (∀ m, m ∈ (s.step k e).modules ↔
      m ∈ s.modules ∨ ∃ p, (process k e).2 = .ok p ∧ p.module = m) ∧
    (∀ n, n ∈ (s.step k e).entries ↔
      n ∈ s.entries ∨ ∃ p, s.verdict k e = .ok p ∧ p.entry.name = n) := by
  cases hp : (process k e).2 with
  | error r =>
    simp [Pass.step, Pass.verdict, hp]
  | ok p =>
    rw [verdict_of_ok hp]
    simp only [Pass.step, hp, accept_eq]
    split
    · -- the module name is taken, and it is the very one that the plan wants
      rename_i hm
      refine ⟨rfl, fun m => ⟨.inl, ?_⟩, fun n => ⟨.inl, ?_⟩⟩
      · rintro (h | ⟨q, hq, rfl⟩)
        · exact h
        · cases hq
          exact hm
      · rintro (h | ⟨q, hq, -⟩)
        · exact h
        · cases hq
    · split
      · -- the entry name is taken, but the module name has been added
        refine ⟨rfl, fun m => ?_, fun n => ⟨.inl, ?_⟩⟩
        · simp [eq_comm]
        · rintro (h | ⟨q, hq, -⟩)
          · exact h
          · cases hq
      · refine ⟨rfl, fun m => ?_, fun n => ?_⟩
        · simp [eq_comm]
        · simp [eq_comm]

/-! ## All targets -/

/-- A pass over some targets. -/
def Pass.over (k : Catalogue) (es : List ClassEntry) : Pass := es.foldl (Pass.step k) {}

/-- The last class of a pass comes to the pass over those in front of it. -/
theorem over_concat (k : Catalogue) (es : List ClassEntry) (e : ClassEntry) :
    Pass.over k (es ++ [e]) = (Pass.over k es).step k e := by
  rw [Pass.over, List.foldl_append]
  rfl

theorem length_outcomes_over (k : Catalogue) (es : List ClassEntry) :
    (Pass.over k es).outcomes.length = es.length := by
  induction es using List.reverseRecOn with
  | nil => rfl
  | append_singleton es e ih =>
    rw [over_concat, (step_eq k _ e).1, List.length_append, List.length_append, ih]
    rfl

/-- The outcomes of the first targets are not touched by those that follow. -/
theorem outcomes_over_take (k : Catalogue) (es : List ClassEntry) (i : Nat) :
    (Pass.over k (es.take i)).outcomes = (Pass.over k es).outcomes.take i := by
  induction es using List.reverseRecOn with
  | nil => rw [List.take_nil]; exact List.take_nil.symm
  | append_singleton es e ih =>
    rw [over_concat, (step_eq k _ e).1, List.take_append, List.take_append, length_outcomes_over]
    rcases Nat.lt_or_ge es.length i with hi | hi
    · have ht : ([e] : List ClassEntry).take (i - es.length) = [e] :=
        List.take_of_length_le (by simp; omega)
      rw [ht, List.take_of_length_le (by omega), over_concat, (step_eq k _ e).1,
        List.take_of_length_le (by rw [length_outcomes_over]; omega),
        List.take_of_length_le (by simp; omega)]
    · have hz : i - es.length = 0 := by omega
      rw [hz, List.take_zero, List.take_zero, List.append_nil, List.append_nil, ih]

/-- **The outcome of a target**, from the pass over the targets before it. -/
theorem getElem?_outcomes_over (k : Catalogue) {es : List ClassEntry} {i : Nat} {e : ClassEntry}
    (h : es[i]? = some e) :
    (Pass.over k es).outcomes[i]? = some ((Pass.over k (es.take i)).verdict k e) := by
  obtain ⟨hi, he⟩ := List.getElem?_eq_some_iff.mp h
  have ht : es.take (i + 1) = es.take i ++ [e] := by
    rw [List.take_add_one, h]
    rfl
  have ho := outcomes_over_take k es (i + 1)
  rw [ht, over_concat, (step_eq k _ e).1] at ho
  have hg := congrArg (·[i]?) ho
  simp only [List.getElem?_take_of_lt (Nat.lt_succ_self i)] at hg
  rw [← hg, List.getElem?_append_right (by rw [length_outcomes_over, List.length_take]; omega)]
  rw [length_outcomes_over, List.length_take, Nat.min_eq_left (Nat.le_of_lt hi), Nat.sub_self]
  rfl

/-- A module name is taken once a target has been planned that wants it. -/
theorem mem_modules_over {m : String} :
    m ∈ (Pass.over k es).modules ↔ ∃ e ∈ es, ∃ p, (process k e).2 = .ok p ∧ p.module = m := by
  induction es using List.reverseRecOn with
  | nil => simp [Pass.over]
  | append_singleton es e ih =>
    rw [over_concat, (step_eq k _ e).2.1, ih]
    simp [or_and_right, exists_or]

/-- An entry name is taken once a target has been accepted that has it. -/
theorem mem_entries_over {n : String} :
    n ∈ (Pass.over k es).entries ↔
      ∃ p, Except.ok p ∈ (Pass.over k es).outcomes ∧ p.entry.name = n := by
  induction es using List.reverseRecOn with
  | nil => simp [Pass.over]
  | append_singleton es e ih =>
    rw [over_concat, (step_eq k _ e).2.2, ih, (step_eq k _ e).1]
    simp [or_and_right, exists_or, eq_comm]

/-! ## Names among the targets of a pass -/

/-- The outcome at a place is the verdict of the pass over the classes in front of it. -/
theorem verdict_of_getElem? {i : Nat} {o : Except Rejection Plan}
    (h : (Pass.over k es).outcomes[i]? = some o) :
    ∃ e, es[i]? = some e ∧ (Pass.over k (es.take i)).verdict k e = o := by
  obtain ⟨hi, -⟩ := List.getElem?_eq_some_iff.mp h
  rw [length_outcomes_over] at hi
  have he : es[i]? = some es[i] := List.getElem?_eq_getElem hi
  rw [getElem?_outcomes_over k he] at h
  exact ⟨_, he, Option.some.inj h⟩

theorem mem_take_iff {α : Type} {l : List α} {i : Nat} {x : α} :
    x ∈ l.take i ↔ ∃ j < i, l[j]? = some x := by
  rw [List.mem_iff_getElem?]
  constructor
  · rintro ⟨j, hj⟩
    rcases Nat.lt_or_ge j i with h | h
    · exact ⟨j, h, by rwa [List.getElem?_take_of_lt h] at hj⟩
    · rw [List.getElem?_take_eq_none h] at hj
      cases hj
  · rintro ⟨j, h, hj⟩
    exact ⟨j, by rwa [List.getElem?_take_of_lt h]⟩

/-- Before a target, a module name is taken if an earlier target was planned that wants it. -/
theorem mem_modules_before {i : Nat} {m : String} :
    m ∈ (Pass.over k (es.take i)).modules ↔
      ∃ j < i, ∃ e p, es[j]? = some e ∧ (process k e).2 = .ok p ∧ p.module = m := by
  rw [mem_modules_over]
  constructor
  · rintro ⟨e, he, p, hp, hm⟩
    obtain ⟨j, hj, hje⟩ := mem_take_iff.mp he
    exact ⟨j, hj, e, p, hje, hp, hm⟩
  · rintro ⟨j, hj, e, p, hje, hp, hm⟩
    exact ⟨e, mem_take_iff.mpr ⟨j, hj, hje⟩, p, hp, hm⟩

/-- Before a target, an entry name is taken if an earlier target was accepted that has it. -/
theorem mem_entries_before {i : Nat} {n : String} :
    n ∈ (Pass.over k (es.take i)).entries ↔
      ∃ j < i, ∃ p, (Pass.over k es).outcomes[j]? = some (.ok p) ∧ p.entry.name = n := by
  rw [mem_entries_over, outcomes_over_take]
  constructor
  · rintro ⟨p, hp, hn⟩
    obtain ⟨j, hj, hjp⟩ := mem_take_iff.mp hp
    exact ⟨j, hj, p, hjp, hn⟩
  · rintro ⟨j, hj, p, hjp, hn⟩
    exact ⟨p, mem_take_iff.mpr ⟨j, hj, hjp⟩, hn⟩

/-- Two accepted targets with one module name are one target. -/
theorem index_unique {i j : Nat} {S T : Plan}
    (hi : (Pass.over k es).outcomes[i]? = some (.ok S))
    (hj : (Pass.over k es).outcomes[j]? = some (.ok T)) (h : S.module = T.module) : i = j := by
  -- the later of the two would have found the module name taken by the earlier one
  have hlt : ∀ {i j : Nat} {S T : Plan}, (Pass.over k es).outcomes[i]? = some (.ok S) →
      (Pass.over k es).outcomes[j]? = some (.ok T) → S.module = T.module → ¬ i < j := by
    intro i j S T hi hj h hij
    obtain ⟨e, he, hv⟩ := verdict_of_getElem? hi
    obtain ⟨e', he', hv'⟩ := verdict_of_getElem? hj
    exact (verdict_eq_ok hv').2.1
      (mem_modules_before.mpr ⟨i, hij, e, S, he, (verdict_eq_ok hv).1, h⟩)
  rcases Nat.lt_trichotomy i j with hij | hij | hij
  · exact absurd hij (hlt hi hj h)
  · exact hij
  · exact absurd hij (hlt hj hi h.symm)

/-! ## Accepted plans -/

/-- The accepted plans of a pass hold different names, and all of these are taken. -/
structure HoldsApart (s : Pass) : Prop where
  modules : (s.plans.map (·.module)).Nodup
  entries : (s.plans.map (·.entry.name)).Nodup
  held : ∀ p ∈ s.plans, p.module ∈ s.modules ∧ p.entry.name ∈ s.entries

/-- A step adds the plan that it accepts, if any. -/
theorem plans_step (k : Catalogue) (s : Pass) (e : ClassEntry) :
    (s.step k e).plans = s.plans ++ (s.verdict k e).toOption.toList := by
  rw [Pass.plans, Pass.plans, (step_eq k s e).1, List.filterMap_append]
  cases s.verdict k e <;> rfl

/-- A plan behind others whose name none of them holds. -/
theorem nodup_map_concat {f : Plan → String} {ps : List Plan} {q : Plan} (h : (ps.map f).Nodup)
    (hq : ∀ p ∈ ps, f p ≠ f q) : ((ps ++ [q]).map f).Nodup := by
  rw [List.map_append]
  refine List.nodup_append.mpr ⟨h, List.pairwise_singleton _ _, ?_⟩
  intro n hn m hm
  obtain ⟨p, hp, rfl⟩ := List.mem_map.mp hn
  rw [List.mem_singleton.mp hm]
  exact hq p hp

/-- **A target that is accepted takes new names.** -/
theorem holdsApart_step (h : HoldsApart s) : HoldsApart (s.step k e) := by
  obtain ⟨-, hm, hn⟩ := step_eq k s e
  have hplans := plans_step k s e
  cases hv : s.verdict k e with
  | error r =>
    rw [hv] at hplans
    have hsame : (s.step k e).plans = s.plans := hplans.trans (List.append_nil _)
    refine ⟨hsame ▸ h.modules, hsame ▸ h.entries, fun p hp => ?_⟩
    obtain ⟨hpm, hpn⟩ := h.held p (hsame ▸ hp)
    exact ⟨(hm _).mpr (.inl hpm), (hn _).mpr (.inl hpn)⟩
  | ok q =>
    rw [hv] at hplans
    obtain ⟨hq, hfree, hfree'⟩ := verdict_eq_ok hv
    -- what the accepted plans hold is taken, and what the new one holds was not
    have hmodules : ∀ p ∈ s.plans, p.module ≠ q.module := by
      intro p hp he
      exact hfree (he ▸ (h.held p hp).1)
    have hentries : ∀ p ∈ s.plans, p.entry.name ≠ q.entry.name := by
      intro p hp he
      exact hfree' (he ▸ (h.held p hp).2)
    have hadd : (s.step k e).plans = s.plans ++ [q] := hplans
    refine ⟨?_, ?_, fun p hp => ?_⟩
    · rw [hadd]
      exact nodup_map_concat h.modules hmodules
    · rw [hadd]
      exact nodup_map_concat h.entries hentries
    · rw [hadd] at hp
      rcases List.mem_append.mp hp with hp | hp
      · obtain ⟨hpm, hpn⟩ := h.held p hp
        exact ⟨(hm _).mpr (.inl hpm), (hn _).mpr (.inl hpn)⟩
      · rw [List.mem_singleton.mp hp]
        exact ⟨(hm _).mpr (.inr ⟨q, hq, rfl⟩), (hn _).mpr (.inr ⟨q, hv, rfl⟩)⟩

/-- **The accepted plans of a pass** hold different names. -/
theorem holdsApart_over (k : Catalogue) (es : List ClassEntry) : HoldsApart (Pass.over k es) := by
  induction es using List.reverseRecOn with
  | nil => exact ⟨List.nodup_nil, List.nodup_nil, fun _ h => absurd h List.not_mem_nil⟩
  | append_singleton es e ih =>
    rw [over_concat]
    exact holdsApart_step ih

end FluentBuilders.Batch
