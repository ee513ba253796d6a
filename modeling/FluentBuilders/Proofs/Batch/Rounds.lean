/-
  Rounds — how often the classes of a batch are gone through, and where that ends.

  The passes of a batch are a loop that asks one question behind each pass: did it reject a class
  that is still marked among the known ones?  `Rounds` is that loop with no measure in it, and
  `settle` is its one run (`settle_rounds`, `Rounds.unique`).

  The rejected classes themselves are no measure, since a class that one pass rejects may be
  accepted by the next.  What drops is the number of marks among the known classes: a pass that is
  followed by another one takes a mark away (`withdraws_afterPass`), and no pass gives one back.
-/
import FluentBuilders.Proofs.Batch.Settling
import Mathlib.Data.List.Chain
import Mathlib.Data.List.Forall2

namespace FluentBuilders.Batch

open Descriptor (ClassEntry)

variable {targets known known' : Descriptor} {support : String} {e : ClassEntry}
  {ks ks' : List Descriptor} {p p' : Pass}

/-! ## The loop -/

/-- Another round is needed: the pass rejects a class that is still marked among the known ones. -/
def Unsettled (targets known : Descriptor) (support : String) : Prop :=
  ∃ e ∈ known.targets, keyOf e ∈ (Pass.run targets known support).rejected targets

/-- The rounds of a batch from a known descriptor on: what is known in each of them, and the pass
    that ends them. -/
inductive Rounds (targets : Descriptor) (support : String) :
    Descriptor → List Descriptor → Pass → Prop
  | last {known : Descriptor} (h : ¬ Unsettled targets known support) :
      Rounds targets support known [known] (Pass.run targets known support)
  | more {known : Descriptor} {ks : List Descriptor} {p : Pass}
      (h : Unsettled targets known support)
      (hr : Rounds targets support (afterPass targets known support) ks p) :
      Rounds targets support known (known :: ks) p

/-- The loop leaves no choice. -/
theorem Rounds.unique (h : Rounds targets support known ks p) :
    Rounds targets support known ks' p' → ks' = ks ∧ p' = p := by
  induction h generalizing ks' p' with
  | last hend =>
    intro h'
    cases h' with
    | last => exact ⟨rfl, rfl⟩
    | more hmore => exact absurd hmore hend
  | more hmore _ ih =>
    intro h'
    cases h' with
    | last hend => exact absurd hmore hend
    | more _ hr' =>
      obtain ⟨rfl, rfl⟩ := ih hr'
      exact ⟨rfl, rfl⟩

/-! ## What a round takes away -/

/-- A descriptor differs from another by marks that are gone, at least one, and by nothing else. -/
structure Withdraws (d d' : Descriptor) : Prop where
  /-- Nothing but the classes is touched. -/
  rest : d' = { d with classes := d'.classes }
  /-- A class stays as it is or loses its mark. -/
  classes : List.Forall₂ (fun e e' => e' = e ∨ e' = { e with generate := none })
    d.classes d'.classes
  /-- Some class that had a mark has none. -/
  fewer : ∃ (i : Nat) (e : ClassEntry), d.classes[i]? = some e ∧ e.generate.isSome = true ∧
    d'.classes[i]? = some { e with generate := none }

/-- Withdrawing the mark of a target withdraws something. -/
theorem withdraws_withdraw {keys : List (String × String)} {d : Descriptor} (he : e ∈ d.targets)
    (hk : keyOf e ∈ keys) : Withdraws d (withdraw keys d) where
  rest := rfl
  classes := by
    show List.Forall₂ _ d.classes (d.classes.map (unmark keys))
    rw [List.forall₂_map_right_iff, List.forall₂_same]
    intro e _
    by_cases h : keyOf e ∈ keys
    · exact .inr (unmark_of_mem h)
    · exact .inl (unmark_of_not_mem h)
  fewer := by
    obtain ⟨hc, hg⟩ := List.mem_filter.mp he
    obtain ⟨i, hi⟩ := List.mem_iff_getElem?.mp hc
    refine ⟨i, e, hi, hg, ?_⟩
    show (d.classes.map (unmark keys))[i]? = _
    rw [List.getElem?_map, hi, Option.map_some, unmark_of_mem hk]

/-- **A round that is not the last** takes a mark away. -/
theorem withdraws_afterPass (h : Unsettled targets known support) :
    Withdraws known (afterPass targets known support) := by
  obtain ⟨e, he, hk⟩ := h
  exact withdraws_withdraw he hk

/-- Another round is needed exactly when the marks get fewer. -/
theorem unsettled_iff :
    Unsettled targets known support ↔
      (afterPass targets known support).targets.length < known.targets.length := by
  rw [afterPass, targets_withdraw]
  constructor
  · rintro ⟨e, he, hk⟩
    -- the class that is rejected is filtered out
    refine List.length_filter_lt_length_iff_exists.mpr ⟨e, he, ?_⟩
    simp [hk]
  · intro hlt
    obtain ⟨e, he, hk⟩ := List.length_filter_lt_length_iff_exists.mp hlt
    exact ⟨e, he, by simpa using hk⟩

/-! ## Whole runs -/

/-- The passes that lead to the settled one are the rounds of the loop. -/
theorem settle_rounds (targets known : Descriptor) (support : String) :
    Rounds targets support known (knowns targets known support)
      (settle targets known support) := by
  induction known using knowns.induct targets support with
  | case1 known h ih =>
    have hs : settle targets known support
        = settle targets (afterPass targets known support) support := by
      rw [settle]
      exact if_pos h
    rw [knowns, if_pos h, hs]
    exact .more (unsettled_iff.mpr h) ih
  | case2 known h =>
    have hs : settle targets known support = Pass.run targets known support := by
      rw [settle]
      exact if_neg h
    rw [knowns, if_neg h, hs]
    exact .last (mt unsettled_iff.mp h)

/-- There are at most as many rounds as marks, and one more. -/
theorem Rounds.length_le (h : Rounds targets support known ks p) :
    ks.length ≤ known.targets.length + 1 := by
  induction h with
  | last => exact Nat.le_add_left 1 _
  | more hmore _ ih =>
    have hlt := unsettled_iff.mp hmore
    rw [List.length_cons]
    omega

/-- The rounds begin with what is known. -/
theorem Rounds.head (h : Rounds targets support known ks p) : ∃ rest, ks = known :: rest := by
  cases h with
  | last => exact ⟨[], rfl⟩
  | more => exact ⟨_, rfl⟩

/-- From each round to the next one marks are withdrawn, and nothing else happens. -/
theorem Rounds.isChain (h : Rounds targets support known ks p) : ks.IsChain Withdraws := by
  induction h with
  | last => exact List.isChain_singleton _
  | more hmore hr ih =>
    obtain ⟨rest, rfl⟩ := hr.head
    exact List.isChain_cons_cons.mpr ⟨withdraws_afterPass hmore, ih⟩

/-- The last round needs no further one, and its pass is the result. -/
theorem Rounds.settled (h : Rounds targets support known ks p) :
    ∃ k, ks.getLast? = some k ∧ p = Pass.run targets k support ∧
      ¬ Unsettled targets k support := by
  induction h with
  | last hend => exact ⟨_, rfl, rfl, hend⟩
  | more _ hr ih =>
    obtain ⟨k, hk, hp, hend⟩ := ih
    obtain ⟨rest, rfl⟩ := hr.head
    exact ⟨k, by rw [List.getLast?_cons_cons, hk], hp, hend⟩

/-- **The rounds come to an end, at a fixed point.**  There is one run of the loop.  It has at most
    one round more than there are targets, from each round to the next one nothing happens but that
    marks are withdrawn, and whatever the last pass rejects has lost its mark before that pass. -/
theorem finalPass_rounds (d : Descriptor) (s : Selection) (support : String) :
    ∃ ks, Rounds (s.apply d) support (s.apply d) ks (finalPass d s support) ∧
      (∀ ks' p', Rounds (s.apply d) support (s.apply d) ks' p' →
        ks' = ks ∧ p' = finalPass d s support) ∧
      ks.length ≤ (s.apply d).targets.length + 1 ∧
      ks.IsChain Withdraws ∧
      ∃ k, ks.getLast? = some k ∧ finalPass d s support = Pass.run (s.apply d) k support ∧
        ∀ (i : Nat) (e : ClassEntry) (r : Rejection), (s.apply d).targets[i]? = some e →
          (finalPass d s support).outcomes[i]? = some (.error r) →
            ∀ c ∈ k.classes, c.package = e.package → c.name = e.name → c.generate = none := by
  have h := settle_rounds (s.apply d) (s.apply d) support
  refine ⟨_, h, fun _ _ h' => h.unique h', h.length_le, h.isChain, ?_⟩
  obtain ⟨k, hk, hp, hend⟩ := h.settled
  refine ⟨k, hk, hp, fun i e r he hr c hc hpackage hname => ?_⟩
  have hp' : finalPass d s support = Pass.run (s.apply d) k support := hp
  have hrej : keyOf e ∈ (Pass.run (s.apply d) k support).rejected (s.apply d) :=
    hp' ▸ mem_rejected_of_getElem? he hr
  -- a class of that name with a mark would have called for another round
  by_contra hg
  have hmarked : c ∈ k.targets :=
    List.mem_filter.mpr ⟨hc, Option.isSome_iff_ne_none.mpr hg⟩
  have hkey : keyOf c = keyOf e := by rw [keyOf, keyOf, hpackage, hname]
  exact hend ⟨c, hmarked, hkey ▸ hrej⟩

end FluentBuilders.Batch
