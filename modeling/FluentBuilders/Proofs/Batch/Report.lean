/-
  Report — what a batch comes to, class by class, in whatever order the classes are declared.

  The warnings about missing builders are the one part of a report that looks across classes: they
  leave out later copies.  Copies are about one class, and no two classes have one name, so leaving
  them out class by class is the same (`distinct_flatMap`), and the whole report is put together
  from what is said of each class.
-/
import FluentBuilders.Proofs.Batch.Order

namespace FluentBuilders.Batch

open Descriptor (ClassEntry)
open Catalogue (Reordered Distinct)

variable {d : Descriptor} {s : Selection} {support : String}

/-! ## Leaving out copies -/

section Copies

variable {α β γ : Type} [BEq α] [LawfulBEq α] {x y : α}

/-- One step of leaving out copies. -/
def addNew (seen : List α) (x : α) : List α := if seen.contains x then seen else seen ++ [x]

theorem mem_addNew {seen : List α} : y ∈ addNew seen x ↔ y ∈ seen ∨ y = x := by
  rw [addNew]
  split
  · rename_i h
    rw [List.contains_iff_mem] at h
    constructor
    · intro hy
      exact .inl hy
    · rintro (hy | rfl)
      · exact hy
      · exact h
  · rw [List.mem_append, List.mem_singleton]

theorem mem_foldl_addNew : ∀ {xs seen : List α},
    y ∈ xs.foldl addNew seen ↔ y ∈ seen ∨ y ∈ xs
  | [], _ => by simp
  | x :: xs, seen => by
    rw [List.foldl_cons, mem_foldl_addNew, mem_addNew, List.mem_cons, or_assoc]

theorem mem_distinct {xs : List α} : x ∈ distinct xs ↔ x ∈ xs := by
  show x ∈ xs.foldl addNew [] ↔ _
  rw [mem_foldl_addNew]
  simp

theorem nodup_foldl_addNew : ∀ {xs seen : List α}, seen.Nodup → (xs.foldl addNew seen).Nodup
  | [], _, h => h
  | x :: xs, seen, h => by
    rw [List.foldl_cons]
    refine nodup_foldl_addNew ?_
    rw [addNew]
    split
    · exact h
    · rename_i hx
      rw [List.contains_iff_mem] at hx
      exact List.nodup_append_comm.mp (List.nodup_cons.mpr ⟨hx, h⟩)

theorem nodup_distinct (xs : List α) : (distinct xs).Nodup := nodup_foldl_addNew List.nodup_nil

/-- What was seen before matters only as far as it comes again. -/
theorem foldl_addNew : ∀ {xs seen acc : List α}, (∀ x ∈ xs, x ∉ seen) →
    xs.foldl addNew (seen ++ acc) = seen ++ xs.foldl addNew acc
  | [], _, _, _ => rfl
  | x :: xs, seen, acc, h => by
    have hx : x ∉ seen := h x List.mem_cons_self
    have hs : addNew (seen ++ acc) x = seen ++ addNew acc x := by
      rw [addNew, addNew]
      by_cases ha : x ∈ acc
      · rw [if_pos (List.contains_iff_mem.mpr (List.mem_append_right _ ha)),
          if_pos (List.contains_iff_mem.mpr ha)]
      · rw [if_neg (by simp [hx, ha]), if_neg (by simp [ha]), List.append_assoc]
    rw [List.foldl_cons, hs, List.foldl_cons]
    exact foldl_addNew fun y hy => h y (List.mem_cons_of_mem _ hy)

/-- Lists with nothing in common keep their distinct items apart. -/
theorem distinct_append {xs ys : List α} (h : ∀ y ∈ ys, y ∉ xs) :
    distinct (xs ++ ys) = distinct xs ++ distinct ys := by
  show (xs ++ ys).foldl addNew [] = _
  rw [List.foldl_append]
  have hd : ∀ y ∈ ys, y ∉ distinct xs := fun y hy hm => h y hy (mem_distinct.mp hm)
  have hf : ys.foldl addNew (distinct xs ++ []) = distinct xs ++ distinct ys := foldl_addNew hd
  rwa [List.append_nil] at hf

/-- Copies may be left out group by group if no two groups have one key. -/
theorem distinct_flatMap {f : β → List α} {g : α → γ} {h : β → γ}
    (hk : ∀ b, ∀ x ∈ f b, g x = h b) : ∀ {bs : List β}, (bs.map h).Nodup →
      distinct (bs.flatMap f) = bs.flatMap fun b => distinct (f b)
  | [], _ => rfl
  | b :: bs, hn => by
    obtain ⟨hb, hbs⟩ := List.nodup_cons.mp hn
    rw [List.flatMap_cons, List.flatMap_cons, distinct_append, distinct_flatMap hk hbs]
    intro y hy hy'
    obtain ⟨b', hb', hyb⟩ := List.mem_flatMap.mp hy
    refine hb (List.mem_map.mpr ⟨b', hb', ?_⟩)
    rw [← hk b' y hyb, hk b y hy']

end Copies

/-! ## Missing builders -/

/-- The nested builders of a plan that are expected beside it and not among the given ones. -/
def missingIn (builders : List String) (p : Plan) : List (String × String) :=
  ((nestedBuilders p).filter fun b => !builders.contains b && importsSibling p b).map
    fun b => (p.className, b)

/-- The missing builders of what came of a class. -/
def missingOf (builders : List String) : Except Rejection Plan → List (String × String)
  | .ok p => missingIn builders p
  | .error _ => []

/-- The warning about a missing builder. -/
def missingWarning : String × String → Warning
  | (c, b) => .missingBuilder c b

/-- Which builders are missing does not depend on the order in which they are listed. -/
theorem missingOf_perm {bs bs' : List String} (h : bs'.Perm bs) : missingOf bs' = missingOf bs := by
  have hc : ∀ b, bs'.contains b = bs.contains b := by
    intro b
    rw [Bool.eq_iff_iff, List.contains_iff_mem, List.contains_iff_mem, h.mem_iff]
  funext o
  cases o with
  | ok p => simp only [missingOf, missingIn, hc]
  | error r => rfl

theorem flatMap_missingIn (builders : List String) (outcome : ClassEntry → Except Rejection Plan) :
    ∀ es : List ClassEntry, (es.filterMap fun e => (outcome e).toOption).flatMap
      (missingIn builders) = es.flatMap fun e => missingOf builders (outcome e)
  | [] => rfl
  | e :: es => by
    rw [List.filterMap_cons, List.flatMap_cons, ← flatMap_missingIn builders outcome es]
    cases outcome e with
    | ok p => exact List.flatMap_cons
    | error r => rfl

/-- **Missing builders class by class**, if the plans are of different classes. -/
theorem missingBuilders_eq {es : List ClassEntry} {f : ClassEntry → Except Rejection Plan}
    (hn : (es.map (·.name)).Nodup) (hf : ∀ e S, f e = .ok S → S.className = e.name) :
    missingBuilders (es.filterMap fun e => (f e).toOption)
      = es.flatMap fun e => distinct (missingOf
          ((es.filterMap fun e => (f e).toOption).map (·.builder)) (f e)) := by
  have hkey : ∀ builders e, ∀ x ∈ missingOf builders (f e), x.1 = e.name := by
    intro builders e x hx
    cases hfe : f e with
    | error r =>
      rw [hfe] at hx
      exact absurd hx List.not_mem_nil
    | ok p =>
      rw [hfe] at hx
      obtain ⟨b, -, rfl⟩ := List.mem_map.mp hx
      exact hf e p hfe
  show distinct ((es.filterMap fun e => (f e).toOption).flatMap (missingIn _)) = _
  rw [flatMap_missingIn]
  exact distinct_flatMap (hkey _) hn

/-! ## The report -/

/-- The plans of a pass are those among its outcomes. -/
theorem plans_eq_filterMap {p : Pass} {es : List ClassEntry}
    {outcome : ClassEntry → Except Rejection Plan} (h : p.outcomes = es.map outcome) :
    p.plans = es.filterMap fun e => (outcome e).toOption := by
  rw [Pass.plans, h, List.filterMap_map]
  rfl

/-- The counts of a report do not depend on the order of the plans. -/
theorem statistics_perm {p p' : Pass} (ho : p'.outcomes.length = p.outcomes.length)
    (hp : p'.plans.Perm p.plans) :
    Statistics.of p' p'.plans
      = { Statistics.of p p.plans with warnings := (Statistics.of p' p'.plans).warnings } := by
  have hc : ∀ test, countFunctions test p'.plans = countFunctions test p.plans := fun test =>
    (hp.flatMap_right _).countP_eq test
  simp only [Statistics.of, hc, ho, hp.length_eq, (hp.flatMap_right _).length_eq]

/-- **Declaration order does not matter.**  One function gives the outcome of each class, whatever
    the order of the classes; plans and warnings follow that order, and no count changes. -/
theorem synthesize_reordered (hd : Distinct d) (ha : Apart (s.apply d).targets)
    (support : String) :
    ∃ (outcome : ClassEntry → Except Rejection Plan) (reported missing : ClassEntry → List Warning),
      ∀ d', Reordered d d' →
        (finalPass d' s support).outcomes = (s.apply d').targets.map outcome ∧
        (synthesize d' s support).plans
          = (s.apply d').targets.filterMap (fun e => (outcome e).toOption) ∧
        (synthesize d' s support).statistics
          = { (synthesize d s support).statistics with
              warnings := (s.apply d').targets.flatMap reported
                ++ (s.apply d').targets.flatMap missing } := by
  -- the outcomes are those of the original run, and so are the builders that a class can miss
  let k := finalCatalogue d s support
  let outcome := fun e => (process k e).2
  let builders := (synthesize d s support).plans.map (·.builder)
  refine ⟨outcome, fun e => (diagnosticsOf k e).map Warning.ofDiagnostic,
    fun e => (distinct (missingOf builders (outcome e))).map missingWarning, fun d' hr => ?_⟩
  obtain ⟨ho, hdiag⟩ := finalPass_reordered hd ha hr support
  have hplans := plans_eq_filterMap ho
  have hself : Reordered d d := ⟨.refl _, rfl⟩
  have ho₀ := (finalPass_reordered hd ha hself support).1
  have ht := targets_reordered (reordered_apply hr s)
  have hperm : (finalPass d' s support).plans.Perm (finalPass d s support).plans := by
    rw [hplans, plans_eq_filterMap ho₀]
    exact ht.filterMap _
  refine ⟨ho, hplans, ?_⟩
  have hlen :
      (finalPass d' s support).outcomes.length = (finalPass d s support).outcomes.length := by
    rw [ho, ho₀, List.length_map, List.length_map, ht.length_eq]
  have hn : ((s.apply d').targets.map (·.name)).Nodup := by
    have hd' := distinct_apply (hd.of_reordered hr) s
    exact hd'.names.sublist (List.filter_sublist.map _)
  have hmissing := missingBuilders_eq (f := outcome) hn
    fun e S hS => (process_names hS).2.1
  rw [← hplans, missingOf_perm (hperm.map _)] at hmissing
  have hwarn : (Statistics.of (finalPass d' s support) (finalPass d' s support).plans).warnings
      = (finalPass d' s support).diagnostics.map Warning.ofDiagnostic
        ++ (missingBuilders (finalPass d' s support).plans).map missingWarning := rfl
  rw [hdiag, hmissing, List.map_flatMap, List.map_flatMap] at hwarn
  have hstat := statistics_perm hlen hperm
  rw [hwarn] at hstat
  exact hstat

/-- Two classes that refer to each other, and an abstract one that the first refers to. -/
def ring : Descriptor where
  version := Descriptor.currentVersion
  classes := [smallClass "A" "m" "" .final [("b", "B"), ("c", "C")],
    smallClass "B" "m" "" .final [("a", "A")], smallClass "C" "m" "" .abstract []]

theorem synthesize_reordered_ring :
    Distinct ring ∧ Apart (Selection.apply {} ring).targets ∧
      (synthesize ring {} "support").plans.map (·.builder) = ["ABuilder", "BBuilder"] ∧
      (synthesize { ring with classes := ring.classes.reverse } {} "support").plans
        = (synthesize ring {} "support").plans.reverse := by
  have hd : Distinct ring := ⟨by decide, by decide, by decide⟩
  have ha : Apart (Selection.apply {} ring).targets := ⟨by decide, by decide⟩
  obtain ⟨outcome, _, _, h⟩ := synthesize_reordered hd ha "support"
  obtain ⟨-, hp, -⟩ := h ring ⟨.refl _, rfl⟩
  obtain ⟨-, hp', -⟩ := h { ring with classes := ring.classes.reverse }
    ⟨List.reverse_perm _, rfl⟩
  refine ⟨hd, ha, by decide +kernel, ?_⟩
  rw [hp', hp, ← List.filterMap_reverse]
  rfl

end FluentBuilders.Batch
