/-
  Order — a batch whose classes are declared in another order says the same of each class.

  Two runs over the same classes are kept in step, pass by pass.  What is known in them differs in
  the order of the classes only (`Reordered`), so their catalogues give the same answers (`Alike`),
  and a class is processed alike in both.  Since no module name and no entry name is wanted twice,
  no target stands in the way of another (`over_eq`): a pass says of each target what processing
  says of it, so both passes reject the same classes, and what is known in the next passes differs
  in order only again.
-/
import FluentBuilders.Proofs.Batch.Processing
import FluentBuilders.Proofs.Batch.Settling
import FluentBuilders.Proofs.Catalogue.Order

namespace FluentBuilders

open Descriptor (ClassEntry CollectionOverride)

/-! ## Catalogues that answer alike -/

/-- Two catalogues that give the same answers. -/
structure Catalogue.Alike (k k' : Catalogue) : Prop where
  resolve : ∀ name, k'.resolve name = k.resolve name
  support : k'.support = k.support

section Alike

variable {k k' : Catalogue} {className name : String}

/-- Catalogues that resolve alike know the same builders. -/
theorem builderOf_alike (h : k.Alike k') : k'.builderOf name = k.builderOf name := by
  rw [Catalogue.builderOf, Catalogue.builderOf, h.resolve]

theorem shapeOf_alike (h : k.Alike k') : k'.shapeOf name = k.shapeOf name := by
  rw [Catalogue.shapeOf, Catalogue.shapeOf, h.resolve]

theorem defaultContainer_alike (h : k.Alike k') (shape : Shape) :
    k'.defaultContainer shape = k.defaultContainer shape := by
  rw [Catalogue.defaultContainer_eq, Catalogue.defaultContainer_eq, h.support]
  exact h.resolve _

theorem containerFor_alike (h : k.Alike k') (shape : Option Shape)
    (override : Option CollectionOverride) (unresolvable : Option String → Rejection) :
    k'.containerFor shape override unresolvable = k.containerFor shape override unresolvable := by
  simp only [Catalogue.containerFor, h.resolve, defaultContainer_alike h]

/-- A parameter has the same category under catalogues that resolve alike. -/
theorem category_alike (h : k.Alike k') (p : Parameter) :
    p.category className k' = p.category className k := by
  have hc : ∀ shape, p.collection className k' shape = p.collection className k shape := by
    intro shape
    simp only [Parameter.collection, containerFor_alike h]
  simp only [Parameter.category, builderOf_alike h, shapeOf_alike h, hc]

/-- A class is planned in the same way under catalogues that resolve alike. -/
theorem planOf_alike (h : k.Alike k') (f : Class.Facts) :
    Batch.planOf k' f = Batch.planOf k f := by
  have hc : ∀ c : Constructor, c.classify f.subject.name k' = c.classify f.subject.name k := by
    intro c
    simp only [Constructor.classify, Parameter.classify, category_alike h]
  simp only [Batch.planOf, hc]

/-- **A class is processed alike** against catalogues that answer alike. -/
theorem process_alike (h : k.Alike k') : Batch.process k' = Batch.process k := by
  have hp : Batch.planOf k' = Batch.planOf k := funext (planOf_alike h)
  funext e
  rw [Batch.process, hp]
  rfl

end Alike

namespace Batch

open Catalogue (Reordered Distinct Alike)

variable {k : Catalogue} {d d' targets targets' known known' : Descriptor} {s : Selection}
  {S : Plan} {e : ClassEntry} {es : List ClassEntry}

/-! ## A pass without collisions -/

/-- The module that a builder of a class would be in. -/
def moduleFor (e : ClassEntry) : String := Name.moduleOf (Name.builder e.name)

/-- The entry function that a builder of a class would have. -/
def entryFor (e : ClassEntry) : String := Name.entry (e.generate.bind (·.displayName)) e.name

/-- The entry function of a plan is that of the class entry. -/
theorem process_entry (h : (process k e).2 = .ok S) : S.entry.name = entryFor e := by
  obtain ⟨f, -, -, hf, -, -, -, -, -, rfl⟩ := process_stages h
  obtain ⟨m, -, -, -, hsub⟩ := Class.read_facts hf
  rw [hsub]
  rw [entryFor, Class.displayName_eq]
  rfl

theorem process_module (h : (process k e).2 = .ok S) : S.module = moduleFor e := by
  obtain ⟨hb, -, -, hm⟩ := process_names h
  rw [hm, hb]
  rfl

/-- Targets of which no two want one module or one entry function. -/
structure Apart (es : List ClassEntry) : Prop where
  modules : (es.map moduleFor).Nodup
  entries : (es.map entryFor).Nodup

/-- What a pass reports about one target. -/
def diagnosticsOf (k : Catalogue) (e : ClassEntry) : List Diagnostic :=
  (process k e).1.map Diagnostic.noticed ++
    match (process k e).2 with
    | .ok _ => []
    | .error r => [Diagnostic.rejected r]

/-- A target is accepted if nothing before it wants its names. -/
theorem verdict_of_apart (h : Apart (es ++ [e])) :
    (Pass.over k es).verdict k e = (process k e).2 := by
  cases hp : (process k e).2 with
  | error r => exact verdict_of_error hp
  | ok S =>
    have hm := h.modules
    have he := h.entries
    rw [List.map_append, List.nodup_append] at hm he
    have hmod : S.module ∉ (Pass.over k es).modules := by
      intro hin
      obtain ⟨e', he', p, hp', hpm⟩ := mem_modules_over.mp hin
      refine hm.2.2 _ (List.mem_map_of_mem he') _ (List.mem_singleton.mpr rfl) ?_
      rw [← process_module hp, ← process_module hp', hpm]
    have hent : S.entry.name ∉ (Pass.over k es).entries := by
      intro hin
      obtain ⟨p, hp', hpe⟩ := mem_entries_over.mp hin
      obtain ⟨i, hi⟩ := List.mem_iff_getElem?.mp hp'
      obtain ⟨e', he', hv⟩ := verdict_of_getElem? hi
      refine he.2.2 _ (List.mem_map_of_mem (List.mem_of_getElem? he')) _
        (List.mem_singleton.mpr rfl) ?_
      rw [← process_entry hp, ← process_entry (verdict_eq_ok hv).1, hpe]
    rw [verdict_of_ok hp, if_neg hmod, if_neg hent]

/-- A step reports the notices of its class, and the rejection if there is one. -/
theorem diagnostics_step (k : Catalogue) (s : Pass) (e : ClassEntry) :
    (s.step k e).diagnostics
      = s.diagnostics ++ ((process k e).1.map Diagnostic.noticed ++
          match s.verdict k e with
          | .ok _ => []
          | .error r => [Diagnostic.rejected r]) := by
  cases hp : (process k e).2 with
  | error r =>
    simp [Pass.step, Pass.verdict, hp]
  | ok p =>
    rw [verdict_of_ok hp]
    simp only [Pass.step, hp, accept_eq]
    split
    · simp [taken]
    · split <;> simp [taken]

/-- **In a pass without collisions** every target is on its own. -/
theorem over_eq (h : Apart es) :
    (Pass.over k es).outcomes = es.map (fun e => (process k e).2) ∧
      (Pass.over k es).diagnostics = es.flatMap (diagnosticsOf k) := by
  induction es using List.reverseRecOn with
  | nil => exact ⟨rfl, rfl⟩
  | append_singleton es e ih =>
    have hes : Apart es := by
      have hsub : es.Sublist (es ++ [e]) := List.sublist_append_left es [e]
      exact ⟨h.modules.sublist (hsub.map _), h.entries.sublist (hsub.map _)⟩
    obtain ⟨ho, hd⟩ := ih hes
    rw [over_concat, (step_eq k _ e).1, diagnostics_step, verdict_of_apart h, ho, hd,
      List.map_append, List.flatMap_append]
    exact ⟨rfl, by simp [diagnosticsOf]⟩

theorem Apart.of_perm {es' : List ClassEntry} (h : Apart es) (hp : es'.Perm es) : Apart es' where
  modules := (hp.map moduleFor).nodup_iff.mpr h.modules
  entries := (hp.map entryFor).nodup_iff.mpr h.entries

/-- In a pass without collisions the rejected targets are those that processing rejects. -/
theorem rejected_run (h : Apart targets.targets) (known : Descriptor) (support : String) :
    (Pass.run targets known support).rejected targets
      = (targets.targets.filter fun e =>
          isRejected (process (.ofDescriptor known support) e).2).map keyOf := by
  have ho : (Pass.run targets known support).outcomes
      = targets.targets.map fun e => (process (.ofDescriptor known support) e).2 := (over_eq h).1
  rw [Pass.rejected, ho]
  induction targets.targets with
  | nil => rfl
  | cons e es ih =>
    rw [List.map_cons, List.zip_cons_cons, List.filter_cons, List.filter_cons]
    show List.map _ (if isRejected (process _ e).2 then _ else _) = _
    cases isRejected (process (.ofDescriptor known support) e).2 with
    | true =>
      exact congrArg (keyOf e :: ·) ih
    | false =>
      exact ih

/-! ## Two runs in step -/

/-- The targets of a reordered descriptor are the targets, reordered. -/
theorem targets_reordered (hr : Reordered d d') : d'.targets.Perm d.targets :=
  hr.classes.filter _

/-- **A reordered descriptor resolves alike** if no two entries declare the same. -/
theorem alike_of_reordered (hd : Distinct known) (hr : Reordered known known')
    (support : String) : Alike (.ofDescriptor known support) (.ofDescriptor known' support) where
  resolve := fun name => by
    rw [Catalogue.resolve_ofDescriptor, Catalogue.resolve_ofDescriptor,
      Catalogue.origin_reordered hd hr]
  support := rfl

/-- Marks withdrawn on both sides leave a difference in order. -/
theorem reordered_withdraw {ks ks' : List (String × String)} (hr : Reordered known known')
    (hk : ∀ key, key ∈ ks' ↔ key ∈ ks) :
    Reordered (withdraw ks known) (withdraw ks' known') := by
  have hu : unmark ks' = unmark ks := by
    funext e
    by_cases h : keyOf e ∈ ks
    · rw [unmark_of_mem h, unmark_of_mem ((hk _).mpr h)]
    · rw [unmark_of_not_mem h, unmark_of_not_mem fun h' => h ((hk _).mp h')]
  refine ⟨?_, hr.types⟩
  show (known'.classes.map (unmark ks')).Perm (known.classes.map (unmark ks))
  rw [hu]
  exact hr.classes.map _

theorem name_unmark (keys : List (String × String)) (e : ClassEntry) :
    (unmark keys e).name = e.name ∧ (unmark keys e).package = e.package := by
  rw [unmark]
  split <;> exact ⟨rfl, rfl⟩

theorem distinct_withdraw (hd : Distinct d) (keys : List (String × String)) :
    Distinct (withdraw keys d) :=
  hd.of_map (w := unmark keys) fun e => name_unmark keys e

/-- **One pass keeps two runs in step.** -/
theorem reordered_afterPass (ha : Apart targets.targets) (ht : Reordered targets targets')
    (hd : Distinct known) (hr : Reordered known known') (support : String) :
    Reordered (afterPass targets known support) (afterPass targets' known' support) := by
  have hp := targets_reordered ht
  refine reordered_withdraw hr fun key => ?_
  rw [rejected_run ha, rejected_run (ha.of_perm hp),
    process_alike (alike_of_reordered hd hr support)]
  exact ((hp.filter _).map keyOf).mem_iff

/-- **So do all passes**: what is known in the last ones differs in order only. -/
theorem reordered_lastKnown (ha : Apart targets.targets) (ht : Reordered targets targets')
    (hd : Distinct known) (hr : Reordered known known') (support : String) :
    Reordered (lastKnown targets known support) (lastKnown targets' known' support) := by
  induction known using knowns.induct targets support generalizing known' with
  | case1 known h ih =>
    have hnext := reordered_afterPass ha ht hd hr support
    have h' : (afterPass targets' known' support).targets.length < known'.targets.length := by
      rwa [(targets_reordered hnext).length_eq, (targets_reordered hr).length_eq]
    rw [lastKnown_of_lt h, lastKnown_of_lt h']
    exact ih (distinct_withdraw hd _) hnext
  | case2 known h =>
    have hnext := reordered_afterPass ha ht hd hr support
    have h' : ¬ (afterPass targets' known' support).targets.length < known'.targets.length := by
      rwa [(targets_reordered hnext).length_eq, (targets_reordered hr).length_eq]
    rwa [lastKnown_of_not_lt h, lastKnown_of_not_lt h']

/-- What a selection leaves of a class. -/
def Selection.leave (s : Selection) (e : ClassEntry) : ClassEntry :=
  if s.wants e then e else { e with generate := none }

theorem name_leave (s : Selection) (e : ClassEntry) :
    (s.leave e).name = e.name ∧ (s.leave e).package = e.package := by
  rw [Selection.leave]
  split <;> exact ⟨rfl, rfl⟩

theorem distinct_apply (hd : Distinct d) (s : Selection) : Distinct (s.apply d) :=
  hd.of_map (w := s.leave) fun e => name_leave s e

/-- A selection of a reordered descriptor is the selection, reordered. -/
theorem reordered_apply (hr : Reordered d d') (s : Selection) :
    Reordered (s.apply d) (s.apply d') :=
  ⟨hr.classes.map s.leave, hr.types⟩

/-- **The last pass over reordered classes** says of each target what the original one says. -/
theorem finalPass_reordered (hd : Distinct d) (ha : Apart (s.apply d).targets)
    (hr : Reordered d d') (support : String) :
    (finalPass d' s support).outcomes
        = (s.apply d').targets.map (fun e => (process (finalCatalogue d s support) e).2) ∧
      (finalPass d' s support).diagnostics
        = (s.apply d').targets.flatMap (diagnosticsOf (finalCatalogue d s support)) := by
  have ht := reordered_apply hr s
  have hda := distinct_apply hd s
  have hlast : Reordered (finalKnown d s support) (finalKnown d' s support) :=
    reordered_lastKnown ha ht hda ht support
  have hdist : Distinct (finalKnown d s support) := by
    rw [finalKnown, lastKnown_eq_withdraw]
    exact distinct_withdraw hda _
  have hp : process (finalCatalogue d' s support) = process (finalCatalogue d s support) :=
    process_alike (alike_of_reordered hdist hlast support)
  rw [finalPass_eq_over]
  have ho := over_eq (k := finalCatalogue d' s support) (ha.of_perm (targets_reordered ht))
  have hd' : diagnosticsOf (finalCatalogue d' s support)
      = diagnosticsOf (finalCatalogue d s support) := by
    funext e
    rw [diagnosticsOf, hp]
    rfl
  exact ⟨by rw [ho.1, hp], by rw [ho.2, hd']⟩

end Batch

end FluentBuilders
