/-
  Accounts — every target of a batch turns up once, in the summaries and in the result alike.

  Both are read off the same last pass, but along two ways: a summary takes its names from the entry
  of the class, a plan from the facts that reading gives, and what is reported is gathered while the
  pass goes on.  The two meet in the pairs of a target and its outcome.  A plan has the names of its
  target (`fits_over`), and what a pass reports is what it reports of each pair in turn
  (`diagnostics_over`); neither depends on the passes before, which report into nothing.  All counts
  are then those of a list of pairs.
-/
import FluentBuilders.Proofs.Batch.Order

namespace FluentBuilders.Batch

open Descriptor (ClassEntry TypeParameter)

variable {k : Catalogue} {d : Descriptor} {s : Selection} {support : String} {e : ClassEntry}
  {es : List ClassEntry} {os : List (Except Rejection Plan)}

/-! ## Targets and their outcomes -/

/-- The targets of a selection are the wanted classes with a mark, in order. -/
theorem targets_apply (s : Selection) (d : Descriptor) :
    (s.apply d).targets = d.classes.filter fun e => s.wants e && e.generate.isSome := by
  show (d.classes.map s.leave).filter (·.generate.isSome) = _
  induction d.classes with
  | nil => rfl
  | cons e es ih =>
    rw [List.map_cons, List.filter_cons, List.filter_cons, ih, Selection.leave]
    cases s.wants e <;> rfl

/-- An outcome fits a target: if it is a plan, it has the names of the target. -/
def Fits (e : ClassEntry) (o : Except Rejection Plan) : Prop :=
  ∀ S, o = .ok S → S.className = e.name ∧ S.package = e.package ∧
    S.builder = Name.builder e.name ∧ S.entry.name = entryFor e

/-- The verdict on an entry is about this entry. -/
theorem fits_verdict (k : Catalogue) (s : Pass) (e : ClassEntry) : Fits e (s.verdict k e) := by
  intro S hS
  have hp := (verdict_eq_ok hS).1
  obtain ⟨hb, hc, hpackage, -⟩ := process_names hp
  exact ⟨hc, hpackage, hb, process_entry hp⟩

/-- **Outcomes and targets stay in step.** -/
theorem fits_over (k : Catalogue) (es : List ClassEntry) :
    List.Forall₂ Fits es (Pass.over k es).outcomes := by
  induction es using List.reverseRecOn with
  | nil => exact .nil
  | append_singleton es e ih =>
    rw [over_concat, (step_eq k _ e).1]
    exact List.rel_append ih (.cons (fits_verdict k _ e) .nil)

/-! ## What is reported -/

/-- The rejection that an outcome is. -/
def rejection? : Except Rejection Plan → Option Rejection
  | .ok _ => none
  | .error r => some r

/-- What is reported of a target with its outcome. -/
def reportOf (z : ClassEntry × Except Rejection Plan) : List Diagnostic :=
  (Class.read z.1).1.map Diagnostic.noticed ++ (rejection? z.2).toList.map Diagnostic.rejected

/-- What a pass reports of a target is added to what it reported before. -/
theorem diagnostics_step_reportOf (k : Catalogue) (s : Pass) (e : ClassEntry) :
    (s.step k e).diagnostics = s.diagnostics ++ reportOf (e, s.verdict k e) := by
  have hread : (process k e).1 = (Class.read e).1 := rfl
  rw [diagnostics_step, reportOf, hread]
  cases s.verdict k e <;> rfl

/-- **A pass reports** each target with its outcome, one after the other. -/
theorem diagnostics_over (k : Catalogue) (es : List ClassEntry) :
    (Pass.over k es).diagnostics = (es.zip (Pass.over k es).outcomes).flatMap reportOf := by
  induction es using List.reverseRecOn with
  | nil => rfl
  | append_singleton es e ih =>
    have hl : es.length = (Pass.over k es).outcomes.length := (length_outcomes_over k es).symm
    rw [over_concat, (step_eq k _ e).1, diagnostics_step_reportOf, ih, List.zip_append hl,
      List.flatMap_append]
    exact congrArg _ (List.append_nil _).symm

/-- The type parameters that the metadata of a class gives. -/
def typeParametersOf (e : ClassEntry) : List TypeParameter :=
  match e.metadata with
  | none => []
  | some m => m.typeParameters

/-- The notice about a type parameter of a class. -/
def noticeFor (e : ClassEntry) (p : TypeParameter) : Notice := ⟨e.name, p.name, p.variance⟩

/-- What reading reports of type parameters is a notice for each of those that vary against their
    class. -/
theorem flatMap_noticesOf (e : ClassEntry) (ps : List TypeParameter) :
    ps.flatMap (Class.noticesOf e.name)
      = (ps.filter (·.variance = .contravariant)).map (noticeFor e) := by
  induction ps with
  | nil => rfl
  | cons p ps ih =>
    rw [List.flatMap_cons, ih, Class.noticesOf, List.filter_cons]
    by_cases hv : p.variance = .contravariant
    · simp [hv, noticeFor]
    · simp [hv]

/-- At most one notice is given for each type parameter that varies against its class. -/
theorem notices_isPrefix (e : ClassEntry) :
    (Class.read e).1 <+:
      ((typeParametersOf e).filter (·.variance = .contravariant)).map (noticeFor e) := by
  have hpassed : Class.passed e <+: typeParametersOf e := by
    rw [Class.passed, typeParametersOf]
    cases e.metadata with
    | none => exact List.prefix_refl _
    | some m =>
      dsimp only
      split
      · exact List.takeWhile_prefix _
      · exact List.nil_prefix
  rw [Class.notices_read, flatMap_noticesOf]
  exact (hpassed.filter _).map _

/-! ## Rows -/

/-- The summary of a target with its outcome. -/
def rowOf (z : ClassEntry × Except Rejection Plan) : Summary where
  className := z.1.name
  package := z.1.package
  builder := Name.builder z.1.name
  entry := entryFor z.1
  outcome := z.2.map (·.properties.length)

theorem summaries_eq (d : Descriptor) (s : Selection) (support : String) :
    summaries d s support
      = ((s.apply d).targets.zip (finalPass d s support).outcomes).map rowOf := rfl

/-- A summary of an accepted class. -/
def Summary.isAccepted (row : Summary) : Bool := row.outcome.toOption.isSome

/-- The warning that a summary of a rejected class calls for. -/
def Summary.skip? (row : Summary) : Option Warning :=
  match row.outcome with
  | .ok _ => none
  | .error r => some (.rejected r.subject r.message)

/-- A summary names a target. -/
structure Names (e : ClassEntry) (row : Summary) : Prop where
  className : row.className = e.name
  package : row.package = e.package

/-- A summary describes a plan. -/
structure Describes (row : Summary) (S : Plan) : Prop where
  className : row.className = S.className
  package : row.package = S.package
  builder : row.builder = S.builder
  entry : row.entry = S.entry.name
  outcome : row.outcome = .ok S.properties.length

/-- The rows name the classes that the outcomes are about, in order. -/
theorem names_rows : ∀ {es : List ClassEntry} {os : List (Except Rejection Plan)},
    List.Forall₂ Fits es os → List.Forall₂ Names es ((es.zip os).map rowOf)
  | _, _, .nil => .nil
  | _, _, .cons _ h => .cons ⟨rfl, rfl⟩ (names_rows h)

/-- The plans are those of the accepted rows. -/
theorem describes_plans : ∀ {es : List ClassEntry} {os : List (Except Rejection Plan)},
    List.Forall₂ Fits es os →
      List.Forall₂ Describes (((es.zip os).map rowOf).filter (·.isAccepted))
        (os.filterMap (·.toOption))
  | _, _, .nil => .nil
  | _ :: _, .error _ :: _, .cons _ h => by
    have ih := describes_plans h
    exact ih
  | _ :: _, .ok S :: _, .cons hf h => by
    obtain ⟨hc, hp, hb, he⟩ := hf S rfl
    exact .cons ⟨hc.symm, hp.symm, hb.symm, he.symm, rfl⟩ (describes_plans h)

/-- Each row is accepted or calls for a warning. -/
theorem length_rows : ∀ rows : List Summary,
    rows.length = (rows.filter (·.isAccepted)).length + (rows.filterMap (·.skip?)).length
  | [] => rfl
  | row :: rows => by
    have ih := length_rows rows
    cases ho : row.outcome with
    | ok n =>
      have ha : row.isAccepted = true := by rw [Summary.isAccepted, ho]; rfl
      have hs : row.skip? = none := by rw [Summary.skip?, ho]
      simp only [List.filter_cons, List.filterMap_cons, ha, hs, if_true, List.length_cons]
      omega
    | error r =>
      have ha : row.isAccepted = false := by rw [Summary.isAccepted, ho]; rfl
      have hs : row.skip? = some (.rejected r.subject r.message) := by rw [Summary.skip?, ho]
      simp only [List.filter_cons, List.filterMap_cons, ha, hs, Bool.false_eq_true, if_false,
        List.length_cons]
      omega

/-- The properties of the plans are those that the rows count. -/
theorem length_properties : ∀ {es : List ClassEntry} {os : List (Except Rejection Plan)},
    List.Forall₂ Fits es os →
      ((os.filterMap (·.toOption)).flatMap (·.properties)).length
        = (((es.zip os).map rowOf).filterMap (·.outcome.toOption)).foldr (· + ·) 0
  | _, _, .nil => rfl
  | _ :: _, .error _ :: _, .cons _ h => by
    have ih := length_properties h
    exact ih
  | _ :: _, .ok S :: os, .cons _ h => by
    show (S.properties ++ (os.filterMap (·.toOption)).flatMap (·.properties)).length = _
    rw [List.length_append, length_properties h]
    rfl

/-! ## Warnings -/

/-- A warning that stops nothing and is about one class alone. -/
def Warning.isNotice : Warning → Bool
  | .noticed _ _ => true
  | _ => false

/-- The warnings about type parameters of a class. -/
def noticesOf (e : ClassEntry) : List Warning :=
  (Class.read e).1.map fun n => .noticed n.className n.message

/-- At most one warning comes of each type parameter that varies against its class. -/
theorem noticesOf_prefix (e : ClassEntry) :
    noticesOf e <+: ((typeParametersOf e).filter (·.variance = .contravariant)).map
      fun p => .noticed e.name (noticeFor e p).message := by
  have h := (notices_isPrefix e).map fun n => Warning.noticed n.className n.message
  rw [List.map_map] at h
  exact h

/-- Warnings of one kind pass a test together, or none of them does. -/
theorem filter_map_const {α : Type} {f : α → Warning} {test : Warning → Bool} {b : Bool}
    (h : ∀ x, test (f x) = b) (xs : List α) :
    (xs.map f).filter test = if b then xs.map f else [] := by
  rw [List.filter_map]
  cases b with
  | true =>
    have hall : ∀ x ∈ xs, (test ∘ f) x = true := fun x _ => h x
    rw [if_pos rfl, List.filter_eq_self.mpr hall]
  | false =>
    have hnone : ∀ x ∈ xs, ¬ (test ∘ f) x = true := fun x _ => Bool.eq_false_iff.mp (h x)
    rw [if_neg Bool.false_ne_true, List.filter_eq_nil_iff.mpr hnone, List.map_nil]

theorem filter_skip? {test : Warning → Bool} {b : Bool}
    (h : ∀ className message, test (.rejected className message) = b) (row : Summary) :
    row.skip?.toList.filter test = if b then row.skip?.toList else [] := by
  rw [Summary.skip?]
  cases row.outcome with
  | ok n => cases b <;> rfl
  | error r => exact filter_map_const (fun r : Rejection => h r.subject r.message) [r]

/-- The warnings of a pair: those about the type parameters of its target, and that of its row. -/
theorem map_reportOf (z : ClassEntry × Except Rejection Plan) :
    (reportOf z).map Warning.ofDiagnostic = noticesOf z.1 ++ (rowOf z).skip?.toList := by
  obtain ⟨e, o⟩ := z
  rw [reportOf, List.map_append, List.map_map, noticesOf]
  cases o <;> rfl

/-- What a test picks of the warnings about some pairs, if it asks for their kind only. -/
theorem filter_reports {test : Warning → Bool} {b c : Bool}
    (h : ∀ className message, test (.noticed className message) = b)
    (h' : ∀ className message, test (.rejected className message) = c)
    (zs : List (ClassEntry × Except Rejection Plan)) :
    ((zs.flatMap reportOf).map Warning.ofDiagnostic).filter test
      = zs.flatMap fun z => (if b then noticesOf z.1 else [])
          ++ (if c then (rowOf z).skip?.toList else []) := by
  rw [List.map_flatMap, List.filter_flatMap]
  congr 1
  funext z
  rw [map_reportOf, List.filter_append, filter_skip? h', noticesOf,
    filter_map_const fun n : Notice => h n.className n.message]

/-- The warnings that classes are left out are those of the rows. -/
theorem filter_isSkip_reports (zs : List (ClassEntry × Except Rejection Plan)) :
    ((zs.flatMap reportOf).map Warning.ofDiagnostic).filter (·.isSkip)
      = (zs.map rowOf).filterMap (·.skip?) := by
  rw [filter_reports (b := false) (c := true) (fun _ _ => rfl) (fun _ _ => rfl),
    List.filterMap_map, List.filterMap_eq_flatMap_toList]
  rfl

/-- The notices are those of each target. -/
theorem filter_isNotice_reports (zs : List (ClassEntry × Except Rejection Plan)) :
    ((zs.flatMap reportOf).map Warning.ofDiagnostic).filter (·.isNotice)
      = (zs.map (·.1)).flatMap noticesOf := by
  rw [filter_reports (b := true) (c := false) (fun _ _ => rfl) (fun _ _ => rfl),
    List.flatMap_map]
  simp

/-- There are no others. -/
theorem filter_others_reports (zs : List (ClassEntry × Except Rejection Plan)) :
    ((zs.flatMap reportOf).map Warning.ofDiagnostic).filter (fun w => !w.isSkip && !w.isNotice)
      = [] := by
  rw [filter_reports (b := false) (c := false) (fun _ _ => rfl) (fun _ _ => rfl)]
  simp

/-- The classes that a batch warns of having left out are those of the rejected rows, in order. -/
theorem skips_synthesize (d : Descriptor) (s : Selection) (support : String) :
    (synthesize d s support).statistics.warnings.filter (·.isSkip)
      = (summaries d s support).filterMap (·.skip?) := by
  have hreports : (finalPass d s support).diagnostics
      = ((s.apply d).targets.zip (finalPass d s support).outcomes).flatMap reportOf := by
    rw [finalPass_eq_over]
    exact diagnostics_over _ _
  show ((finalPass d s support).diagnostics.map Warning.ofDiagnostic
    ++ (missingBuilders _).map fun (c, b) => Warning.missingBuilder c b).filter Warning.isSkip = _
  rw [List.filter_append, hreports, filter_isSkip_reports, summaries_eq,
    filter_map_const (b := false) fun _ => rfl]
  exact List.append_nil _

/-- The kinds of functions exclude one another, and there is no further one. -/
theorem count_functions (plans : List Plan) :
    countFunctions isNested plans + countFunctions isScope plans + countFunctions isInsert plans
      = (plans.flatMap (·.functions)).length := by
  rw [countFunctions, countFunctions, countFunctions]
  induction plans.flatMap (·.functions) with
  | nil => rfl
  | cons f fs ih =>
    rw [List.countP_cons, List.countP_cons, List.countP_cons, List.length_cons]
    cases f <;> simp only [isNested, isScope, isInsert, if_true, Bool.false_eq_true, if_false] <;>
      omega

/-! ## The balance -/

/-- The summaries of some targets and the result of a batch over them tell the same story. -/
structure Accounts (es : List ClassEntry) (rows : List Summary) (r : Result) : Prop where
  /-- There is one row for each target, in order. -/
  named : List.Forall₂ Names es rows
  /-- The plans are those of the accepted rows, in order. -/
  planned : List.Forall₂ Describes (rows.filter (·.isAccepted)) r.plans
  /-- The classes that are left out are those of the rejected rows, in order. -/
  skips : r.statistics.warnings.filter (·.isSkip) = rows.filterMap (·.skip?)
  /-- Each target is read for notices once, however many passes there were. -/
  notices : r.statistics.warnings.filter (·.isNotice) = es.flatMap noticesOf
  /-- A type parameter gives at most one notice, and only if it varies against its class. -/
  variance : ∀ e ∈ es, noticesOf e <+:
    ((typeParametersOf e).filter (·.variance = .contravariant)).map
      fun p => .noticed e.name (noticeFor e p).message
  /-- All other warnings are about missing builders. -/
  others : r.statistics.warnings.filter (fun w => !w.isSkip && !w.isNotice)
    = (missingBuilders r.plans).map fun (c, b) => Warning.missingBuilder c b
  classes : r.statistics.classes = es.length
  builders : r.statistics.builders = r.plans.length
  balance : r.statistics.classes = r.statistics.builders + r.statistics.skipped
  properties : r.statistics.properties
    = (rows.filterMap (·.outcome.toOption)).foldr (· + ·) 0
  functions : r.statistics.nested + r.statistics.scopes + r.statistics.inserts
    = (r.plans.flatMap (·.functions)).length

/-- **Every target is accounted for exactly once.** -/
theorem batch_accounts (d : Descriptor) (s : Selection) (support : String) :
    Accounts (d.classes.filter fun e => s.wants e && e.generate.isSome)
      (summaries d s support) (synthesize d s support) := by
  rw [← targets_apply, summaries_eq]
  have hfits : List.Forall₂ Fits (s.apply d).targets (finalPass d s support).outcomes := by
    rw [finalPass_eq_over]
    exact fits_over _ _
  have hreports : (finalPass d s support).diagnostics
      = ((s.apply d).targets.zip (finalPass d s support).outcomes).flatMap reportOf := by
    rw [finalPass_eq_over]
    exact diagnostics_over _ _
  have hwarnings : (synthesize d s support).statistics.warnings
      = (((s.apply d).targets.zip (finalPass d s support).outcomes).flatMap reportOf).map
          Warning.ofDiagnostic
        ++ (missingBuilders (synthesize d s support).plans).map
          fun (c, b) => Warning.missingBuilder c b := by
    rw [← hreports]
    rfl
  have hlen : (s.apply d).targets.length = (finalPass d s support).outcomes.length :=
    hfits.length_eq
  have hplanned := describes_plans hfits
  have hskips : (synthesize d s support).statistics.warnings.filter (·.isSkip)
      = (((s.apply d).targets.zip (finalPass d s support).outcomes).map rowOf).filterMap
          (·.skip?) := by
    rw [hwarnings, List.filter_append, filter_isSkip_reports,
      filter_map_const (b := false) fun _ => rfl]
    exact List.append_nil _
  exact
    { named := names_rows hfits
      planned := hplanned
      skips := hskips
      notices := by
        rw [hwarnings, List.filter_append, filter_isNotice_reports,
          filter_map_const (b := false) fun _ => rfl, List.map_fst_zip (Nat.le_of_eq hlen)]
        exact List.append_nil _
      variance := fun e _ => noticesOf_prefix e
      others := by
        rw [hwarnings, List.filter_append, filter_others_reports,
          filter_map_const (b := true) fun _ => rfl]
        rfl
      classes := hlen.symm
      builders := rfl
      balance := by
        have hrows := length_rows
          (((s.apply d).targets.zip (finalPass d s support).outcomes).map rowOf)
        rw [hplanned.length_eq, ← hskips, List.length_map, List.length_zip, hlen,
          Nat.min_self] at hrows
        rw [Statistics.skipped, List.countP_eq_length_filter]
        exact hrows
      properties := length_properties hfits
      functions := count_functions _ }

end FluentBuilders.Batch
