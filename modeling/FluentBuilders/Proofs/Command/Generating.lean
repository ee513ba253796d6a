/-
  Generating — what a run of the command `generate` leaves behind, and how it ends.

  A run is a list of steps, and most of them only say something.  Two things are read off the list:
  what it does to the file system (`Run.changes`) and the lines about classes that were left out
  (`Run.skipLines`).  Everything that can go wrong (`Obstacle`) is found out before the first step
  that changes anything, so a run with an obstacle changes nothing and fails.  A run without one
  writes what was generated, also if classes were rejected; then it says so line by line and fails
  with the number of these lines.

  Options are read into settings, where the names of wanted classes are put in order.  That changes
  nothing in what is wanted, so the run is described by the options themselves.
-/
import FluentBuilders.Command.Generate
import FluentBuilders.Proofs.Batch.Accounts
import FluentBuilders.Proofs.Batch.Report
import FluentBuilders.Proofs.Outcome

namespace FluentBuilders.Command

open Batch (Selection Warning)
open Terminal (Color Palette)

variable {a : GenerateArguments} {contents : Contents} {d : Descriptor} {support : Code.Path}
  {directory : String} {o : Generation.Output} {v : Voice} {palette : Palette} {colorless : Bool}
  {s : Settings}

/-! ## Which classes are wanted -/

/-- Sorting the names that are asked for keeps them. -/
theorem contains_ascending (xs : List String) (x : String) :
    (ascending xs).contains x = xs.contains x := by
  rw [Bool.eq_iff_iff, List.contains_iff_mem, List.contains_iff_mem, ascending, List.mem_mergeSort,
    Batch.mem_distinct]

/-- The classes that the options ask for. -/
def GenerateArguments.selection (a : GenerateArguments) : Selection :=
  { only := a.only, exclude := a.exclude }

/-- The selection that the options are read into. -/
def GenerateArguments.ordered (a : GenerateArguments) : Selection :=
  { only := a.only.map ascending, exclude := a.exclude.map ascending }

/-- The order in which classes are asked for does not matter. -/
theorem wants_ordered (a : GenerateArguments) (e : Descriptor.ClassEntry) :
    a.ordered.wants e = a.selection.wants e := by
  show ((a.only.map ascending).all (·.contains e.name)
    && !(a.exclude.map ascending).any (·.contains e.name)) = _
  rw [Option.all_map, Option.any_map]
  simp only [contains_ascending]
  rfl

/-- The order of the wanted names does not matter. -/
theorem apply_ordered (a : GenerateArguments) (d : Descriptor) :
    a.ordered.apply d = a.selection.apply d := by
  simp only [Selection.apply, wants_ordered]

/-! ## Steps -/

/-- Whether a step changes the file system. -/
def Step.changes : Step → Bool
  | .makeDirectory _ | .writeFile .. => true
  | _ => false

/-- What a run does to the file system, in order. -/
def Run.changes (r : Run) : List Step := r.steps.filter Step.changes

/-- How a line begins that says that a class was left out. -/
def skipLabel (palette : Palette) (colorless : Bool) : String :=
  Terminal.styled colorless palette.accent "Skipped:" ++ " "

/-- The line that says why a class was left out. -/
def skipLine (palette : Palette) (colorless : Bool) (r : Rejection) : Step :=
  .warn (skipLabel palette colorless ++ Terminal.styled colorless palette.primary r.message)

/-- Whether a step says on the error output that a class was left out. -/
def Step.isSkipLine (palette : Palette) (colorless : Bool) : Step → Bool
  | .warn line => Batch.startsWith line (skipLabel palette colorless)
  | _ => false

/-- The lines of a run about classes that were left out, in order. -/
def Run.skipLines (palette : Palette) (colorless : Bool) (r : Run) : List Step :=
  r.steps.filter (Step.isSkipLine palette colorless)

/-- Whether a step writes a line to the output. -/
def Step.isSaid : Step → Bool
  | .say _ | .log .. => true
  | _ => false

/-- Where steps only say something, a test that is about other steps finds none. -/
theorem filter_of_said {test : Step → Bool} (ht : ∀ x : Step, x.isSaid = true → test x = false)
    {steps : List Step} (h : ∀ x ∈ steps, x.isSaid = true) : steps.filter test = [] :=
  List.filter_eq_nil_iff.mpr fun x hx => Bool.eq_false_iff.mp (ht x (h x hx))

theorem changes_of_said (x : Step) (h : x.isSaid = true) : x.changes = false := by
  cases x <;> first | rfl | cases h

theorem isSkipLine_of_said (x : Step) (h : x.isSaid = true) :
    x.isSkipLine palette colorless = false := by
  cases x <;> first | rfl | cases h

/-! ## What is only said -/

theorem said_unlessQuiet {steps : List Step} (h : ∀ x ∈ steps, x.isSaid = true) :
    ∀ x ∈ v.unlessQuiet steps, x.isSaid = true := by
  rw [Voice.unlessQuiet]
  split
  · exact h
  · exact fun _ hx => absurd hx List.not_mem_nil

theorem said_message (v : Voice) (c : Color) (t : String) :
    ∀ x ∈ v.message c t, x.isSaid = true :=
  said_unlessQuiet (by simp [Step.isSaid])

theorem said_fact (v : Voice) (label value : String) :
    ∀ x ∈ v.fact label value, x.isSaid = true :=
  said_unlessQuiet (by simp [Step.isSaid])

theorem said_counts (v : Voice) (s : Batch.Statistics) : ∀ x ∈ v.counts s, x.isSaid = true := by
  intro x hx
  simp only [Voice.counts, List.mem_append] at hx
  rcases hx with ((((hx | hx) | hx) | hx) | hx) | hx
  · exact said_fact v _ _ x hx
  · exact said_fact v _ _ x hx
  · exact said_fact v _ _ x hx
  · split at hx
    · simp only [List.mem_append] at hx
      rcases hx with (hx | hx) | hx <;> exact said_fact v _ _ x hx
    · exact absurd hx List.not_mem_nil
  · split at hx
    · exact said_fact v _ _ x hx
    · exact absurd hx List.not_mem_nil
  · split at hx
    · exact absurd hx List.not_mem_nil
    · exact said_fact v _ _ x hx

theorem said_writing (v : Voice) (directory : String) (files : List Generation.File) :
    ∀ x ∈ v.writing directory files, x.isSaid = true := by
  intro x hx
  rw [Voice.writing] at hx
  rcases List.mem_append.mp hx with hx | hx
  · exact said_message v _ _ x hx
  · split at hx
    · obtain ⟨f, -, hx⟩ := List.mem_flatMap.mp hx
      exact said_fact v _ _ x hx
    · exact absurd hx List.not_mem_nil

theorem said_success (v : Voice) : ∀ x ∈ v.success, x.isSaid = true := by
  intro x hx
  rcases List.mem_append.mp hx with hx | hx
  · exact said_unlessQuiet (by simp [Step.isSaid]) x hx
  · exact said_message v _ _ x hx

/-! ## Lines about rejected classes -/

/-- A styled text stands between a beginning and an ending that do not depend on it. -/
theorem styled_eq (colorless : Bool) (c : Color) : ∃ front back : String, ∀ t : String,
    Terminal.styled colorless c t = front ++ t ++ back := by
  cases colorless with
  | true => exact ⟨_, _, fun t => rfl⟩
  | false => exact ⟨_, _, fun t => rfl⟩

/-- The warnings that are told apart by their label are those about classes left out. -/
theorem isSkipLine_warning (v : Voice) (w : Warning) :
    (v.warning w).isSkipLine v.palette v.colorless = w.isSkip := by
  obtain ⟨front, back, hstyled⟩ := styled_eq v.colorless v.palette.accent
  show Batch.startsWith (Terminal.styled v.colorless v.palette.accent
    (if w.isSkip then "Skipped:" else "Warning:") ++ " " ++ _) (skipLabel _ _) = _
  rw [skipLabel, hstyled, hstyled, Batch.startsWith]
  simp only [String.toList_append, List.append_assoc]
  rw [Bool.eq_iff_iff, List.isPrefixOf_iff_prefix, List.prefix_append_right_inj]
  cases w.isSkip with
  | true =>
    refine iff_of_true ?_ rfl
    rw [if_pos rfl, List.prefix_append_right_inj, List.prefix_append_right_inj]
    exact List.prefix_append _ _
  | false =>
    refine iff_of_false ?_ Bool.false_ne_true
    rintro ⟨rest, h⟩
    -- the first letters differ
    cases h

/-- Even a quiet voice reports every skipped class. -/
theorem filter_reports_isSkip (v : Voice) (ws : List Warning) :
    (ws.filter v.reports).filter (·.isSkip) = ws.filter (·.isSkip) := by
  rw [List.filter_filter]
  congr 1
  funext w
  rw [Voice.reports]
  cases w.isSkip <;> rfl

/-- Of the warnings of a batch, the lines about classes left out are said at every volume. -/
theorem skipLines_warnings (v : Voice) (s : Batch.Statistics) :
    (v.warnings s).filter (Step.isSkipLine v.palette v.colorless)
      = (s.warnings.filter (·.isSkip)).map v.warning := by
  have hempty : ∀ b : Bool, (if b then [] else v.unlessQuiet [.say ""]).filter
      (Step.isSkipLine v.palette v.colorless) = [] := by
    intro b
    cases b with
    | true => rfl
    | false => exact filter_of_said isSkipLine_of_said (said_unlessQuiet (by simp [Step.isSaid]))
  rw [Voice.warnings, List.filter_append, hempty, List.nil_append, List.filter_map,
    ← filter_reports_isSkip v]
  congr 2
  funext w
  exact isSkipLine_warning v w

theorem changes_warnings (v : Voice) (s : Batch.Statistics) :
    (v.warnings s).filter Step.changes = [] := by
  refine List.filter_eq_nil_iff.mpr fun x hx => Bool.eq_false_iff.mp ?_
  rcases List.mem_append.mp hx with hx | hx
  · split at hx
    · exact absurd hx List.not_mem_nil
    · exact changes_of_said x (said_unlessQuiet (by simp [Step.isSaid]) x hx)
  · obtain ⟨w, -, rfl⟩ := List.mem_map.mp hx
    rfl

/-! ## The end of a run -/

/-- What is said after everything was written does not count for what was done. -/
theorem finish_steps (v : Voice) (directory : String) (o : Generation.Output) :
    ∃ last, (∀ x ∈ last, Step.isSaid x = true) ∧ (finish v directory o).steps
      = v.counts o.statistics ++ v.warnings o.statistics ++ v.writing directory o.files
        ++ writeSteps directory o.files ++ last := by
  simp only [finish]
  split
  · exact ⟨[], fun _ h => absurd h List.not_mem_nil, (List.append_nil _).symm⟩
  · exact ⟨v.success, said_success v, rfl⟩

theorem changes_writeSteps (directory : String) (files : List Generation.File) :
    (writeSteps directory files).filter Step.changes = writeSteps directory files := by
  refine List.filter_eq_self.mpr fun x hx => ?_
  rcases List.mem_cons.mp hx with rfl | hx
  · rfl
  · obtain ⟨f, -, rfl⟩ := List.mem_map.mp hx
    rfl

theorem isSkipLine_writeSteps (directory : String) (files : List Generation.File) :
    (writeSteps directory files).filter (Step.isSkipLine palette colorless) = [] := by
  refine List.filter_eq_nil_iff.mpr fun x hx => ?_
  rcases List.mem_cons.mp hx with rfl | hx
  · exact Bool.false_ne_true
  · obtain ⟨f, -, rfl⟩ := List.mem_map.mp hx
    exact Bool.false_ne_true

/-- Finishing writes the files and changes nothing else. -/
theorem changes_finish (v : Voice) (directory : String) (o : Generation.Output) :
    (finish v directory o).changes = writeSteps directory o.files := by
  obtain ⟨last, hlast, hsteps⟩ := finish_steps v directory o
  rw [Run.changes, hsteps]
  simp only [List.filter_append]
  rw [filter_of_said changes_of_said (said_counts v _), changes_warnings,
    filter_of_said changes_of_said (said_writing v _ _), changes_writeSteps,
    filter_of_said changes_of_said hlast]
  simp

/-- Finishing says one line for each skipped class. -/
theorem skipLines_finish (v : Voice) (directory : String) (o : Generation.Output) :
    (finish v directory o).skipLines v.palette v.colorless
      = (o.statistics.warnings.filter (·.isSkip)).map v.warning := by
  obtain ⟨last, hlast, hsteps⟩ := finish_steps v directory o
  rw [Run.skipLines, hsteps]
  simp only [List.filter_append]
  rw [filter_of_said isSkipLine_of_said (said_counts v _), skipLines_warnings,
    filter_of_said isSkipLine_of_said (said_writing v _ _), isSkipLine_writeSteps,
    filter_of_said isSkipLine_of_said hlast]
  simp

/-- Finishing ends well if no class was skipped. -/
theorem ending_finish (v : Voice) (directory : String) (o : Generation.Output) :
    (finish v directory o).ending
      = if o.statistics.skipped > 0 then .failure (skippedComplaint o.statistics.skipped)
        else .success := by
  simp only [finish]
  split <;> rfl

/-! ## Rejected classes -/

/-- Why a class is left out, if it is. -/
def rejectionOf (row : Batch.Summary) : Option Rejection :=
  match row.outcome with
  | .ok _ => none
  | .error r => some r

/-- A row skips its class if the class was rejected. -/
theorem skip?_eq (row : Batch.Summary) :
    row.skip? = (rejectionOf row).map fun r => .rejected r.subject r.message := by
  rw [Batch.Summary.skip?, rejectionOf]
  cases row.outcome <;> rfl

/-- The warnings that classes are left out give the reasons of the rejected rows, in order. -/
theorem skips_batch (request : Generation.Request) :
    request.batch.statistics.warnings.filter (·.isSkip)
      = (request.summaries.filterMap rejectionOf).map fun r => .rejected r.subject r.message := by
  have h := Batch.skips_synthesize request.descriptor request.selection request.support.compact
  simp only [skip?_eq] at h
  rw [List.map_filterMap]
  exact h

theorem rejections_eq_nil_iff (rows : List Batch.Summary) :
    rows.filterMap rejectionOf = [] ↔ ∀ row ∈ rows, row.isAccepted = true := by
  have hrow : ∀ row, rejectionOf row = none ↔ row.isAccepted = true := by
    intro row
    rw [rejectionOf, Batch.Summary.isAccepted]
    cases row.outcome with
    | ok n => exact iff_of_true rfl rfl
    | error r => exact iff_of_false (Option.some_ne_none r) Bool.false_ne_true
  simp only [List.filterMap_eq_nil_iff, hrow]

/-! ## What can go wrong -/

/-- The files go to a directory: the one that is asked for, or else the one that the descriptor
    names.  An empty name is none. -/
def GoesTo (a : GenerateArguments) (d : Descriptor) (directory : String) : Prop :=
  directory ≠ "" ∧ (a.output = some directory ∨
    (a.output = none ∨ a.output = some "") ∧ d.root = some directory)

/-- What the options ask for, given the descriptor and the support path. -/
def GenerateArguments.request (a : GenerateArguments) (d : Descriptor) (support : Code.Path) :
    Generation.Request :=
  { descriptor := d, selection := a.selection, support, source := a.input }

/-- Something that keeps a run from writing. -/
inductive Obstacle (a : GenerateArguments) (contents : Contents) : Prop
  /-- The options contradict each other. -/
  | options (verbose : a.verbose = true) (quiet : a.quiet = true)
  /-- The file gives no descriptor. -/
  | descriptor {c : Complaint} (unloaded : loadFile a.input contents = .error c)
  /-- The support path is none. -/
  | support {r : Code.Refusal} (unread : Code.Path.ofText a.supportPath = .error r)
  /-- There is no directory to write to. -/
  | directory {d : Descriptor} (loaded : loadFile a.input contents = .ok d)
      (homeless : ∀ directory, ¬ GoesTo a d directory)
  /-- Some code cannot be made. -/
  | emission {d : Descriptor} {support : Code.Path} {f : Generation.Failure}
      (loaded : loadFile a.input contents = .ok d)
      (read : Code.Path.ofText a.supportPath = .ok support)
      (failed : (a.request d support).generate = .error f)

/-- Everything that the options ask for is there. -/
structure Ready (a : GenerateArguments) (contents : Contents) (d : Descriptor)
    (support : Code.Path) (directory : String) (o : Generation.Output) : Prop where
  options : ¬ (a.verbose = true ∧ a.quiet = true)
  loaded : loadFile a.input contents = .ok d
  read : Code.Path.ofText a.supportPath = .ok support
  directory : GoesTo a d directory
  generated : (a.request d support).generate = .ok o

/-- Nothing is in the way of a run that has everything. -/
theorem Ready.not_obstacle (h : Ready a contents d support directory o) :
    ¬ Obstacle a contents := by
  rintro (⟨hv, hq⟩ | hu | hu | ⟨hl, hd⟩ | ⟨hl, hr, hf⟩)
  · exact h.options ⟨hv, hq⟩
  · cases h.loaded.symm.trans hu
  · cases h.read.symm.trans hu
  · cases h.loaded.symm.trans hl
    exact hd _ h.directory
  · cases h.loaded.symm.trans hl
    cases h.read.symm.trans hr
    cases h.generated.symm.trans hf

/-! ## A run from its options -/

/-- The settings that compatible options are read into. -/
def GenerateArguments.settings (a : GenerateArguments) : Settings :=
  { input := a.input, output := a.output, selection := a.ordered, supportPath := a.supportPath
    volume := if a.verbose then .verbose else if a.quiet then .quiet else .normal }

/-- The directory that the settings give is where the files go. -/
theorem directory?_settings : a.settings.directory? d = some directory ↔ GoesTo a d directory := by
  have hempty : ∀ t : Option String, t.filter (· ≠ "") = some directory ↔
      directory ≠ "" ∧ t = some directory := by
    intro t
    rw [Option.filter_eq_some_iff]
    simp [and_comm]
  have hnone : a.output.filter (· ≠ "") = none ↔ a.output = none ∨ a.output = some "" := by
    cases a.output <;> simp [Option.filter]
  show (a.output.filter (· ≠ "") <|> d.outputRoot) = some directory ↔ _
  rw [Option.orElse_eq_orElse, Option.orElse_eq_or, Option.or_eq_some_iff, hempty, hnone,
    Descriptor.outputRoot, hempty, GoesTo]
  tauto

/-- Putting the names of wanted classes in order changes nothing in what is generated. -/
theorem generate_ordered (a : GenerateArguments) (d : Descriptor) (support : Code.Path) :
    ({ a.request d support with selection := a.ordered } : Generation.Request).generate
      = (a.request d support).generate := by
  simp only [Generation.Request.generate, Generation.Request.batch, Batch.synthesize,
    Batch.finalPass, GenerateArguments.request, apply_ordered]

/-- A run that fails and leaves everything as it was. -/
structure Refused (r : Run) : Prop where
  changes : r.changes = []
  status : r.ending.status ≠ 0

/-- A run that writes what was generated, and tells the truth about what was not. -/
structure Delivered (palette : Palette) (colorless : Bool) (directory : String)
    (request : Generation.Request) (o : Generation.Output) (r : Run) : Prop where
  /-- The directory is made and the generated files are written to it, in order, and no others. -/
  written : r.changes
    = .makeDirectory directory :: o.files.map fun f => .writeFile directory f.name f.text
  /-- There is one line for each rejected class, in order, at every volume. -/
  reported : r.skipLines palette colorless
    = (request.summaries.filterMap rejectionOf).map (skipLine palette colorless)
  success : r.ending.status = 0 ↔ ∀ row ∈ request.summaries, row.isAccepted = true
  /-- The number that a failed run reports is that of the lines. -/
  failure : r.ending.status ≠ 0 → r.ending = .failure
    { message := toString (r.skipLines palette colorless).length
        ++ " class(es) could not be processed" }

/-- A failure has a status other than zero. -/
theorem status_failure (c : Complaint) : (Ending.failure c).status ≠ 0 :=
  show (1 : UInt32) ≠ 0 by decide

/-- Whatever generation fails with, the status is not zero. -/
theorem status_endingOf (f : Generation.Failure) : (endingOf f).status ≠ 0 := by
  rw [endingOf]
  split
  · exact status_failure _
  · exact show (101 : UInt32) ≠ 0 by decide

/-- **What is generated is delivered** when the run is finished. -/
theorem delivered_finish {request : Generation.Request} (v : Voice) (directory : String)
    (h : request.generate = .ok o) :
    Delivered v.palette v.colorless directory request o (finish v directory o) := by
  obtain ⟨files, -, h⟩ := bind_eq_ok.mp h
  cases h
  have hlines := skipLines_finish v directory ⟨files, request.batch.statistics⟩
  rw [skips_batch, List.map_map] at hlines
  have hcount : request.batch.statistics.skipped
      = (request.summaries.filterMap rejectionOf).length := by
    rw [Batch.Statistics.skipped, List.countP_eq_length_filter, skips_batch, List.length_map]
  have hending := ending_finish v directory ⟨files, request.batch.statistics⟩
  refine ⟨changes_finish v directory _, hlines, ?_, ?_⟩
  · rw [← rejections_eq_nil_iff, ← List.length_eq_zero_iff, ← hcount, hending]
    split
    · rename_i hs
      exact iff_of_false (status_failure _) (Nat.pos_iff_ne_zero.mp hs)
    · rename_i hs
      exact iff_of_true rfl (Nat.eq_zero_of_not_pos hs)
  · intro hfailed
    rw [hlines, List.length_map, ← hcount]
    rw [hending] at hfailed ⊢
    split
    · rfl
    · rename_i hs
      rw [if_neg hs] at hfailed
      exact absurd rfl hfailed

/-! ## The whole run -/

/-- What was said before changes nothing in what a run did. -/
theorem Delivered.prepend {request : Generation.Request} {r : Run} {steps : List Step}
    (hsteps : ∀ x ∈ steps, x.isSaid = true)
    (h : Delivered palette colorless directory request o r) :
    Delivered palette colorless directory request o { r with steps := steps ++ r.steps } := by
  have hchanges : ({ r with steps := steps ++ r.steps } : Run).changes = r.changes := by
    rw [Run.changes, List.filter_append, filter_of_said changes_of_said hsteps]
    rfl
  have hlines : ({ r with steps := steps ++ r.steps } : Run).skipLines palette colorless
      = r.skipLines palette colorless := by
    rw [Run.skipLines, List.filter_append, filter_of_said isSkipLine_of_said hsteps]
    rfl
  obtain ⟨hwritten, hreported, hsuccess, hfailure⟩ := h
  exact ⟨hchanges.trans hwritten, hlines.trans hreported, hsuccess, hlines ▸ hfailure⟩

/-- A run that only says something and ends badly is a refusal. -/
theorem refused_of_said {steps : List Step} {ending : Ending} (hs : ∀ x ∈ steps, x.isSaid = true)
    (he : ending.status ≠ 0) : Refused { steps, ending } :=
  ⟨filter_of_said changes_of_said hs, he⟩

/-- What a descriptor gives: everything, or a reason for a run to fail. -/
theorem produce_cases (loaded : loadFile a.input contents = .ok d) :
    (∃ ending, a.settings.produce d = .error ending ∧ ending.status ≠ 0 ∧ Obstacle a contents) ∨
    ∃ support directory o, a.settings.produce d = .ok (directory, o) ∧
      Code.Path.ofText a.supportPath = .ok support ∧ GoesTo a d directory ∧
      (a.request d support).generate = .ok o := by
  rw [Settings.produce]
  cases hread : Code.Path.ofText a.supportPath with
  | error r =>
    refine .inl ⟨.failure (supportComplaint a.supportPath r), ?_, status_failure _, .support hread⟩
    rw [show a.settings.supportPath = a.supportPath from rfl, hread]
  | ok support =>
    rw [show a.settings.supportPath = a.supportPath from rfl, hread]
    cases hdir : a.settings.directory? d with
    | none =>
      refine .inl ⟨.failure directoryComplaint, rfl, status_failure _,
        .directory loaded fun dir h => ?_⟩
      rw [directory?_settings.mpr h] at hdir
      cases hdir
    | some directory =>
      have hgenerate := generate_ordered a d support
      cases hgenerated : (a.request d support).generate with
      | error f =>
        refine .inl ⟨endingOf f, ?_, status_endingOf f, .emission loaded hread hgenerated⟩
        rw [hgenerated] at hgenerate
        simp only [GenerateArguments.request] at hgenerate
        simp only [GenerateArguments.settings, hgenerate]
      | ok o =>
        refine .inr ⟨support, directory, o, ?_, rfl, directory?_settings.mp hdir, hgenerated⟩
        rw [hgenerated] at hgenerate
        simp only [GenerateArguments.request] at hgenerate
        simp only [GenerateArguments.settings, hgenerate]

/-- A run of compatible options is refused because of an obstacle, or it delivers. -/
theorem runSettings_cases (contents : Contents) (v : Voice)
    (options : ¬ (a.verbose = true ∧ a.quiet = true)) :
    Obstacle a contents ∧ Refused (runSettings a.settings v contents) ∨
    ∃ d support directory o, Ready a contents d support directory o ∧
      Delivered v.palette v.colorless directory (a.request d support) o
        (runSettings a.settings v contents) := by
  have hloading := said_message v v.palette.primary ("Loading descriptor from: " ++ a.input)
  have hgenerating := said_message v v.palette.primary "Generating builders..."
  have hsaid : ∀ x ∈ v.message v.palette.primary ("Loading descriptor from: " ++ a.input)
      ++ v.message v.palette.primary "Generating builders...", x.isSaid = true := by
    intro x hx
    rcases List.mem_append.mp hx with hx | hx
    · exact hloading x hx
    · exact hgenerating x hx
  rw [runSettings, show a.settings.input = a.input from rfl]
  cases loaded : loadFile a.input contents with
  | error c => exact .inl ⟨.descriptor loaded, refused_of_said hloading (status_failure c)⟩
  | ok d =>
    rcases produce_cases loaded with
      ⟨ending, hproduce, hstatus, hobstacle⟩ | ⟨support, directory, o, hproduce, hread, hgoes, ho⟩
    · refine .inl ⟨hobstacle, ?_⟩
      simp only [hproduce]
      exact refused_of_said hsaid hstatus
    · refine .inr ⟨d, support, directory, o, ⟨options, loaded, hread, hgoes, ho⟩, ?_⟩
      simp only [hproduce]
      exact (delivered_finish v directory ho).prepend hsaid

/-- **All or nothing, and the truth about it.**  If anything is in the way, nothing is written and
    the run fails.  Otherwise what was generated is written to the directory that was asked for, a
    line is said for each rejected class, and the run succeeds exactly if there is none; it fails
    with the number of these lines else. -/
theorem generate_all_or_nothing (a : GenerateArguments) (palette : Palette) (colorless : Bool)
    (contents : String → Contents) :
    (Obstacle a (contents a.input) → Refused (runGenerate a palette colorless contents)) ∧
    (¬ Obstacle a (contents a.input) →
      ∃ d support directory o, Ready a (contents a.input) d support directory o ∧
        Delivered palette colorless directory (a.request d support) o
          (runGenerate a palette colorless contents)) := by
  rw [runGenerate, Settings.ofArguments]
  by_cases options : a.verbose = true ∧ a.quiet = true
  · rw [if_pos (by rw [options.1, options.2]; rfl)]
    exact ⟨fun _ => ⟨rfl, status_failure _⟩,
      fun h => absurd (Obstacle.options options.1 options.2) h⟩
  · rw [if_neg (by rwa [Bool.and_eq_true])]
    have hcases := runSettings_cases (contents a.input)
      { palette, colorless, volume := a.settings.volume } options
    constructor
    · intro hobstacle
      rcases hcases with ⟨-, hrefused⟩ | ⟨_, _, _, _, hready, -⟩
      · exact hrefused
      · exact absurd hobstacle hready.not_obstacle
    · intro hfree
      rcases hcases with ⟨hobstacle, -⟩ | hdelivered
      · exact absurd hobstacle hfree
      · exact hdelivered

/-- Whether everything is there that the options ask for. -/
def isReady (a : GenerateArguments) (contents : Contents) : Bool :=
  !(a.verbose && a.quiet) &&
    match loadFile a.input contents, Code.Path.ofText a.supportPath with
    | .ok d, .ok support =>
      (a.settings.directory? d).isSome && (a.request d support).generate.isOk
    | _, _ => false

/-- Where everything is ready there is no obstacle. -/
theorem not_obstacle_of_isReady (h : isReady a contents = true) : ¬ Obstacle a contents := by
  rw [isReady, Bool.and_eq_true, Bool.not_eq_true', ← Bool.not_eq_true, Bool.and_eq_true] at h
  obtain ⟨options, h⟩ := h
  split at h
  · rename_i d support loaded read
    rw [Bool.and_eq_true, Option.isSome_iff_exists] at h
    obtain ⟨⟨directory, hdir⟩, hgenerated⟩ := h
    cases ho : (a.request d support).generate with
    | error f =>
      rw [ho] at hgenerated
      cases hgenerated
    | ok o => exact Ready.not_obstacle ⟨options, loaded, read, directory?_settings.mp hdir, ho⟩
  · cases h

/-- Options that ask for little to be said. -/
def quietly : GenerateArguments where
  input := "m.json"
  output := some "out"
  only := none
  exclude := none
  supportPath := "s"
  verbose := false
  quiet := true

/-- A descriptor with a marked class of which nothing else is known. -/
def bareClass : List UInt8 :=
  Text.Utf8.encode ("\x7b\"format_version\":1,\"classes\":[\x7b\"name\":\"A\",\"package\":\"m\","
    ++ "\"directives\":\x7b\"generate\":\x7b\x7d\x7d\x7d]\x7d").toList

theorem generate_all_or_nothing_quietly :
    let r := runGenerate quietly { enabled := false, theme := .dark } true fun _ => .ok bareClass
    (∃ d support directory o, Ready quietly (.ok bareClass) d support directory o ∧
      Delivered { enabled := false, theme := .dark } true directory (quietly.request d support) o
        r) ∧
    r.ending = .failure { message := "1 class(es) could not be processed" } := by
  intro r
  have hfree : ¬ Obstacle quietly (.ok bareClass) := not_obstacle_of_isReady (by decide +kernel)
  obtain ⟨d, support, directory, o, hready, hdelivered⟩ :=
    (generate_all_or_nothing quietly { enabled := false, theme := .dark } true
      fun _ => .ok bareClass).2 hfree
  refine ⟨⟨d, support, directory, o, hready, hdelivered⟩, ?_⟩
  have hfailed : r.ending.status ≠ 0 := by decide +kernel
  have hlines : (r.skipLines { enabled := false, theme := .dark } true).length = 1 := by
    decide +kernel
  rw [hdelivered.failure hfailed, hlines]
  rfl

end FluentBuilders.Command
