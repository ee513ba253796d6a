/-
  Names in the output — which names of a planned class can stop a whole batch.

  Code is made of a plan without asking again whether its names can be declared, and the first file
  that does not read back stops all of them.  No declared name of a plan brings that about, since
  each can be declared.  The entry function of a class called `Crate` or `Super` is the exception:
  the class is planned, but its module is refused (`generate_reserved`), and with it the files of
  all other builders.  A class whose entry function is named in the descriptor is turned away for
  such a name when it is read.
-/
import FluentBuilders.Proofs.Batch.Names
import FluentBuilders.Proofs.Generation.Files

namespace FluentBuilders.Generation

open Batch Code
open Descriptor (ClassEntry)

variable {r : Request} {S : Plan} {e : ClassEntry} {support : Path} {source : String}

/-! ## A refused entry function -/

/-- An entry function with a name that is not free is refused. -/
theorem entry_refused {item : Item} {i : Ident} (hi : Ident.ofName? S.entry.name = some i)
    (hfree : i.isFree = false) (h : S.entry? support = some item) :
    item.refusal? = some (.reserved i.word) := by
  obtain ⟨name, hname, h⟩ := Option.bind_eq_some_iff.mp h
  obtain ⟨_, -, h⟩ := Option.bind_eq_some_iff.mp h
  obtain ⟨_, -, h⟩ := Option.bind_eq_some_iff.mp h
  obtain ⟨_, -, h⟩ := Option.bind_eq_some_iff.mp h
  obtain ⟨_, -, h⟩ := Option.bind_eq_some_iff.mp h
  cases h
  cases hi.symm.trans hname
  have hr : i.refusal? = some (.reserved i.word) := by
    rw [Ident.refusal?, hfree]
    rfl
  show (i.refusal? <|> _) = _
  rw [hr]
  rfl

/-- A module with such an entry function does not read back. -/
theorem module_refused {m : Module} {i : Ident} (hi : Ident.ofName? S.entry.name = some i)
    (hfree : i.isFree = false) (h : S.module? support = some m) : m.refusal? ≠ none := by
  obtain ⟨_, -, h⟩ := Option.bind_eq_some_iff.mp h
  obtain ⟨_, -, h⟩ := Option.bind_eq_some_iff.mp h
  obtain ⟨_, -, h⟩ := Option.bind_eq_some_iff.mp h
  obtain ⟨entry, hentry, h⟩ := Option.bind_eq_some_iff.mp h
  cases h
  intro hnone
  have hitem := List.findSome?_eq_none_iff.mp hnone entry
    (List.mem_append_right _ (List.mem_singleton.mpr rfl))
  rw [entry_refused hi hfree hentry] at hitem
  cases hitem

/-- **One such builder stops all of them.** -/
theorem generate_of_not_free {i : Ident} (hS : S ∈ r.batch.plans)
    (hi : Ident.ofName? S.entry.name = some i) (hfree : i.isFree = false) :
    ∃ failure, r.generate = .error failure := by
  cases hg : r.generate with
  | error failure => exact ⟨failure, rfl⟩
  | ok out =>
    -- there would be a file for this builder, so its module would have been accepted
    obtain ⟨files, hf, -⟩ := bind_eq_ok.mp hg
    obtain ⟨built, hb, -⟩ := bind_eq_ok.mp hf
    obtain ⟨file, -, hfile⟩ := exists_right_of_mem (mapM_eq_ok.mp hb) hS
    obtain ⟨text, ht, -⟩ := bind_eq_ok.mp hfile
    obtain ⟨m, hm, hnone, -⟩ := writeModule_eq_ok ht
    exact absurd hnone (module_refused hi hfree hm)

/-! ## The names of an accepted class -/

/-- **A reserved entry stops the batch**: nothing is generated for any class. -/
theorem generate_of_reserved (h : Accepted r.descriptor r.selection r.support.compact e S)
    (hr : ReservedEntry e) : ∃ failure, r.generate = .error failure := by
  have hS : S ∈ r.batch.plans := mem_plans_iff.mpr ⟨e, h⟩
  have hname : S.entry.name = "crate" ∨ S.entry.name = "super" := by
    rw [process_entry (process_of_accepted h)]
    exact entryFor_of_reserved hr
  rcases hname with hn | hn
  · refine generate_of_not_free (i := ⟨"crate", false⟩) hS ?_ ?_
    · rw [hn]
      decide
    · decide
  · refine generate_of_not_free (i := ⟨"super", false⟩) hS ?_ ?_
    · rw [hn]
      decide
    · decide

/-- **The names of an accepted class** can all be declared, but for the entry function of a class
    called `Crate` or `Super` that was given no name for it.  With such a class nothing is
    written. -/
theorem accepted_names (r : Request) (e : ClassEntry) (S : Plan)
    (h : Accepted r.descriptor r.selection r.support.compact e S) :
    (∀ n ∈ S.declared, Name.Declarable n) ∧
      (Name.Declarable S.entry.name ↔ ¬ ReservedEntry e) ∧
      (ReservedEntry e → ∃ failure, r.generate = .error failure) := by
  obtain ⟨hdeclared, hentry⟩ := declared_of_process (process_of_accepted h)
  refine ⟨fun n hn => Name.declarable_iff.mpr (hdeclared n hn), ?_, generate_of_reserved h⟩
  rw [Name.declarable_iff]
  exact hentry

/-! ## A batch that is stopped -/

/-- Two classes, one of them with a name that is no place word but is one in lower case. -/
def crates : Request where
  descriptor :=
    { version := Descriptor.currentVersion
      classes := [smallClass "A" "m" "" .final [], smallClass "Crate" "m" "" .final []] }
  support := .root ["autodsl_support"]
  source := "model.json"

/-- The second class is accepted, with a place word for its entry function. -/
theorem accepted_crates :
    ∃ S, Accepted crates.descriptor crates.selection crates.support.compact
      (smallClass "Crate" "m" "" .final []) S ∧ S.entry.name = "crate" := by
  let last := finalPass crates.descriptor crates.selection crates.support.compact
  have houtcome : (last.outcomes[1]?.bind (·.toOption)).any (·.entry.name == "crate") = true := by
    decide +kernel
  obtain ⟨S, hS, hname⟩ := exists_accepted 1 _ rfl houtcome
  exact ⟨S, hS, beq_iff_eq.mp hname⟩

theorem accepted_names_crates :
    ∃ S, Accepted crates.descriptor crates.selection crates.support.compact
      (smallClass "Crate" "m" "" .final []) S ∧
      (∀ n ∈ S.declared, Name.Declarable n) ∧ ¬ Name.Declarable S.entry.name ∧
      ∃ failure, crates.generate = .error failure := by
  obtain ⟨S, hS, -⟩ := accepted_crates
  obtain ⟨hdeclared, hentry, hfailure⟩ := accepted_names crates _ S hS
  have hreserved : ReservedEntry (smallClass "Crate" "m" "" .final []) :=
    ⟨by decide, .inl rfl⟩
  refine ⟨S, hS, hdeclared, ?_, hfailure hreserved⟩
  intro h
  exact hentry.mp h hreserved

/-- Why nothing is written for a request, if nothing is. -/
def Request.failure? (r : Request) : Option Failure :=
  match r.generate with
  | .error failure => some failure
  | .ok _ => none

/-- What is found to fail fails. -/
theorem generate_of_failure? {failure : Failure} (h : r.failure? = some failure) :
    r.generate = .error failure := by
  rw [Request.failure?] at h
  split at h
  · rename_i f hf
    cases h
    exact hf
  · cases h

/-- **A name that nobody looked at stops the batch.**  All names of the descriptor are well formed
    and both classes are planned, but the entry function of one is a place word. -/
theorem entry_unchecked :
    (∀ c ∈ crates.descriptor.classes,
      Name.isIdentifier c.name = true ∧ Name.isPath c.package = true) ∧
    crates.descriptor.types = [] ∧
    (∃ S ∈ crates.batch.plans, Name.isIdentifier S.entry.name = false) ∧
    crates.generate = .error (.refused "CrateBuilder" (.reserved "crate")) := by
  refine ⟨by decide, rfl, ?_, generate_of_failure? (by decide +kernel)⟩
  obtain ⟨S, hS, hname⟩ := accepted_crates
  refine ⟨S, mem_plans_iff.mpr ⟨_, hS⟩, ?_⟩
  rw [hname]
  decide

end FluentBuilders.Generation
