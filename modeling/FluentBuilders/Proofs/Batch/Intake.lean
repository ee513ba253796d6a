/-
  Intake — which class entries a pass takes in, and what it notes on the way.

  An entry can be read when it is consistent (`Class.Consistent`), and what is read of it is then
  fixed.  Reading does not see the pass: it gives its notices, of an entry that it rejects as well,
  and the pass adds them to what it has.
-/
import FluentBuilders.Proofs.Batch.Accounts

namespace FluentBuilders.Batch

open Descriptor (ClassEntry)

/-- **Reading accepts exactly the consistent entries**, puts their two views together without loss,
    and reports one notice for each type parameter that varies against its class, up to the first
    that is not well formed; a pass keeps what it reported before. -/
theorem read_iff_consistent (e : ClassEntry) :
    (∀ f, (Class.read e).2 = .ok f ↔
      ∃ m, e.metadata = some m ∧ Class.Consistent e m ∧ f = Class.factsOf e m) ∧
    (∀ f, (Class.read e).2 = .ok f →
      f.constructors.map (fun k => (k.function, k.parameters.map (·.name)))
          = e.constructors.map (fun c => (c.function, c.parameters.map (·.name))) ∧
        Class.passed e = typeParametersOf e) ∧
    (Class.read e).1
      = ((Class.passed e).filter (·.variance = .contravariant)).map (noticeFor e) ∧
    ∀ (k : Catalogue) (s : Pass), (s.step k e).diagnostics
      = s.diagnostics ++ ((Class.read e).1.map Diagnostic.noticed
          ++ (rejection? (s.verdict k e)).toList.map Diagnostic.rejected) := by
  have hfacts : ∀ f, (Class.read e).2 = .ok f →
      f.constructors.map (fun k => (k.function, k.parameters.map (·.name)))
          = e.constructors.map (fun c => (c.function, c.parameters.map (·.name))) ∧
        Class.passed e = typeParametersOf e := by
    intro f h
    obtain ⟨m, hm, hc, rfl⟩ := Class.read_eq_ok_iff.mp h
    refine ⟨hc.declared, ?_⟩
    rw [hc.passed_eq hm, typeParametersOf, hm]
  have hnotices : (Class.read e).1
      = ((Class.passed e).filter (·.variance = .contravariant)).map (noticeFor e) := by
    rw [Class.notices_read, flatMap_noticesOf]
  exact ⟨fun _ => Class.read_eq_ok_iff, hfacts, hnotices,
    fun k s => diagnostics_step_reportOf k s e⟩

end FluentBuilders.Batch
