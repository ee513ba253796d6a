/-
  Batches — all marked classes of a descriptor, processed together until their builders fit.

  A pass takes every target through reading, eligibility, classification and synthesis, against a
  catalogue of what is known to have a builder.  Targets do not stop one another; only the names
  of their modules and of their entry functions must not be taken by an earlier one.

  If a pass rejects a class that still has its mark among the known classes, the mark is withdrawn
  there and another pass is run, so that parameters of that type become plain.  Each such step
  withdraws at least one mark, so the passes come to an end.
-/
import FluentBuilders.Builder.Synthesis
import FluentBuilders.Class.Reading
import FluentBuilders.Class.Eligibility

namespace FluentBuilders.Batch

open Descriptor (ClassEntry)

/-! ## One class -/

/-- The plan for a class entry whose facts are known. -/
def planOf (k : Catalogue) (f : Class.Facts) : Except Rejection Plan := do
  f.subject.checkEligible
  let c ← Constructor.choose f.subject.name f.constructors
  c.checkEligible f.subject.name
  let c ← c.classify f.subject.name k
  Plan.synthesize f.subject c

/-- What is reported about a class entry, and its plan or its rejection. -/
def process (k : Catalogue) (e : ClassEntry) : List Notice × Except Rejection Plan :=
  let (notices, facts) := Class.read e
  (notices, facts >>= planOf k)

/-! ## One pass -/

/-- The result of a pass so far: the outcome of each target, what is reported, and the names of
    modules and entry functions that are taken. -/
structure Pass where
  outcomes : List (Except Rejection Plan) := []
  diagnostics : List Diagnostic := []
  modules : List String := []
  entries : List String := []

/-- The rejection of a plan whose name is taken. -/
def taken {α : Type} (p : Plan) (name : String) : Except Rejection α :=
  .error (.nameCollision p.builder name)

/-- Accepts a plan if its names are free.  A module name stays taken even if the entry name is
    not free. -/
def Pass.accept (s : Pass) (p : Plan) : Pass × Except Rejection Plan :=
  if s.modules.contains p.module then (s, taken p p.module)
  else
    let s := { s with modules := s.modules ++ [p.module] }
    if s.entries.contains p.entry.name then (s, taken p p.entry.name)
    else ({ s with entries := s.entries ++ [p.entry.name] }, .ok p)

/-- Takes one target through the pass. -/
def Pass.step (k : Catalogue) (s : Pass) (e : ClassEntry) : Pass :=
  let (notices, plan) := process k e
  let s := { s with diagnostics := s.diagnostics ++ notices.map Diagnostic.noticed }
  let (s, outcome) := match plan with
    | .ok p => s.accept p
    | .error r => (s, .error r)
  let rejected := match outcome with
    | .ok _ => []
    | .error r => [Diagnostic.rejected r]
  { s with outcomes := s.outcomes ++ [outcome], diagnostics := s.diagnostics ++ rejected }

/-- Processes the targets of one descriptor against the classes of another. -/
def Pass.run (targets known : Descriptor) (support : String) : Pass :=
  targets.targets.foldl (Pass.step (.ofDescriptor known support)) {}

/-! ## Until nothing is withdrawn -/

/-- What identifies a class: its package and its name. -/
def keyOf (e : ClassEntry) : String × String := (e.package, e.name)

/-- Whether an outcome is a rejection. -/
def isRejected : Except Rejection Plan → Bool
  | .ok _ => false
  | .error _ => true

/-- The targets that a pass rejected. -/
def Pass.rejected (s : Pass) (targets : Descriptor) : List (String × String) :=
  ((targets.targets.zip s.outcomes).filter fun (_, o) => isRejected o).map fun (e, _) => keyOf e

/-- The descriptor without the marks of the given classes. -/
def withdraw (keys : List (String × String)) (d : Descriptor) : Descriptor :=
  { d with classes := d.classes.map fun e =>
      if keys.contains (keyOf e) then { e with generate := none } else e }

/-- Runs passes until one withdraws nothing, and gives the last of them. -/
def settle (targets known : Descriptor) (support : String) : Pass :=
  let pass := Pass.run targets known support
  let next := withdraw (pass.rejected targets) known
  if next.targets.length < known.targets.length then settle targets next support else pass
termination_by known.targets.length

/-! ## Selection -/

/-- Which classes are wanted; an absent filter lets everything through. -/
structure Selection where
  only : Option (List String) := none
  exclude : Option (List String) := none
  deriving DecidableEq, Repr

/-- Whether a class is wanted. -/
def Selection.wants (s : Selection) (e : ClassEntry) : Bool :=
  s.only.all (·.contains e.name) && !s.exclude.any (·.contains e.name)

/-- The descriptor without the marks of classes that are not wanted. -/
def Selection.apply (s : Selection) (d : Descriptor) : Descriptor :=
  { d with classes := d.classes.map fun e =>
      if s.wants e then e else { e with generate := none } }

end FluentBuilders.Batch
