/-
  Eligibility — which classes can have a builder, and which constructor it calls.

  A class must be a concrete, visible class that needs no enclosing instance.  Its canonical
  constructor is the one that is marked; if none is marked and some constructor is visible, it is
  the first one.  Whether the chosen constructor is visible itself is asked afterwards, so that a
  marked one that is not gives a message of its own.
-/
import FluentBuilders.Class.Rejection

namespace FluentBuilders

/-- Why a class is no candidate, if it is none; the first reason counts. -/
def Class.ineligibility? (c : Class) : Option Ineligibility :=
  if c.kind = .enumeration then some .enumeration
  else if c.kind = .other then some .notAClass
  else if c.modality = .abstract then some .abstract
  else if c.nesting = .inBlock then some .inBlock
  else if c.nesting = .inner then some .inner
  else if !c.visibility.isUsable then some .visibility
  else none

/-- Accepts a class that is a candidate. -/
def Class.checkEligible (c : Class) : Except Rejection Unit :=
  match c.ineligibility? with
  | some reason => .error (.ineligibleClass c.name reason)
  | none => .ok ()

/-- The canonical constructor among those of a class. -/
def Constructor.choose (className : String) (cs : List Constructor) :
    Except Rejection Constructor :=
  match cs.filter (·.canonical) with
  | [marked] => .ok marked
  | _ :: _ :: _ => .error (.ambiguousConstructor className (cs.filter (·.canonical)).length)
  | [] =>
    match cs with
    | first :: _ =>
      if cs.any (·.visibility.isUsable) then .ok first
      else .error (.noEligibleConstructor className)
    | [] => .error (.noEligibleConstructor className)

/-- Accepts a constructor that a builder can call. -/
def Constructor.checkEligible (className : String) (c : Constructor) : Except Rejection Unit :=
  if c.visibility.isUsable then .ok ()
  else .error (.ineligibleConstructor className c.function)

end FluentBuilders
