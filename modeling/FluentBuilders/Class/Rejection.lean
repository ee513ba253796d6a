/-
  Rejections — why no builder is made for a class.

  Each names the class it is about, and those about one parameter name that too; a name collision
  is reported against the builder that would have been made.
-/
import FluentBuilders.Class.Basic

namespace FluentBuilders

/-- Why a class is no candidate. -/
inductive Ineligibility
  | enumeration
  | notAClass
  | abstract
  | inBlock
  | inner
  | visibility
  deriving DecidableEq, Repr

/-- How the two views of a class disagree. -/
inductive Disagreement
  | constructorCount (declared described : Nat)
  | parameterCount (function : String) (declared described : Nat)
  | parameterName (function declared described : String)
  deriving DecidableEq, Repr

/-- What is wrong with a parameter. -/
inductive ParameterFlaw
  | notIdentifier
  | repeated
  | badType (name : String)
  deriving DecidableEq, Repr

/-- What a name is used for. -/
inductive NameRole
  | className
  | package
  | displayName
  | typeParameter
  | bound
  | constructorFunction
  deriving DecidableEq, Repr

/-- Why no builder is made for a class. -/
inductive Rejection
  | notIntrospectable (className : String)
  | noEligibleConstructor (className : String)
  | ambiguousConstructor (className : String) (count : Nat)
  | ineligibleClass (className : String) (reason : Ineligibility)
  | ineligibleConstructor (className function : String)
  | unresolvableCollection (className parameter concreteType : String)
  | missingElementType (className parameter : String)
  | inconsistent (className : String) (detail : Disagreement)
  | invalidParameter (className parameter : String) (flaw : ParameterFlaw)
  | invalidName (className name : String) (role : NameRole)
  | nameCollision (builder member : String)
  deriving DecidableEq, Repr

/-! ## Wording -/

/-- Why a class is no candidate, in words. -/
def Ineligibility.message : Ineligibility → String
  | .enumeration => "code generation for enums is not supported"
  | .notAClass => "must be a class"
  | .abstract => "must not be abstract"
  | .inBlock => "must not be local"
  | .inner => "must not be an inner class"
  | .visibility => "must be public or internal"

/-- How the two views disagree, in words. -/
def Disagreement.message : Disagreement → String
  | .constructorCount m n =>
    toString m ++ " constructors declared but metadata describes " ++ toString n
  | .parameterCount f m n =>
    "constructor `" ++ f ++ "` declares " ++ toString m ++ " parameters but metadata describes "
      ++ toString n
  | .parameterName f p q =>
    "constructor `" ++ f ++ "` parameter `" ++ p ++ "` is named `" ++ q ++ "` in metadata"

/-- What is wrong with a parameter, in words. -/
def ParameterFlaw.message : ParameterFlaw → String
  | .notIdentifier => "not a valid identifier"
  | .repeated => "declared more than once"
  | .badType name => "type `" ++ name ++ "` is not a valid path"

/-- What a name is used for, in words. -/
def NameRole.message : NameRole → String
  | .className => "class name"
  | .package => "package path"
  | .displayName => "display name"
  | .typeParameter => "type parameter"
  | .bound => "type parameter bound"
  | .constructorFunction => "constructor function"

namespace Rejection

/-- A rejection in words. -/
def message : Rejection → String
  | .notIntrospectable c =>
    "`" ++ c ++ "` carries no structural metadata and cannot be introspected"
  | .noEligibleConstructor c => "there is no public or internal constructor on `" ++ c ++ "`"
  | .ambiguousConstructor c n =>
    "`" ++ c ++ "` has " ++ toString n ++ " constructors marked as canonical"
  | .ineligibleClass c reason =>
    "a builder can't be generated for `" ++ c ++ "`: " ++ reason.message
  | .ineligibleConstructor c f =>
    "a builder can't be generated for `" ++ c ++ "`: constructor `" ++ f
      ++ "` is not internal or public"
  | .unresolvableCollection c p t =>
    "`" ++ c ++ "." ++ p ++ "`: collection type `" ++ t ++ "` does not resolve to a concrete class"
  | .missingElementType c p =>
    "`" ++ c ++ "." ++ p ++ "`: collection has no parameterized element type"
  | .inconsistent c detail => "descriptor of `" ++ c ++ "` is inconsistent: " ++ detail.message
  | .invalidParameter c p flaw => "`" ++ c ++ "." ++ p ++ "` is invalid: " ++ flaw.message
  | .invalidName c name role => "`" ++ c ++ "`: `" ++ name ++ "` is not a valid " ++ role.message
  | .nameCollision b m => "`" ++ b ++ "` would declare `" ++ m ++ "` more than once"

/-- What a rejection is reported against. -/
def subject : Rejection → String
  | .notIntrospectable c | .noEligibleConstructor c | .ambiguousConstructor c _
  | .ineligibleClass c _ | .ineligibleConstructor c _ | .unresolvableCollection c _ _
  | .missingElementType c _ | .inconsistent c _ | .invalidParameter c _ _
  | .invalidName c _ _ => c
  | .nameCollision b _ => b

/-- The parameter that a rejection is about. -/
def parameter? : Rejection → Option String
  | .unresolvableCollection _ p _ | .missingElementType _ p | .invalidParameter _ p _ => some p
  | _ => none

end Rejection

/-! ## Notices -/

/-- Something worth reporting that stops nothing: a variance that cannot be expressed. -/
structure Notice where
  className : String
  parameter : String
  variance : Descriptor.Variance
  deriving DecidableEq, Repr

/-- A variance in words. -/
def Descriptor.Variance.word : Descriptor.Variance → String
  | .invariant => "invariant"
  | .contravariant => "in"
  | .covariant => "out"

/-- A notice in words. -/
def Notice.message (n : Notice) : String :=
  "`" ++ n.className ++ "`: variance `" ++ n.variance.word ++ "` of type parameter `"
    ++ n.parameter ++ "` is not expressible and was dropped"

/-- Something to report about a class. -/
inductive Diagnostic
  | rejected (reason : Rejection)
  | noticed (notice : Notice)
  deriving DecidableEq, Repr

namespace Diagnostic

/-- A diagnostic in words. -/
def message : Diagnostic → String
  | .rejected r => r.message
  | .noticed n => n.message

/-- What a diagnostic is reported against. -/
def subject : Diagnostic → String
  | .rejected r => r.subject
  | .noticed n => n.className

/-- Whether a diagnostic says that no builder is made. -/
def isRejection : Diagnostic → Bool
  | .rejected _ => true
  | .noticed _ => false

end Diagnostic

end FluentBuilders
