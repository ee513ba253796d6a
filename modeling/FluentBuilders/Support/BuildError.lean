/-
  Build errors — why a finished builder gives no value.
-/

namespace FluentBuilders.Support

/-- A required property was never assigned to. -/
structure BuildError where
  builder : String
  property : String
  deriving DecidableEq, Repr

/-- A build error in words. -/
def BuildError.message (e : BuildError) : String :=
  "required property `" ++ e.property ++ "` of `" ++ e.builder ++ "` was never set"

end FluentBuilders.Support
