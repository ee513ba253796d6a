/-
  Headers — the comment that every generated file begins with.

  It says what the file is for, which descriptor it was made from and which version made it.  The
  descriptor is named as the user named it.
-/

namespace FluentBuilders.Generation

/-- The version of the generator. -/
def version : String := "0.1.0"

/-- What a header says. -/
structure Header where
  title : String
  source : String
  deriving DecidableEq, Repr

/-- The text of a header, with the empty line behind it. -/
def Header.text (h : Header) : String :=
  "//! AUTO-GENERATED CODE - DO NOT EDIT!\n//!\n"
    ++ "//! " ++ h.title ++ "\n"
    ++ "//! Source: " ++ h.source ++ "\n"
    ++ "//! Generated by `autodsl-gen` v" ++ version ++ "\n\n"

end FluentBuilders.Generation
