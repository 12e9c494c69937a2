import Companion.Round.Basic

/-!
# Failures of generation

A declaration has no companion when all its fields are left out, and there is none for a
position that the round does not have. Each failure has a code, under which it is
documented, and a word of help.
-/

namespace Companion

/-- Why a companion cannot be generated. -/
inductive GenerationError where
  /-- Every field of the declaration is left out. -/
  | noEligibleFields (declaration : QualifiedName)
  /-- The round has no declaration at that position. -/
  | unknownDeclaration (index size : Nat)
  deriving DecidableEq, Repr

namespace GenerationError

/-- The report of the error. -/
def message : GenerationError → String
  | noEligibleFields declaration =>
    "cannot generate a companion for `" ++ declaration.text
      ++ "`: every field is static or marked transient"
  | unknownDeclaration index size =>
    "declaration #" ++ toString index ++ " is not part of this round (" ++ toString size
      ++ " declarations)"

/-- The code under which the error is documented. -/
def code : GenerationError → String
  | noEligibleFields _ => "realmgen::no_eligible_fields"
  | unknownDeclaration _ _ => "realmgen::unknown_declaration"

/-- What to do about the error. -/
def help : GenerationError → String
  | noEligibleFields _ => "declare at least one instance field without the transient marker"
  | unknownDeclaration _ _ => "pass ids obtained from the same declaration set"

/-- The declaration the error is about, if there is one. -/
def declaration? : GenerationError → Option QualifiedName
  | noEligibleFields declaration => some declaration
  | unknownDeclaration _ _ => none

end GenerationError

end Companion
