import Companion.Name.Qualified

/-!
# Diagnostics — what is reported about a round

A diagnostic is a message about one declaration, with notes that explain it and hints
that say what to do. An error fails the declaration it names; a warning never does.
-/

namespace Companion

/-- The weight of a diagnostic. -/
inductive Severity where
  | error
  | warning
  deriving DecidableEq, Repr

namespace Severity

/-- The word a severity is written with. -/
def text : Severity → String
  | error => "error"
  | warning => "warning"

end Severity

/-- A message about a declaration of the round. -/
structure Diagnostic where
  /-- Whether the message reports a failure. -/
  severity : Severity
  /-- The message. -/
  message : String
  /-- The declaration the message is about. -/
  origin : Option QualifiedName := none
  /-- Explanations of the message. -/
  notes : List String := []
  /-- Suggestions what to do. -/
  hints : List String := []
  deriving DecidableEq, Repr

namespace Diagnostic

/-- The diagnostic reports a failure. -/
def isError (d : Diagnostic) : Bool := d.severity == .error

/-- The diagnostic as it is shown: a line for the message, one for the origin, and one for
each note and then each hint. -/
def text (d : Diagnostic) : String :=
  d.severity.text ++ ": " ++ d.message
    ++ d.origin.elim "" (fun name => "\n  --> " ++ name.text)
    ++ String.join (d.notes.map ("\n  = note: " ++ ·))
    ++ String.join (d.hints.map ("\n  = hint: " ++ ·))

end Diagnostic

end Companion
