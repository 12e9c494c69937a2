/-!
# Refusals of a type text

Each way a type or class text can be refused, and the message that reports it. The
message always carries the whole text that was given, also when only a part of it is at
fault.
-/

namespace Companion

/-- Why a text is no type reference. -/
inductive Refusal where
  /-- No name stands where a type has to begin. -/
  | noTypeName
  /-- A dotted name has a segment that is no identifier. -/
  | notDotted
  /-- A name with a slash is not a package and a class path. -/
  | notPackaged
  /-- A list of type arguments is not closed. -/
  | openArguments
  /-- An opening bracket is not followed by its closing one. -/
  | openBracket
  /-- A wildcard is bounded by a primitive type. -/
  | primitiveBound
  /-- Text is left over behind the type. -/
  | trailing (rest : String)
  deriving DecidableEq, Repr

namespace Refusal

/-- The reason as it is reported. -/
def reason : Refusal → String
  | noTypeName => "expected a type name"
  | notDotted => "expected a dotted identifier"
  | notPackaged => "expected `package/Class`"
  | openArguments => "unclosed type argument list"
  | openBracket => "expected `]`"
  | primitiveBound => "wildcard bound must be a reference type"
  | trailing rest => "unexpected trailing `" ++ rest ++ "`"

end Refusal

/-- A refused text together with the reason. -/
structure TypeError where
  /-- The whole text that was given. -/
  input : String
  /-- What is wrong with it. -/
  refusal : Refusal
  deriving DecidableEq, Repr

namespace TypeError

/-- The reason of the refusal. -/
def reason (e : TypeError) : String := e.refusal.reason

/-- The report of the refusal. -/
def message (e : TypeError) : String :=
  "invalid type reference `" ++ e.input ++ "`: " ++ e.reason

end TypeError

end Companion
