import Companion.Round.Error

/-!
# The name of a companion

A companion is a top-level Java class in the package of the outermost declaration around
its source. Its simple name is a fixed word followed by the names of the declarations
from the outermost to the source itself, with underscores between them:
`Outer.Inner.Leaf` becomes `RealmOuter_Inner_Leaf`.
-/

namespace Companion

/-- Where a companion class lives. -/
structure CompanionName where
  /-- The package; empty for the default package. -/
  package : String
  /-- The simple name. -/
  simpleName : String
  deriving DecidableEq, Repr

namespace CompanionName

/-- The dotted name, which in the default package is the simple name. -/
def qualified (n : CompanionName) : String :=
  if n.package.isEmpty then n.simpleName else n.package ++ "." ++ n.simpleName

end CompanionName

/-- Walk outwards from a declaration for at most `steps` links, putting the name of each one met
before those already joined; the last one met gives the package. -/
def flatten (ds : List Declaration) (leading : String) :
    Nat → Declaration → String → CompanionName
  | 0, d, joined => ⟨d.package, leading ++ joined⟩
  | steps + 1, d, joined =>
    match d.enclosing.bind (ds[·]?) with
    | none => ⟨d.package, leading ++ joined⟩
    | some outer => flatten ds leading steps outer (outer.name ++ "_" ++ joined)

namespace Round

/-- The name of the companion of the declaration at a position, with the given leading word. -/
def companionName (r : Round) (id : Nat) (leading : String) :
    Except GenerationError CompanionName :=
  match r.get? id with
  | none => .error (.unknownDeclaration id r.size)
  | some d => .ok (flatten r.declarations leading r.size d d.name)

end Round

end Companion
