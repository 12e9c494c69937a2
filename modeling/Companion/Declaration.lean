import Companion.Type.Basic

/-!
# Declarations — the classes a round is made of

A declaration is a class as its source has it: its simple name, its fields, the mark
that makes it an entity, and a link to the declaration around it. The package of a
nested declaration is that of the outermost one around it, whatever its own says.
-/

namespace Companion

/-- A field of a declaration. -/
structure Field where
  /-- The name. -/
  name : String
  /-- The declared type. -/
  type : TypeRef
  /-- The field belongs to the class and not to its instances. -/
  isStatic : Bool := false
  /-- The field carries the transient marker. -/
  isTransient : Bool := false
  deriving DecidableEq, Repr

/-- What the entity marker of a declaration says. -/
structure EntityMark where
  /-- The name of the field that is the primary key. -/
  primaryKey : String := ""
  /-- The names of the fields that are not persisted. -/
  ignores : List String := []
  deriving DecidableEq, Repr

/-- A class declaration of a round. -/
structure Declaration where
  /-- The simple name. -/
  name : String
  /-- The package; only that of an outermost declaration counts. -/
  package : String := ""
  /-- The position in the round of the declaration around this one. -/
  enclosing : Option Nat := none
  /-- The fields in the order of the source. -/
  fields : List Field := []
  /-- The entity marker, if the declaration carries it. -/
  entity : Option EntityMark := none
  deriving DecidableEq, Repr

namespace Declaration

/-- The declaration carries the entity marker. -/
def isEntity (d : Declaration) : Bool := d.entity.isSome

end Declaration

end Companion
