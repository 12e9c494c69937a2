import Companion.Round.CompanionName
import Companion.Round.Entity
import Companion.Settings

/-!
# Companion classes — before they are written down

A companion class has the eligible fields of its entity. Each has a role: the primary
key, a field that is not persisted, or a plain field; the first two are marked in the
source. A field that is both is the primary key.
-/

namespace Companion

/-- What a field is to the persistence library. -/
inductive Role where
  /-- A field like any other. -/
  | plain
  /-- The primary key. -/
  | primaryKey
  /-- A field that is not persisted. -/
  | ignored
  deriving DecidableEq, Repr

namespace Role

/-- The role of the field of a given name. -/
def ofName (e : Entity) (name : String) : Role :=
  if name = e.primaryKey then .primaryKey
  else if e.ignores.contains name then .ignored
  else .plain

end Role

/-- A field of a companion. -/
structure CompanionField where
  /-- The name. -/
  name : String
  /-- The type. -/
  type : TypeRef
  /-- What the field is to the persistence library. -/
  role : Role := .plain
  deriving DecidableEq, Repr

/-- A companion class. -/
structure CompanionClass where
  /-- The package and simple name. -/
  name : CompanionName
  /-- The class it extends. -/
  baseClass : ClassName
  /-- The marker of the primary key. -/
  primaryKeyMarker : ClassName
  /-- The marker of a field that is not persisted. -/
  ignoreMarker : ClassName
  /-- The fields in the order of the declaration. -/
  fields : List CompanionField
  /-- The declaration it is generated for. -/
  originating : QualifiedName
  deriving DecidableEq, Repr

namespace CompanionClass

/-- The companion of an entity. -/
def ofEntity (s : Settings) (name : CompanionName) (e : Entity) : CompanionClass where
  name := name
  baseClass := s.baseClass
  primaryKeyMarker := s.primaryKeyMarker
  ignoreMarker := s.ignoreMarker
  fields := e.eligible.map fun f => ⟨f.name, f.type, .ofName e f.name⟩
  originating := e.source

/-- The marker of the fields of a role. -/
def marker? (c : CompanionClass) : Role → Option ClassName
  | .plain => none
  | .primaryKey => some c.primaryKeyMarker
  | .ignored => some c.ignoreMarker

/-- The classes the source refers to, in order: the base class, and for each field its marker and
the classes of its type. -/
def references (c : CompanionClass) : List ClassName :=
  c.baseClass :: c.fields.flatMap fun f => (c.marker? f.role).toList ++ f.type.classes

end CompanionClass

end Companion
