import Companion.Round.Error
import Companion.Text.Sorted

/-!
# Entities — the view of a declaration that a companion is made from

Every field of a declaration is classified once: a static field and a transient one are
left out of the companion, the others are eligible. A declaration without an eligible
field has no companion.
-/

namespace Companion

/-- Why a field is left out of the companion. -/
inductive Exclusion where
  /-- The field belongs to the class and not to its instances. -/
  | static
  /-- The field carries the transient marker. -/
  | transient
  deriving DecidableEq, Repr

/-- A field together with the reason to leave it out, if there is one. -/
structure ClassifiedField where
  /-- The name. -/
  name : String
  /-- The declared type. -/
  type : TypeRef
  /-- The reason to leave it out. -/
  exclusion : Option Exclusion
  deriving DecidableEq, Repr

namespace Field

/-- The reason to leave a field out. That it is static weighs more than that it is transient. -/
def exclusion? (f : Field) : Option Exclusion :=
  if f.isStatic then some .static else if f.isTransient then some .transient else none

/-- The field with the reason to leave it out. -/
def classify (f : Field) : ClassifiedField := ⟨f.name, f.type, f.exclusion?⟩

end Field

/-- What the generator has to know about a declaration. -/
structure Entity where
  /-- The dotted name of the declaration. -/
  source : QualifiedName
  /-- The name of the primary key; empty when there is none. -/
  primaryKey : String
  /-- The names of the fields that are not persisted, in increasing order. -/
  ignores : List String
  /-- All fields in the order of the declaration. -/
  fields : List ClassifiedField
  deriving DecidableEq, Repr

namespace Entity

/-- The fields that the companion has, in the order of the declaration. -/
def eligible (e : Entity) : List ClassifiedField := e.fields.filter (·.exclusion.isNone)

/-- An eligible field is both the primary key and one of those that are not persisted. -/
def ignoresPrimaryKey (e : Entity) : Bool :=
  e.ignores.contains e.primaryKey && e.eligible.any (·.name == e.primaryKey)

/-- The view of a declaration under its dotted name. One that is not marked has no primary key and
persists every field. -/
def ofDeclaration (source : QualifiedName) (d : Declaration) : Entity :=
  let mark := d.entity.getD {}
  ⟨source, mark.primaryKey, Text.sorted mark.ignores, d.fields.map Field.classify⟩

end Entity

namespace Round

/-- The view of the declaration at a position, which must have an eligible field. -/
def entity (r : Round) (id : Nat) : Except GenerationError Entity :=
  match r.get? id with
  | none => .error (.unknownDeclaration id r.size)
  | some d =>
    let e := Entity.ofDeclaration (r.qualifiedName id) d
    if e.eligible.isEmpty then .error (.noEligibleFields e.source) else .ok e

end Round

end Companion
