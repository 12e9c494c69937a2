import Companion.Json.Decode
import Companion.Round.Basic
import Companion.Type.Reader
import Companion.Type.Text

/-!
# Rounds as JSON

A round comes from the host as `{"declarations": [...]}`. Only the name of a declaration
and the name and type of a field are required. The types of fields are given as texts.
-/

namespace Companion

open Json

namespace Field

/-- How a field is written. -/
def record : Record Field where
  name := "FieldDecl"
  blank := { name := "", type := .wildcard }
  members := [
    ⟨"name", true, fun f v => do .ok { f with name := ← v.toText }⟩,
    ⟨"type", true, fun f v => do .ok { f with type := ← v.toMeaning TypeRef.ofText }⟩,
    ⟨"static", false, fun f v => do .ok { f with isStatic := ← v.toBool }⟩,
    ⟨"transient", false, fun f v => do .ok { f with isTransient := ← v.toBool }⟩]

/-- The object that is decoded as the field. -/
def toJson (f : Field) : Value :=
  .ofMembers [("name", .string f.name), ("type", .string f.type.text),
    ("static", .bool f.isStatic), ("transient", .bool f.isTransient)]

end Field

namespace EntityMark

/-- How an entity marker is written. -/
def record : Record EntityMark where
  name := "EntityMeta"
  blank := {}
  members := [
    ⟨"primary_key", false, fun e v => do .ok { e with primaryKey := ← v.toText }⟩,
    ⟨"ignores", false, fun e v => do .ok { e with ignores := ← v.toList Value.toText }⟩]

/-- The object that is decoded as the marker. -/
def toJson (e : EntityMark) : Value :=
  .ofMembers [("primary_key", .string e.primaryKey),
    ("ignores", .ofList (e.ignores.map Value.string))]

end EntityMark

namespace Declaration

/-- How a declaration is written. -/
def record : Record Declaration where
  name := "TypeDecl"
  blank := { name := "" }
  members := [
    ⟨"name", true, fun d v => do .ok { d with name := ← v.toText }⟩,
    ⟨"package", false, fun d v => do .ok { d with package := ← v.toText }⟩,
    ⟨"enclosing", false, fun d v => do .ok { d with enclosing := ← v.toOption Value.toNatural }⟩,
    ⟨"fields", false, fun d v => do .ok { d with fields := ← v.toList Field.record.decode }⟩,
    ⟨"entity", false, fun d v => do
      .ok { d with entity := ← v.toOption EntityMark.record.decode }⟩]

/-- The object that is decoded as the declaration. -/
def toJson (d : Declaration) : Value :=
  .ofMembers [("name", .string d.name), ("package", .string d.package),
    ("enclosing", d.enclosing.elim .null .ofNat),
    ("fields", .ofList (d.fields.map Field.toJson)),
    ("entity", d.entity.elim .null EntityMark.toJson)]

end Declaration

namespace Round

/-- How a round is written. -/
def record : Record (List Declaration) where
  name := "RawRound"
  blank := []
  members := [⟨"declarations", false, fun _ v => v.toList Declaration.record.decode⟩]

/-- Why a text is no round. -/
inductive LoadError where
  /-- The text cannot be decoded. -/
  | json (p : Problem)
  /-- The declarations make no round. -/
  | link (e : LinkError)
  deriving DecidableEq, Repr

namespace LoadError

/-- The report of the error. -/
def message : LoadError → String
  | json p => p.message "declaration round"
  | link e => e.message

end LoadError

/-- The round that a text describes. -/
def ofText (text : String) : Except LoadError Round := do
  let ds ← (record.ofText text).mapError .json
  (ofDeclarations ds).mapError .link

end Round

end Companion
