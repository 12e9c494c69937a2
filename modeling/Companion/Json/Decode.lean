import Companion.Json.Reader
import Companion.Text.Quoted
import Companion.Type.Error

/-!
# Decoding JSON values

A decoder turns a tree into a value of a certain type, from left to right: the first
problem it meets is the one it reports. A record is written as an object, whose unknown
members are passed over, or as the list of its members in a fixed order, from which
members may be missing at the end. Either way a member that is not required may be left
out and keeps the value it has in a blank record.
-/

namespace Companion

namespace Json

/-! ## Problems -/

/-- Why a well-formed value is not the one that is wanted. -/
inductive Mismatch where
  /-- The value is of another kind than the one wanted. -/
  | kind (found wanted : String)
  /-- A number is below zero; its absolute value is given. -/
  | negative (n : Nat) (wanted : String)
  /-- An object lacks a required member. -/
  | missingMember (name : String)
  /-- A member stands twice in an object. -/
  | repeatedMember (name : String)
  /-- A list of the members of a record ends before a required one. -/
  | shortList (position : Nat) (record : String) (members : Nat)
  /-- A text is refused as a type or class. -/
  | type (e : TypeError)
  deriving DecidableEq, Repr

namespace Mismatch

/-- The report of a mismatch. -/
def message : Mismatch → String
  | kind found wanted => "invalid type: " ++ found ++ ", expected " ++ wanted
  | negative n wanted => "invalid value: integer `-" ++ toString n ++ "`, expected " ++ wanted
  | missingMember name => "missing field `" ++ name ++ "`"
  | repeatedMember name => "duplicate field `" ++ name ++ "`"
  | shortList position record members =>
    "invalid length " ++ toString position ++ ", expected struct " ++ record ++ " with "
      ++ toString members ++ " elements"
  | type e => e.message

end Mismatch

/-- Why a text cannot be decoded. -/
inductive Problem where
  /-- The text is not well-formed. -/
  | defect (d : Defect)
  /-- A value is not the one that is wanted. -/
  | mismatch (m : Mismatch)
  deriving DecidableEq, Repr

namespace Problem

/-- The report of a problem with a text that should describe `subject`. How a text is malformed is not
told. -/
def message (subject : String) : Problem → String
  | defect _ => "invalid " ++ subject
  | mismatch m => "invalid " ++ subject ++ ": " ++ m.message

end Problem

/-- The result of a decoder. -/
abbrev Decoded (α : Type) := Except Problem α

/-- A decoder meets a value of another kind than the one wanted. -/
def mismatched {α : Type} (found wanted : String) : Decoded α :=
  .error (.mismatch (.kind found wanted))

namespace Number

/-- A number as it is reported. -/
def found : Number → String
  | natural n => "integer `" ++ toString n ++ "`"
  | negative n => "integer `-" ++ toString n ++ "`"
  | real minus x => "floating point `" ++ x.text minus ++ "`"

end Number

namespace Value

/-- Report a value of another kind than the one wanted. A list or an object is reported without
looking into it, and a defect is reported as such. -/
def unwanted {α : Type} (wanted : String) : Value → Decoded α
  | null => mismatched "null" wanted
  | bool b => mismatched ("boolean `" ++ toString b ++ "`") wanted
  | number n => mismatched n.found wanted
  | string s => mismatched ("string " ++ Text.quoted s) wanted
  | list _ => mismatched "sequence" wanted
  | object _ => mismatched "map" wanted
  | broken used _ => .error (.defect used)

/-! ## Plain values -/

/-- A string. -/
def toText : Value → Decoded String
  | string s => .ok s
  | v => v.unwanted "a string"

/-- A truth value. -/
def toBool : Value → Decoded Bool
  | bool b => .ok b
  | v => v.unwanted "a boolean"

/-- A natural number below 2^64. -/
def toNatural : Value → Decoded Nat
  | number (.natural n) => .ok n
  | number (.negative n) => .error (.mismatch (.negative n "usize"))
  | v => v.unwanted "usize"

/-- A value, or `null` for none. -/
def toOption {α : Type} (decode : Value → Decoded α) : Value → Decoded (Option α)
  | null => .ok none
  | v => some <$> decode v

/-- A text that has a meaning. -/
def toMeaning {α : Type} (read : String → Except TypeError α) (v : Value) : Decoded α := do
  (read (← v.toText)).mapError fun e => .mismatch (.type e)

end Value

namespace Items

/-- Each of the values. -/
def decode {α : Type} (read : Value → Decoded α) : Items → Decoded (List α)
  | done => .ok []
  | item v rest => do
    let a ← read v
    let as ← rest.decode read
    .ok (a :: as)
  | broken d => .error (.defect d)

end Items

namespace Value

/-- A list of values. -/
def toList {α : Type} (decode : Value → Decoded α) : Value → Decoded (List α)
  | list items => items.decode decode
  | v => v.unwanted "a sequence"

end Value

/-! ## Records -/

/-- A member of a record of type `α`. -/
structure Member (α : Type) where
  /-- The key of the member. -/
  name : String
  /-- The member may not be left out. -/
  required : Bool := false
  /-- The record with the member decoded from a value. -/
  put : α → Value → Decoded α

/-- How a record of type `α` is written. -/
structure Record (α : Type) where
  /-- The name under which the record is reported. -/
  name : String
  /-- The record with every member left out. -/
  blank : α
  /-- The members in their order. -/
  members : List (Member α)

namespace Record

variable {α : Type} (record : Record α)

/-- Decode the members that are given as a list, the ones from `position` on being `left`. -/
def fromItems (left : List (Member α)) (position : Nat) (a : α) : Items → Decoded α
  | .done =>
    match left.findIdx? (·.required) with
    | none => .ok a
    | some i => .error (.mismatch (.shortList (position + i) record.name record.members.length))
  | .item v rest =>
    match left with
    | [] => .error (.defect .malformed)
    | m :: left => do
      let a ← m.put a v
      fromItems left (position + 1) a rest
  | .broken d => .error (.defect d)

/-- Decode the members that are given by their keys, some having been `seen`. -/
def fromMembers (seen : List String) (a : α) : Members → Decoded α
  | .done =>
    match record.members.find? fun m => m.required && !seen.contains m.name with
    | none => .ok a
    | some m => .error (.mismatch (.missingMember m.name))
  | .member none _ _ => .error (.defect .malformed)
  | .member (some key) v rest =>
    match record.members.find? (·.name == key) with
    | none =>
      match v.defect? with
      | some d => .error (.defect d)
      | none => fromMembers seen a rest
    | some m =>
      if seen.contains key then .error (.mismatch (.repeatedMember key))
      else do
        let a ← m.put a v
        fromMembers (key :: seen) a rest
  | .broken used _ => .error (.defect used)

/-- Decode a record from an object or from a list of its members. -/
def decode (v : Value) : Decoded α :=
  match v with
  | .list items => record.fromItems record.members 0 record.blank items
  | .object members => record.fromMembers [] record.blank members
  | v => v.unwanted ("struct " ++ record.name)

/-- Decode a whole text, behind which nothing but blanks may be left. -/
def ofText (text : String) : Decoded α := do
  let (v, trailing) := Json.ofText text
  let a ← record.decode v
  if trailing then .error (.defect .malformed) else .ok a

end Record

end Json

end Companion
