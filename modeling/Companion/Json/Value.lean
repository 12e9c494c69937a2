import Companion.Decimal.Shortest

/-!
# JSON values — as far as a text could be read

A JSON text is read into a tree. When the text breaks a rule of the format the tree is
not given up: it ends at that place with a defect, and what was read before stands. A
decoder walks the tree from left to right, so whatever comes first in the text is what
it reports, be it a value of the wrong type or a defect.

A value that is passed over is held to less than one that is used: it may contain half
of a surrogate pair or a number that is too large. A defect therefore says separately
what it is to a decoder that uses the value and to one that passes over it.
-/

namespace Companion

namespace Json

/-- What is wrong with a text. -/
inductive Defect where
  /-- The text breaks a rule of the format. -/
  | malformed
  /-- The text ends too early. -/
  | truncated
  deriving DecidableEq, Repr

/-- A number. -/
inductive Number where
  /-- A whole number from zero up to, but not including, 2^64. -/
  | natural (n : Nat)
  /-- A whole number below zero and not below -2^63, by its absolute value. -/
  | negative (n : Nat)
  /-- Any other number, as the nearest double; minus zero is one. -/
  | real (negative : Bool) (x : Binary64)
  deriving DecidableEq, Repr

mutual

/-- A value of a JSON text. -/
inductive Value where
  /-- The value `null`. -/
  | null
  /-- A truth value. -/
  | bool (b : Bool)
  /-- A number. -/
  | number (n : Number)
  /-- A string. -/
  | string (s : String)
  /-- A list of values. -/
  | list (items : Items)
  /-- An object with members. -/
  | object (members : Members)
  /-- No value: the defect for a decoder that uses it, and the one, if any, for a decoder that
  passes over it. -/
  | broken (used : Defect) (passed : Option Defect)

/-- The values of a list, up to its end or a defect. -/
inductive Items where
  /-- The end of the list. -/
  | done
  /-- A value and those behind it. -/
  | item (value : Value) (rest : Items)
  /-- No further value and no end. -/
  | broken (defect : Defect)

/-- The members of an object, up to its end or a defect. -/
inductive Members where
  /-- The end of the object. -/
  | done
  /-- A key, its value, and the members behind it. A key that holds half of a surrogate pair is
  absent. -/
  | member (key : Option String) (value : Value) (rest : Members)
  /-- No further member and no end: the defect for a decoder that uses the key, and the one for a
  decoder that passes over it. -/
  | broken (used passed : Defect)

end

deriving instance Repr for Value, Items, Members

mutual

/-- The first defect met by a decoder that passes over a value. -/
def Value.defect? : Value → Option Defect
  | .list items => items.defect?
  | .object members => members.defect?
  | .broken _ passed => passed
  | _ => none

/-- The first defect met by a decoder that passes over the values of a list. -/
def Items.defect? : Items → Option Defect
  | .done => none
  | .item value rest => value.defect?.or rest.defect?
  | .broken defect => some defect

/-- The first defect met by a decoder that passes over the members of an object. -/
def Members.defect? : Members → Option Defect
  | .done => none
  | .member _ value rest => value.defect?.or rest.defect?
  | .broken _ passed => some passed

end

/-! ## Building values -/

/-- The list of the given values. -/
def Items.ofList : List Value → Items
  | [] => .done
  | v :: vs => .item v (ofList vs)

/-- The members of the given keys and values. -/
def Members.ofList : List (String × Value) → Members
  | [] => .done
  | (key, v) :: rest => .member (some key) v (ofList rest)

namespace Value

/-- The list of the given values. -/
def ofList (vs : List Value) : Value := .list (.ofList vs)

/-- The object with the given members. -/
def ofMembers (ms : List (String × Value)) : Value := .object (.ofList ms)

/-- The given natural number, which is below 2^64. -/
def ofNat (n : Nat) : Value := .number (.natural n)

end Value

end Json

end Companion
