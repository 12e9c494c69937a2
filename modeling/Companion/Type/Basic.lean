import Companion.Name.ClassName

/-!
# Type references — the declared types of fields

A field is declared with a primitive type, a class, a class applied to type arguments or
an array of such types. A wildcard stands only as a type argument, with or without a
bound on one side.
-/

namespace Companion

/-- The primitive types. -/
inductive Primitive where
  | boolean | byte | short | int | long | char | float | double
  deriving DecidableEq, Repr

namespace Primitive

/-- Every primitive type. -/
def all : List Primitive := [boolean, byte, short, int, long, char, float, double]

/-- The keyword a primitive type is written with. -/
def keyword : Primitive → String
  | boolean => "boolean"
  | byte => "byte"
  | short => "short"
  | int => "int"
  | long => "long"
  | char => "char"
  | float => "float"
  | double => "double"

/-- The primitive type a word is the keyword of. -/
def ofKeyword? (word : List Char) : Option Primitive := all.find? (·.keyword.toList == word)

theorem mem_all (p : Primitive) : p ∈ all := by cases p <;> decide

theorem ofKeyword?_keyword (p : Primitive) : ofKeyword? p.keyword.toList = some p := by
  cases p <;> decide

/-- A word names at most the primitive type it is the keyword of. -/
theorem ofKeyword?_eq_some {word : List Char} {p : Primitive} :
    ofKeyword? word = some p ↔ word = p.keyword.toList := by
  refine ⟨fun h => ?_, fun h => h ▸ ofKeyword?_keyword p⟩
  have found := List.find?_some h
  exact (beq_iff_eq.1 found).symm

end Primitive

/-- The side on which a wildcard is bounded. -/
inductive Bound where
  /-- Any subtype of the bound. -/
  | upper
  /-- Any supertype of the bound. -/
  | lower
  deriving DecidableEq, Repr

namespace Bound

/-- The keyword that introduces the bound. -/
def keyword : Bound → String
  | upper => "extends"
  | lower => "super"

end Bound

/-- A reference to a type. -/
inductive TypeRef where
  /-- A primitive type. -/
  | primitive (p : Primitive)
  /-- A class without type arguments. -/
  | named (c : ClassName)
  /-- A class applied to type arguments. -/
  | parameterized (raw : ClassName) (args : List TypeRef)
  /-- An array of the component type. -/
  | array (component : TypeRef)
  /-- The type argument that may be any type. -/
  | wildcard
  /-- The type argument that may be any type on one side of the bound. -/
  | bounded (side : Bound) (type : TypeRef)
  deriving Repr

namespace TypeRef

/-! ## Equality -/

mutual

/-- Two types are the same tree. -/
def same : TypeRef → TypeRef → Bool
  | primitive p, primitive q => p == q
  | named c, named d => c == d
  | parameterized c args, parameterized d brgs => c == d && sameArgs args brgs
  | array t, array u => same t u
  | wildcard, wildcard => true
  | bounded s t, bounded r u => s == r && same t u
  | _, _ => false

/-- Two argument lists are the same trees in the same order. -/
def sameArgs : List TypeRef → List TypeRef → Bool
  | [], [] => true
  | t :: ts, u :: us => same t u && sameArgs ts us
  | _, _ => false

end

mutual

theorem same_iff : ∀ t u : TypeRef, same t u = true ↔ t = u
  | primitive _, u => by cases u <;> simp [same]
  | named _, u => by cases u <;> simp [same]
  | parameterized _ args, u => by cases u <;> simp [same, sameArgs_iff args]
  | array t, u => by cases u <;> simp [same, same_iff t]
  | wildcard, u => by cases u <;> simp [same]
  | bounded _ t, u => by cases u <;> simp [same, same_iff t]

theorem sameArgs_iff : ∀ ts us : List TypeRef, sameArgs ts us = true ↔ ts = us
  | [], us => by cases us <;> simp [sameArgs]
  | t :: ts, us => by cases us <;> simp [sameArgs, same_iff t, sameArgs_iff ts]

end

instance : DecidableEq TypeRef := fun t u => decidable_of_iff _ (same_iff t u)

/-! ## The classes of a type -/

/-- A bare primitive type, which cannot bound a wildcard. -/
def isPrimitive : TypeRef → Bool
  | primitive _ => true
  | _ => false

mutual

/-- Every class a type mentions, in the order in which they are written. -/
def classes : TypeRef → List ClassName
  | primitive _ => []
  | named c => [c]
  | parameterized raw args => raw :: classesOfArgs args
  | array component => classes component
  | wildcard => []
  | bounded _ type => classes type

/-- Every class a list of type arguments mentions. -/
def classesOfArgs : List TypeRef → List ClassName
  | [] => []
  | arg :: args => classes arg ++ classesOfArgs args

end

end TypeRef

end Companion
