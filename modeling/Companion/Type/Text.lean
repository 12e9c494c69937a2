import Companion.Type.Basic
import Companion.Name.ClassText

/-!
# The text of a type reference

`List<? extends Number>[]`: arguments in angle brackets with a comma and a space between
them, one pair of square brackets for each array, a question mark for a wildcard. How a
class is spelled is left open, since a type is written with full names on its own and
with short names inside a source file.
-/

namespace Companion

namespace TypeRef

mutual

/-- The text of a type whose classes are spelled by `spell`. -/
def spelled (spell : ClassName → String) : TypeRef → String
  | primitive p => p.keyword
  | named c => spell c
  | parameterized raw args =>
    spell raw ++ "<" ++ ", ".intercalate (spelledArgs spell args) ++ ">"
  | array component => spelled spell component ++ "[]"
  | wildcard => "?"
  | bounded side type => "? " ++ side.keyword ++ " " ++ spelled spell type

/-- The texts of the type arguments in order. -/
def spelledArgs (spell : ClassName → String) : List TypeRef → List String
  | [] => []
  | arg :: args => spelled spell arg :: spelledArgs spell args

end

/-- The text that is read back as this type. -/
def text (t : TypeRef) : String := t.spelled ClassName.text

theorem spelledArgs_eq_map (spell : ClassName → String) (args : List TypeRef) :
    spelledArgs spell args = args.map (spelled spell) := by
  induction args with
  | nil => rfl
  | cons arg args ih => simp [spelledArgs, ih]

end TypeRef

end Companion
