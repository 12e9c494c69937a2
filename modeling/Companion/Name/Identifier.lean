import Companion.Text.CharClass

/-!
# Identifiers — one segment of a name

A name is made of segments, and a segment is an identifier: a letter, underscore or
dollar sign, followed by alphanumeric characters, underscores and dollar signs. Dots and
slashes join segments, so they belong to no identifier.
-/

namespace Companion

namespace Text

/-- The characters an identifier may continue with. -/
def isNameChar (c : Char) : Bool := isAlphanumeric c || c == '_' || c == '$'

/-- The characters an identifier may start with. -/
def isNameStart (c : Char) : Bool := isAlphabetic c || c == '_' || c == '$'

/-- A segment of a name: a start character and then name characters. -/
def isIdentifier : List Char → Bool
  | [] => false
  | c :: cs => isNameStart c && cs.all isNameChar

/-- By convention a class name starts with one of the capitals `A` to `Z`, and a package
segment does not. -/
def startsUpper : List Char → Bool
  | [] => false
  | c :: _ => c.isUpper

theorem isNameChar_of_isNameStart {c : Char} (h : isNameStart c = true) :
    isNameChar c = true := by
  simp only [isNameStart, isNameChar, Bool.or_eq_true] at h ⊢
  exact h.imp_left fun h => h.imp_left isAlphanumeric_of_isAlphabetic

/-- Every character of an identifier is a name character. -/
theorem isNameChar_of_mem {cs : List Char} (h : isIdentifier cs = true) :
    ∀ c ∈ cs, isNameChar c = true := by
  cases cs with
  | nil => simp
  | cons c cs =>
    simp only [isIdentifier, Bool.and_eq_true, List.all_eq_true] at h
    intro d hd
    rcases List.mem_cons.1 hd with rfl | hd
    · exact isNameChar_of_isNameStart h.1
    · exact h.2 d hd

end Text

end Companion
