import Companion.Type.Basic
import Companion.Name.ClassText

/-!
# Reading a type reference

A type is a name, then type arguments in angle brackets if it is a class, then one pair
of square brackets for each array:

    type := name ('<' arg (',' arg)* '>')? ('[' ']')*
    arg  := type | '?' (('extends' | 'super') type)?

Blanks may stand before each piece. A name is a maximal run of name characters, dots and
slashes; it is a primitive keyword or the text of a class. Every reader takes a piece
from the front of a text and returns what is left, which is shorter: this is what makes
the readers end.
-/

namespace Companion

namespace TypeRef

open Text

/-! ## Pieces -/

/-- The rest of a text behind the given character, which may have blanks before it. -/
def eat? (c : Char) (cs : List Char) : Option (List Char) :=
  match skipBlanks cs with
  | [] => none
  | d :: rest => if d = c then some rest else none

/-- The rest of a text behind the given word, which may have blanks before it and must
not be the beginning of a longer name. -/
def eatWord? (word cs : List Char) : Option (List Char) :=
  match word.isPrefixOf? (skipBlanks cs) with
  | none => none
  | some rest => if rest.head?.any isNameChar then none else some rest

/-- The characters of a possibly dotted and packaged name. -/
def isTypeNameChar (c : Char) : Bool := isNameChar c || c == '.' || c == '/'

/-- The name a text starts with, after blanks. -/
def nameOf (cs : List Char) : List Char := (skipBlanks cs).takeWhile isTypeNameChar

/-- What follows the name a text starts with. -/
def behindName (cs : List Char) : List Char := (skipBlanks cs).dropWhile isTypeNameChar

theorem length_eat?_lt {c : Char} {cs rest : List Char} (h : eat? c cs = some rest) :
    rest.length < cs.length := by
  have short := length_skipBlanks_le cs
  unfold eat? at h
  split at h
  · cases h
  · next heq =>
    split at h
    · cases h
      rw [heq, List.length_cons] at short
      omega
    · cases h

/-- Taking a word off the front of a text leaves what is written behind it. -/
theorem append_of_isPrefixOf? {word cs rest : List Char} (h : word.isPrefixOf? cs = some rest) :
    word ++ rest = cs := by
  induction word generalizing cs with
  | nil =>
    cases h
    rfl
  | cons c word ih =>
    cases cs with
    | nil => cases h
    | cons d cs =>
      have h : (if c == d then word.isPrefixOf? cs else none) = some rest := h
      split at h
      · next same => rw [List.cons_append, ih h, beq_iff_eq.1 same]
      · cases h

theorem length_eatWord?_le {word cs rest : List Char} (h : eatWord? word cs = some rest) :
    rest.length ≤ cs.length := by
  have short := length_skipBlanks_le cs
  unfold eatWord? at h
  split at h
  · cases h
  · next taken =>
    split at h
    · cases h
    · cases h
      have := congrArg List.length (append_of_isPrefixOf? taken)
      simp only [List.length_append] at this
      omega

theorem length_behindName_lt {cs : List Char} (h : nameOf cs ≠ []) :
    (behindName cs).length < cs.length := by
  have short := length_skipBlanks_le cs
  have whole := congrArg List.length
    (List.takeWhile_append_dropWhile (p := isTypeNameChar) (l := skipBlanks cs))
  have some := List.length_pos_iff.2 h
  simp only [List.length_append] at whole
  simp only [nameOf, behindName] at some ⊢
  omega

/-! ## Types -/

/-- A value read from the front of a text of at most `size` characters, and the rest. -/
structure Taken (α : Type) (size : Nat) where
  /-- What was read. -/
  value : α
  /-- What is left of the text. -/
  rest : List Char
  /-- Reading used up at least one character. -/
  shorter : rest.length < size

namespace Taken

/-- What was taken from a text was also taken from any longer text that ends in it. -/
def widen {α : Type} {size larger : Nat} (r : Taken α size) (h : size ≤ larger) :
    Taken α larger :=
  ⟨r.value, r.rest, Nat.lt_of_lt_of_le r.shorter h⟩

end Taken

/-- The array brackets behind a type: each pair makes an array of what stands before it. -/
def readBrackets (t : TypeRef) (cs : List Char) {size : Nat} (h : cs.length < size) :
    Except Refusal (Taken TypeRef size) :=
  match opened : eat? '[' cs with
  | none => .ok ⟨t, cs, h⟩
  | some inner =>
    match closed : eat? ']' inner with
    | none => .error .openBracket
    | some rest =>
      have := length_eat?_lt opened
      have := length_eat?_lt closed
      readBrackets (array t) rest (by omega)
termination_by cs.length

mutual

/-- A type at the front of a text. -/
def readType (cs : List Char) : Except Refusal (Taken TypeRef cs.length) :=
  if h : nameOf cs = [] then .error .noTypeName
  else
    have behind := length_behindName_lt h
    match Primitive.ofKeyword? (nameOf cs) with
    | some p => readBrackets (primitive p) (behindName cs) behind
    | none => do
      let raw ← ClassName.read (nameOf cs)
      match opened : eat? '<' (behindName cs) with
      | none => readBrackets (named raw) (behindName cs) behind
      | some inner =>
        have := length_eat?_lt opened
        let ⟨args, after, _⟩ ← readArgs inner
        match closed : eat? '>' after with
        | none => .error .openArguments
        | some rest =>
          have := length_eat?_lt closed
          readBrackets (parameterized raw args) rest (by omega)
termination_by 3 * cs.length

/-- One or more type arguments, with commas between them. -/
def readArgs (cs : List Char) : Except Refusal (Taken (List TypeRef) cs.length) := do
  let ⟨arg, after, short⟩ ← readArg cs
  match comma : eat? ',' after with
  | none => .ok ⟨[arg], after, short⟩
  | some more =>
    have := length_eat?_lt comma
    let ⟨args, rest, _⟩ ← readArgs more
    .ok ⟨arg :: args, rest, by omega⟩
termination_by 3 * cs.length + 2

/-- A type argument: a type, or a wildcard with or without a bound. -/
def readArg (cs : List Char) : Except Refusal (Taken TypeRef cs.length) :=
  match mark : eat? '?' cs with
  | none => readType cs
  | some after =>
    have short := length_eat?_lt mark
    match upper : eatWord? Bound.upper.keyword.toList after with
    | some rest =>
      have := length_eatWord?_le upper
      (readBound .upper rest).map (·.widen (by omega))
    | none =>
      match lower : eatWord? Bound.lower.keyword.toList after with
      | some rest =>
        have := length_eatWord?_le lower
        (readBound .lower rest).map (·.widen (by omega))
      | none => .ok ⟨wildcard, after, short⟩
termination_by 3 * cs.length + 1

/-- The bound of a wildcard: any type but a bare primitive. -/
def readBound (side : Bound) (cs : List Char) : Except Refusal (Taken TypeRef cs.length) := do
  let ⟨type, rest, short⟩ ← readType cs
  if type.isPrimitive then .error .primitiveBound
  else .ok ⟨bounded side type, rest, short⟩
termination_by 3 * cs.length + 1

end

/-- The type a whole text is the text of. -/
def read (cs : List Char) : Except Refusal TypeRef := do
  let ⟨type, rest, _⟩ ← readType cs
  match skipBlanks rest with
  | [] => .ok type
  | c :: cs => .error (.trailing (String.ofList (c :: cs)))

/-- The type a text is the text of; blanks around it are allowed. -/
def ofText (input : String) : Except TypeError TypeRef :=
  (read input.toList).mapError (⟨input, ·⟩)

end TypeRef

end Companion
