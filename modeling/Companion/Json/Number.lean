import Companion.Json.Value

/-!
# Reading a JSON number

A number has an integer part without needless zeros, and may have a fraction and an
exponent. Its digits are gathered in a significand of 64 bits: digits of the integer
part that no longer fit only count as powers of ten, and those of the fraction are
dropped. A whole number that fits is kept exactly; any other is the nearest double.
-/

namespace Companion

namespace Json

/-- What was read from the front of a text: a value, nothing usable, or a defect that ends the
reading. -/
inductive Lexeme (α : Type) where
  /-- A value and the rest of the text. -/
  | read (value : α) (rest : List Char)
  /-- Something that may be passed over but not used, and the rest of the text. -/
  | unusable (rest : List Char)
  /-- A defect, as it is to a decoder that uses the value and to one that passes over it. -/
  | broken (used passed : Defect)

/-- The rest of the text, unless a defect ended the reading. -/
def Lexeme.rest? {α : Type} : Lexeme α → Option (List Char)
  | .read _ rest => some rest
  | .unusable rest => some rest
  | .broken _ _ => none

/-- The value of a decimal digit. -/
def digitValue (c : Char) : Nat := c.toNat - '0'.toNat

/-- The greatest significand. -/
def significandLimit : Nat := Nat.pow 2 64 - 1

/-- A significand and a power of ten. -/
structure Gathered where
  /-- The digits that fit. -/
  significand : Nat := 0
  /-- The power of ten that stands for the others, and for those behind the point. -/
  power : Int := 0
  deriving DecidableEq, Repr

namespace Gathered

/-- Add the digits of the integer part. Once a digit does not fit, it and all further ones count as
powers of ten. -/
def whole (g : Gathered) : List Char → Gathered
  | [] => g
  | d :: ds =>
    let next := g.significand * 10 + digitValue d
    if next ≤ significandLimit then { g with significand := next }.whole ds
    else { g with power := g.power + ((d :: ds).length : Nat) }

/-- Add the digits of the fraction. Once a digit does not fit, it and all further ones are dropped. -/
def fraction (g : Gathered) : List Char → Gathered
  | [] => g
  | d :: ds =>
    let next := g.significand * 10 + digitValue d
    if next ≤ significandLimit then ({ significand := next, power := g.power - 1 } : Gathered).fraction ds
    else g

/-- The number as the nearest double, unless it is too large. -/
def toReal? (g : Gathered) (negative : Bool) : Option Number :=
  (Binary64.ofDecimal? g.significand g.power).map (.real negative)

/-- The number as a whole number if it is one and fits, and otherwise as the nearest double. -/
def toNumber? (g : Gathered) (negative : Bool) : Option Number :=
  if g.power ≠ 0 then g.toReal? negative
  else if !negative then some (.natural g.significand)
  else if 0 < g.significand ∧ g.significand ≤ Nat.pow 2 63 then some (.negative g.significand)
  else g.toReal? negative

end Gathered

/-- The defect of a number that lacks a digit before `rest`. To a decoder that passes over the
number, the end of the text is as good as any other wrong character. -/
def missingDigit {α : Type} (rest : List Char) : Lexeme α :=
  if rest.isEmpty then .broken .truncated .malformed else .broken .malformed .malformed

/-- A number, if it is not too large. -/
def finish (n : Option Number) (rest : List Char) : Lexeme Number :=
  match n with
  | none => .unusable rest
  | some n => .read n rest

/-- The digits at the front of a text. -/
def digits (cs : List Char) : List Char := cs.takeWhile Char.isDigit

/-- What follows the digits at the front of a text. -/
def behindDigits (cs : List Char) : List Char := cs.dropWhile Char.isDigit

/-- The number that the digits write. -/
def natural (ds : List Char) : Nat := ds.foldl (fun n d => n * 10 + digitValue d) 0

/-- The digits of an exponent, which is below zero if `down` holds. -/
def readPower (negative : Bool) (g : Gathered) (down : Bool) (cs : List Char) : Lexeme Number :=
  if (digits cs).isEmpty then missingDigit cs
  else
    let n : Int := natural (digits cs)
    let g := { g with power := if down then g.power - n else g.power + n }
    finish (g.toReal? negative) (behindDigits cs)

/-- The exponent of a number, behind the letter that introduces it. -/
def readExponent (negative : Bool) (g : Gathered) (cs : List Char) : Lexeme Number :=
  match cs with
  | '-' :: rest => readPower negative g true rest
  | '+' :: rest => readPower negative g false rest
  | _ => readPower negative g false cs

/-- The fraction and exponent of a number. -/
def readFraction (negative : Bool) (g : Gathered) (cs : List Char) : Lexeme Number :=
  match cs with
  | '.' :: rest =>
    if (digits rest).isEmpty then missingDigit rest
    else
      let g := g.fraction (digits rest)
      match behindDigits rest with
      | 'e' :: rest => readExponent negative g rest
      | 'E' :: rest => readExponent negative g rest
      | rest => finish (g.toReal? negative) rest
  | 'e' :: rest => readExponent negative g rest
  | 'E' :: rest => readExponent negative g rest
  | rest => finish (g.toNumber? negative) rest

/-- A number behind its sign. -/
def readUnsigned (negative : Bool) (cs : List Char) : Lexeme Number :=
  match digits cs with
  | [] => missingDigit cs
  | '0' :: _ :: _ => .broken .malformed .malformed
  | ds => readFraction negative (({} : Gathered).whole ds) (behindDigits cs)

/-- A number at the front of a text. -/
def readNumber (cs : List Char) : Lexeme Number :=
  match cs with
  | '-' :: rest => readUnsigned true rest
  | _ => readUnsigned false cs

/-! ## Reading a number uses up part of the text -/

variable {negative : Bool} {g : Gathered} {cs after : List Char}

theorem length_behindDigits_le (cs : List Char) : (behindDigits cs).length ≤ cs.length :=
  (List.dropWhile_sublist Char.isDigit).length_le

theorem rest?_missingDigit : (missingDigit cs : Lexeme Number).rest? = none := by
  unfold missingDigit; split <;> rfl

theorem rest?_finish {n : Option Number} : (finish n cs).rest? = some cs := by
  cases n <;> rfl

theorem length_readPower_le {down : Bool} (h : (readPower negative g down cs).rest? = some after) :
    after.length ≤ cs.length := by
  unfold readPower at h
  split at h
  · simp [rest?_missingDigit] at h
  · rw [rest?_finish] at h
    cases h
    exact length_behindDigits_le cs

theorem length_readExponent_le (h : (readExponent negative g cs).rest? = some after) :
    after.length ≤ cs.length := by
  unfold readExponent at h
  split at h
  · exact Nat.le_succ_of_le (length_readPower_le h)
  · exact Nat.le_succ_of_le (length_readPower_le h)
  · exact length_readPower_le h

theorem length_readFraction_le (h : (readFraction negative g cs).rest? = some after) :
    after.length ≤ cs.length := by
  unfold readFraction at h
  split at h
  · next rest =>
    split at h
    · simp [rest?_missingDigit] at h
    · have behind := length_behindDigits_le rest
      dsimp only at h
      split at h
      · next e =>
        have := length_readExponent_le h
        simp only [e, List.length_cons] at behind ⊢
        omega
      · next e =>
        have := length_readExponent_le h
        simp only [e, List.length_cons] at behind ⊢
        omega
      · rw [rest?_finish] at h
        cases h
        exact Nat.le_succ_of_le behind
  · exact Nat.le_succ_of_le (length_readExponent_le h)
  · exact Nat.le_succ_of_le (length_readExponent_le h)
  · rw [rest?_finish] at h
    cases h
    exact Nat.le_refl _

theorem length_readUnsigned_lt (h : (readUnsigned negative cs).rest? = some after) :
    after.length < cs.length := by
  unfold readUnsigned at h
  split at h
  · simp [rest?_missingDigit] at h
  · cases h
  · next some _ =>
    have behind := length_readFraction_le h
    have whole := congrArg List.length
      (List.takeWhile_append_dropWhile (p := Char.isDigit) (l := cs))
    have some := List.length_pos_iff.2 some
    simp only [List.length_append] at whole
    simp only [digits, behindDigits] at some behind
    omega

/-- Reading a number leaves a shorter text. -/
theorem length_readNumber_lt (h : (readNumber cs).rest? = some after) :
    after.length < cs.length := by
  unfold readNumber at h
  split at h
  · exact Nat.lt_succ_of_lt (length_readUnsigned_lt h)
  · exact length_readUnsigned_lt h

end Json

end Companion
