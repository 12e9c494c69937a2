import Companion.Json.Number

/-!
# Reading a JSON string

Between its quotes a string holds characters and escapes. A character beyond U+FFFF can
be escaped as a surrogate pair, two code units one after the other. Half of a pair is
not a character: such a string may be passed over but not used.
-/

namespace Companion

namespace Json

/-- The value of a hexadecimal digit. -/
def hexValue? (c : Char) : Option Nat :=
  if c.isDigit then some (c.toNat - '0'.toNat)
  else if 'a' ≤ c ∧ c ≤ 'f' then some (c.toNat - 'a'.toNat + 10)
  else if 'A' ≤ c ∧ c ≤ 'F' then some (c.toNat - 'A'.toNat + 10)
  else none

/-- The code unit of four hexadecimal digits. -/
def codeUnit? (a b c d : Char) : Option Nat := do
  let a ← hexValue? a
  let b ← hexValue? b
  let c ← hexValue? c
  let d ← hexValue? d
  some (((a * 16 + b) * 16 + c) * 16 + d)

/-- The first half of a surrogate pair. -/
def isHighSurrogate (n : Nat) : Bool := 0xD800 ≤ n && n ≤ 0xDBFF

/-- The second half of a surrogate pair. -/
def isLowSurrogate (n : Nat) : Bool := 0xDC00 ≤ n && n ≤ 0xDFFF

/-- The character of a surrogate pair. -/
def pairChar (high low : Nat) : Char :=
  Char.ofNat (0x10000 + (high - 0xD800) * 0x400 + (low - 0xDC00))

/-- What a backslash and the given character stand for. -/
def escapedChar? : Char → Option Char
  | '"' => some '"'
  | '\\' => some '\\'
  | '/' => some '/'
  | 'b' => some '\x08'
  | 'f' => some '\x0c'
  | 'n' => some '\n'
  | 'r' => some '\r'
  | 't' => some '\t'
  | _ => none

/-- A string while it is being read. -/
structure Spelled where
  /-- The characters, the last one first. -/
  chars : List Char := []
  /-- The first half of a surrogate pair whose second half has to follow. -/
  high : Option Nat := none
  /-- Half of a surrogate pair stood alone. -/
  unpaired : Bool := false

namespace Spelled

/-- The string with one more character. -/
def push (s : Spelled) (c : Char) : Spelled :=
  ⟨c :: s.chars, none, s.unpaired || s.high.isSome⟩

/-- The string with one more code unit. -/
def pushUnit (s : Spelled) (n : Nat) : Spelled :=
  match s.high with
  | some high =>
    if isLowSurrogate n then { s with chars := pairChar high n :: s.chars, high := none }
    else { s with high := none, unpaired := true }
  | none =>
    if isHighSurrogate n then { s with high := some n }
    else if isLowSurrogate n then { s with unpaired := true }
    else s.push (Char.ofNat n)

/-- The whole string in front of the given rest. -/
def close (s : Spelled) (rest : List Char) : Lexeme String :=
  if s.unpaired || s.high.isSome then .unusable rest
  else .read (String.ofList s.chars.reverse) rest

/-- A defect met behind the given part of a string. A half pair before it is worse to a decoder that
uses the string. -/
def fail (s : Spelled) (d : Defect) : Lexeme String :=
  .broken (if s.unpaired then .malformed else d) d

end Spelled

/-- The defect of an escape whose four hexadecimal digits are not in front of the text: there are not
even four bytes left, or they are wrong. -/
def badUnit (cs : List Char) : Defect :=
  if (String.ofList (cs.take 4)).utf8ByteSize < 4 then .truncated else .malformed

/-- The rest of a string of which a part has been read, up to its closing quote. -/
def readString (s : Spelled) : List Char → Lexeme String
  | [] => s.fail .truncated
  | '"' :: rest => s.close rest
  | '\\' :: 'u' :: a :: b :: c :: d :: rest =>
    match codeUnit? a b c d with
    | some n => readString (s.pushUnit n) rest
    | none => s.fail (badUnit (a :: b :: c :: d :: rest))
  | '\\' :: 'u' :: rest => s.fail (badUnit rest)
  | '\\' :: e :: rest =>
    match escapedChar? e with
    | some c => readString (s.push c) rest
    | none => s.fail .malformed
  | ['\\'] => s.fail .truncated
  | c :: rest => if c.toNat < 0x20 then s.fail .malformed else readString (s.push c) rest

/-- Reading a string leaves a shorter text. -/
theorem length_readString_lt {s : Spelled} {cs after : List Char}
    (h : (readString s cs).rest? = some after) : after.length < cs.length := by
  fun_induction readString s cs with
  | case1 | case4 | case5 | case7 | case8 | case9 => cases h
  | case2 s rest =>
    unfold Spelled.close at h
    split at h <;> cases h <;> exact Nat.lt_succ_self _
  | case3 | case6 | case10 =>
    rename_i ih
    have := ih h
    simp only [List.length_cons]
    omega

end Json

end Companion
