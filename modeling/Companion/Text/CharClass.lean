import Companion.Text.Ranges
import Companion.Text.Alphabetic
import Companion.Text.Numeric

/-!
# Character classes — letters, digits and blanks

The three classes that names and type texts are made of. Names hold alphanumeric
characters, the underscore and the dollar sign; between the pieces of a type text any
blank may stand. What a reader relies on is that a letter is alphanumeric
(`isAlphanumeric_of_isAlphabetic`) and a blank is not (`isAlphanumeric_of_isBlank`).
-/

namespace Companion

namespace Text

/-- A letter, or a mark or symbol that counts as one. -/
def isAlphabetic (c : Char) : Bool := inRanges alphabeticRanges c.toNat

/-- A letter or a number of any script. -/
def isAlphanumeric (c : Char) : Bool := isAlphabetic c || inRanges numericRanges c.toNat

/-- The white space code points: tab to carriage return, the space, and the separators. -/
def blankRanges : List (Nat × Nat) :=
  [(0x9, 0xD), (0x20, 0x20), (0x85, 0x85), (0xA0, 0xA0), (0x1680, 0x1680), (0x2000, 0x200A),
   (0x2028, 0x2029), (0x202F, 0x202F), (0x205F, 0x205F), (0x3000, 0x3000)]

/-- White space, which separates and pads but never belongs to a name. -/
def isBlank (c : Char) : Bool := inRanges blankRanges c.toNat

/-- The text without its leading blanks. -/
def skipBlanks (cs : List Char) : List Char := cs.dropWhile isBlank

/-- The text without its blanks at either end. -/
def trim (cs : List Char) : List Char := (skipBlanks (skipBlanks cs).reverse).reverse

/-! ## The tables -/

theorem ascending_alphabeticRanges : ascendingFrom 0 alphabeticRanges = true := by decide +kernel

theorem ascending_numericRanges : ascendingFrom 0 numericRanges = true := by decide +kernel

theorem ascending_blankRanges : ascendingFrom 0 blankRanges = true := by decide +kernel

/-- The code points in a table of ranges, one by one. -/
def pointsOf (table : List (Nat × Nat)) : List Nat :=
  table.flatMap fun r => (List.range (r.2 + 1 - r.1)).map (r.1 + ·)

theorem mem_pointsOf {table : List (Nat × Nat)} {n : Nat} (h : inRanges table n = true) :
    n ∈ pointsOf table := by
  obtain ⟨r, hr, low, high⟩ := mem_of_inRanges h
  refine List.mem_flatMap.2 ⟨r, hr, List.mem_map.2 ⟨n - r.1, ?_, ?_⟩⟩
  · exact List.mem_range.2 (by omega)
  · omega

/-! ## The classes -/

/-- The letters of the basic alphabet are letters. -/
theorem isAlphabetic_of_isAlpha {c : Char} (h : c.isAlpha = true) : isAlphabetic c = true := by
  have h : (decide (c.val ≥ 'A'.val ∧ c.val ≤ 'Z'.val) || (c.val ≥ 'a'.val && c.val ≤ 'z'.val))
      = true := h
  have cases : (65 ≤ c.toNat ∧ c.toNat ≤ 90) ∨ (97 ≤ c.toNat ∧ c.toNat ≤ 122) := by
    simpa [UInt32.le_iff_toNat_le, ← Char.toNat_val] using h
  refine (inRanges_iff ascending_alphabeticRanges).2 ?_
  rcases cases with within | within
  · exact ⟨(0x41, 0x5A), by decide, within⟩
  · exact ⟨(0x61, 0x7A), by decide, within⟩

/-- A letter is alphanumeric. -/
theorem isAlphanumeric_of_isAlphabetic {c : Char} (h : isAlphabetic c = true) :
    isAlphanumeric c = true := by
  simp [isAlphanumeric, h]

/-- **No blank is alphanumeric.** -/
theorem isAlphanumeric_of_isBlank {c : Char} (h : isBlank c = true) :
    isAlphanumeric c = false := by
  have each : ∀ n ∈ pointsOf blankRanges,
      (inRanges alphabeticRanges n || inRanges numericRanges n) = false := by decide +kernel
  exact each c.toNat (mem_pointsOf h)

theorem length_skipBlanks_le (cs : List Char) : (skipBlanks cs).length ≤ cs.length :=
  (List.dropWhile_sublist isBlank).length_le

end Text

end Companion
