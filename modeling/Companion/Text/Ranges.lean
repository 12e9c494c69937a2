/-!
# Ranges — a set of code points as a sorted table

A character class is a table of closed ranges of code points. The table is sorted, so
the search for a code point stops at the first range that begins above it. The main
fact, `inRanges_iff`, says that in a sorted table the search finds exactly the code
points of the ranges.
-/

namespace Companion

namespace Text

/-- Search a sorted table of closed ranges for a code point. -/
def inRanges : List (Nat × Nat) → Nat → Bool
  | [], _ => false
  | (low, high) :: rest, n => if n < low then false else if n ≤ high then true else inRanges rest n

/-- No range of the table is empty, and each begins above the one before it, of which the last code
point is given. -/
def ascendingFrom : Nat → List (Nat × Nat) → Bool
  | _, [] => true
  | last, (low, high) :: rest => last < low && low ≤ high && ascendingFrom high rest

variable {table : List (Nat × Nat)} {last n : Nat}

/-- What the search finds lies in one of the ranges. -/
theorem mem_of_inRanges (h : inRanges table n = true) : ∃ r ∈ table, r.1 ≤ n ∧ n ≤ r.2 := by
  induction table with
  | nil => simp [inRanges] at h
  | cons r rest ih =>
    obtain ⟨low, high⟩ := r
    rw [inRanges] at h
    split at h
    · cases h
    · split at h
      · exact ⟨(low, high), by simp, by omega, by omega⟩
      · obtain ⟨s, hs, hn⟩ := ih h
        exact ⟨s, by simp [hs], hn⟩

/-- Every range of a sorted table begins above what comes before it. -/
theorem lt_of_mem_ascending (asc : ascendingFrom last table = true) {r : Nat × Nat}
    (hr : r ∈ table) : last < r.1 := by
  induction table generalizing last with
  | nil => cases hr
  | cons s rest ih =>
    obtain ⟨low, high⟩ := s
    simp only [ascendingFrom, Bool.and_eq_true, decide_eq_true_eq] at asc
    obtain ⟨⟨below, proper⟩, order⟩ := asc
    rcases List.mem_cons.1 hr with rfl | hr
    · exact below
    · have := ih order hr
      omega

/-- **In a sorted table the search finds exactly the code points of the ranges.** -/
theorem inRanges_iff (asc : ascendingFrom last table = true) :
    inRanges table n = true ↔ ∃ r ∈ table, r.1 ≤ n ∧ n ≤ r.2 := by
  refine ⟨mem_of_inRanges, ?_⟩
  rintro ⟨r, hr, within⟩
  induction table generalizing last with
  | nil => cases hr
  | cons s rest ih =>
    obtain ⟨low, high⟩ := s
    simp only [ascendingFrom, Bool.and_eq_true, decide_eq_true_eq] at asc
    obtain ⟨⟨_, proper⟩, order⟩ := asc
    rw [inRanges]
    rcases List.mem_cons.1 hr with rfl | hr
    · rw [if_neg (Nat.not_lt.2 within.1), if_pos within.2]
    · have := lt_of_mem_ascending order hr
      rw [if_neg (by omega), if_neg (by omega)]
      exact ih order hr

end Text

end Companion
