/-!
# Sorted texts — a set of texts in increasing order

A set of texts is kept as an increasing list without repetitions. Texts are compared
character by character, which is also the order of their bytes.
-/

namespace Companion

namespace Text

/-- Put a text into an increasing list, unless the list holds it already. -/
def insertSorted (x : String) : List String → List String
  | [] => [x]
  | y :: ys => if x = y then y :: ys else if x < y then x :: y :: ys else y :: insertSorted x ys

/-- The given texts in increasing order, each once. -/
def sorted (xs : List String) : List String := xs.foldr insertSorted []

variable {x z : String} {xs : List String}

theorem mem_insertSorted : z ∈ insertSorted x xs ↔ z = x ∨ z ∈ xs := by
  induction xs with
  | nil => simp [insertSorted]
  | cons y ys ih =>
    rw [insertSorted]
    split
    · next h => simp [h]
    · split
      · simp
      · simp only [List.mem_cons, ih]
        exact or_left_comm

/-- Sorting keeps exactly the texts that were given. -/
theorem mem_sorted : z ∈ sorted xs ↔ z ∈ xs := by
  induction xs with
  | nil => simp [sorted]
  | cons x xs ih =>
    rw [sorted, List.foldr_cons, mem_insertSorted, List.mem_cons]
    exact or_congr_right ih

theorem pairwise_insertSorted (h : xs.Pairwise (· < ·)) :
    (insertSorted x xs).Pairwise (· < ·) := by
  induction xs with
  | nil => simp [insertSorted]
  | cons y ys ih =>
    obtain ⟨above, rest⟩ := List.pairwise_cons.1 h
    rw [insertSorted]
    split
    · exact h
    · next ne =>
      split
      · next lt =>
        refine List.pairwise_cons.2 ⟨fun z hz => ?_, h⟩
        rcases List.mem_cons.1 hz with rfl | hz
        · exact lt
        · exact String.lt_trans lt (above z hz)
      · next ge =>
        refine List.pairwise_cons.2 ⟨fun z hz => ?_, ih rest⟩
        rcases mem_insertSorted.1 hz with rfl | hz
        · exact Decidable.byContradiction fun lt =>
            ne (String.le_antisymm (String.not_lt.1 lt) (String.not_lt.1 ge))
        · exact above z hz

/-- **A sorted list is strictly increasing.** -/
theorem pairwise_sorted : (sorted xs).Pairwise (· < ·) := by
  induction xs with
  | nil => exact List.Pairwise.nil
  | cons x xs ih => exact pairwise_insertSorted ih

end Text

end Companion
