import Companion.Declaration

/-!
# Enclosing chains

The link of a nested declaration leads to the declaration around it. Following links
from a declaration either ends at one without a link or goes on for ever, because a link
leads nowhere or the links run in a circle. `Ends` says that it ends; `endsWithin` tests
it in a given number of steps, and as many steps as there are declarations decide it.
-/

namespace Companion

/-- Following the links from a declaration reaches one without a link. -/
inductive Ends (ds : List Declaration) : Nat → Prop
  /-- The declaration has no link. -/
  | outermost {i : Nat} {d : Declaration} :
      ds[i]? = some d → d.enclosing = none → Ends ds i
  /-- The declaration around it reaches one without a link. -/
  | inside {i j : Nat} {d : Declaration} :
      ds[i]? = some d → d.enclosing = some j → Ends ds j → Ends ds i

/-- Following at most `steps` declarations from the one at position `i` reaches one without a
link. -/
def endsWithin (ds : List Declaration) : Nat → Nat → Bool
  | 0, _ => false
  | steps + 1, i =>
    match ds[i]? with
    | none => false
    | some d =>
      match d.enclosing with
      | none => true
      | some j => endsWithin ds steps j

/-- The declarations met when at most `steps` are followed from the one at position `i`. -/
def climb (ds : List Declaration) : Nat → Nat → List Declaration
  | 0, _ => []
  | steps + 1, i =>
    match ds[i]? with
    | none => []
    | some d => d :: d.enclosing.elim [] (climb ds steps)

variable {ds : List Declaration} {i steps : Nat}

/-- The test only accepts what ends. -/
theorem Ends.of_endsWithin (h : endsWithin ds steps i = true) : Ends ds i := by
  induction steps generalizing i with
  | zero => cases h
  | succ steps ih =>
    rw [endsWithin] at h
    split at h
    · cases h
    · next here =>
      split at h
      · next top => exact .outermost here top
      · next link => exact .inside here link (ih h)

/-- Every chain ends when the test accepts them all. -/
theorem ends_of_all (h : (List.range ds.length).all (endsWithin ds ds.length) = true) :
    ∀ i < ds.length, Ends ds i :=
  fun i hi => .of_endsWithin (List.all_eq_true.1 h i (List.mem_range.2 hi))

/-- A chain that ends starts at a declaration. -/
theorem Ends.lt_length (h : Ends ds i) : i < ds.length := by
  cases h with
  | outermost here => exact (List.getElem?_eq_some_iff.1 here).1
  | inside here => exact (List.getElem?_eq_some_iff.1 here).1

/-- Further declarations behind the list do not disturb a chain. -/
theorem Ends.append (h : Ends ds i) (es : List Declaration) : Ends (ds ++ es) i := by
  have kept {k : Nat} {d : Declaration} (here : ds[k]? = some d) : (ds ++ es)[k]? = some d := by
    rw [List.getElem?_append_left (List.getElem?_eq_some_iff.1 here).1, here]
  induction h with
  | outermost here top => exact .outermost (kept here) top
  | inside here link _ ih => exact .inside (kept here) link ih

end Companion
