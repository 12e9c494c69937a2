import Companion.Proofs.Round.Accepted
import Mathlib.Order.Bounds.Basic

/-!
# Forests — which declarations make a round

Links make a forest when none of them leads nowhere and no chain goes on
for ever. A chain goes on for ever when its links can be followed any
number of times (`Endless`); among links that all lead somewhere, that is
a chain which does not end (`endless_iff`). `Tests` is a loop that tells
such a chain by counting its links: more links than declarations, or one
that leads back to the start, and it gives up. It gives up on endless
chains only and on all of them, also on those that lead into a circle
without being on it, and it comes to a verdict on every chain
(`tests_iff`).

Lists that are no forest are refused for their first declaration at fault
(`ofDeclarations_accepts_forests`).
-/

namespace Companion

variable {ds : List Declaration} {i j m n start count : Nat} {path : List Nat}
variable {d : Declaration} {cursor : Option Nat} {verdict verdict' : Bool}

/-! ## Following links -/

/-- The position that the link of a declaration leads to. -/
def linkOf (ds : List Declaration) (i : Nat) : Option Nat := ds[i]?.bind (·.enclosing)

/-- The position that so many links lead to. -/
def follow (ds : List Declaration) : Nat → Nat → Option Nat
  | 0, i => some i
  | n + 1, i => (linkOf ds i).bind (follow ds n)

/-- The link of the declaration leads to none of the declarations. -/
def Strays (ds : List Declaration) (i : Nat) : Prop := ∃ j, linkOf ds i = some j ∧ ds.length ≤ j

/-- However many links have been followed, there was one to follow. -/
def Endless (ds : List Declaration) (i : Nat) : Prop := ∀ n, follow ds n i ≠ none

/-- A link is that of a declaration. -/
theorem linkOf_eq_some_iff :
    linkOf ds i = some j ↔ ∃ d, ds[i]? = some d ∧ d.enclosing = some j :=
  Option.bind_eq_some_iff

/-- The first of several links is that of the declaration. -/
theorem follow_link (n i : Nat) : follow ds (n + 1) i = (linkOf ds i).bind (follow ds n) := rfl

/-- Links are followed one part of the way after the other. -/
theorem follow_add (m n i : Nat) : follow ds (m + n) i = (follow ds m i).bind (follow ds n) := by
  induction m generalizing i with
  | zero => rw [Nat.zero_add]; rfl
  | succ m ih =>
    rw [Nat.succ_add, follow_link, follow_link, Option.bind_assoc]
    exact congrArg _ (funext ih)

/-- One link leads where the link of the declaration does. -/
theorem follow_one (i : Nat) : follow ds 1 i = linkOf ds i := Option.bind_fun_some (linkOf ds i)

/-- The last of them is that of the position before. -/
theorem follow_succ (n i : Nat) : follow ds (n + 1) i = (follow ds n i).bind (linkOf ds) := by
  rw [follow_add, funext follow_one]

/-- Where the links have ended there are no more. -/
theorem follow_eq_none_of_le (h : follow ds m i = none) (hle : m ≤ n) : follow ds n i = none := by
  obtain ⟨k, rfl⟩ := Nat.exists_eq_add_of_le hle
  rw [follow_add, h]
  rfl

/-- A walk that ends has fewer links than positions. -/
theorem Walk.follow_eq_none (h : Walk ds i path) : follow ds path.length i = none := by
  induction h with
  | outermost here top =>
    rw [List.length_cons, follow_link, linkOf, here, Option.bind_some, top, Option.bind_none]
  | inside here link _ ih =>
    rw [List.length_cons, follow_link, linkOf, here, Option.bind_some, link, Option.bind_some]
    exact ih

/-! ## Chains that never end -/

/-- A chain that can be followed once has a declaration to start from. -/
theorem Endless.lt_length (h : Endless ds i) : i < ds.length := by
  by_contra hge
  have hnone : ds[i]? = none := List.getElem?_eq_none (Nat.not_lt.1 hge)
  apply h 1
  rw [follow_one, linkOf, hnone, Option.bind_none]

/-- A chain that ends is not endless. -/
theorem Ends.not_endless (h : Ends ds i) : ¬ Endless ds i := by
  obtain ⟨path, hpath⟩ := h.exists_walk
  exact fun hendless => hendless path.length hpath.follow_eq_none

/-- **Links that lead back to where they started can be followed for
ever.** -/
theorem endless_of_follow (h : follow ds (n + 1) i = some i) : Endless ds i := by
  intro m
  induction m using Nat.strong_induction_on with
  | _ m ih =>
    intro hnone
    rcases Nat.lt_or_ge n m with hlt | hge
    · -- one time around leaves the same way to go, with fewer links
      obtain ⟨k, rfl⟩ := Nat.exists_eq_add_of_le (Nat.succ_le_of_lt hlt)
      rw [follow_add, h] at hnone
      exact ih k (by omega) hnone
    · have hround := follow_eq_none_of_le hnone (Nat.le_succ_of_le hge)
      rw [h] at hround
      cases hround

/-- So a chain that leads into an endless one is endless. -/
theorem Endless.of_linkOf (h : Endless ds j) (hlink : linkOf ds i = some j) : Endless ds i := by
  intro n
  cases n with
  | zero => exact Option.some_ne_none i
  | succ n =>
    rw [follow_link, hlink]
    exact h n

section Links

variable (hlinks : ∀ i, ¬ Strays ds i)
include hlinks

/-- Links that lead somewhere lead to declarations. -/
theorem linkOf_lt_length (hlink : linkOf ds i = some j) : j < ds.length :=
  Nat.lt_of_not_ge fun hge => hlinks i ⟨j, hlink, hge⟩

/-- A chain that has been followed to an end has one. -/
theorem ends_of_follow_eq_none (hi : i < ds.length) (hnone : follow ds n i = none) : Ends ds i := by
  induction n generalizing i with
  | zero => cases hnone
  | succ n ih =>
    have here : ds[i]? = some ds[i] := List.getElem?_eq_getElem hi
    cases hlink : ds[i].enclosing with
    | none => exact .outermost here hlink
    | some j =>
      have hstep : linkOf ds i = some j := linkOf_eq_some_iff.2 ⟨ds[i], here, hlink⟩
      rw [follow_link, hstep, Option.bind_some] at hnone
      exact .inside here hlink (ih (linkOf_lt_length hlinks hstep) hnone)

/-- **A chain never ends when it does not end**, so long as all links lead
somewhere. -/
theorem endless_iff (hi : i < ds.length) : Endless ds i ↔ ¬ Ends ds i :=
  ⟨fun h hends => hends.not_endless h,
    fun h _ hnone => h (ends_of_follow_eq_none hlinks hi hnone)⟩

end Links

/-! ## The loop that counts -/

/-- The loop that tests a chain. It counts the links it meets and gives up
when one leads back to the start, or when there have been more of them
than there are declarations. It has no rule for a link that leads
nowhere. -/
inductive Tests (ds : List Declaration) (start : Nat) : Option Nat → Nat → Bool → Prop
  /-- There is no further link. -/
  | pass {count : Nat} : Tests ds start none count true
  /-- The link leads back to the start, or is one too many. -/
  | giveUp {j count : Nat} :
      j = start ∨ ds.length < count + 1 → Tests ds start (some j) count false
  /-- The loop goes on from the declaration that the link leads to. -/
  | goOn {j count : Nat} {d : Declaration} {verdict : Bool} :
      ¬ (j = start ∨ ds.length < count + 1) → ds[j]? = some d →
      Tests ds start d.enclosing (count + 1) verdict → Tests ds start (some j) count verdict

namespace Tests

/-- It has one verdict. -/
theorem unique (h : Tests ds start cursor count verdict)
    (h' : Tests ds start cursor count verdict') : verdict = verdict' := by
  induction h with
  | pass => cases h'; rfl
  | giveUp hback =>
    cases h' with
    | giveUp => rfl
    | goOn hnot => exact absurd hback hnot
  | goOn hnot here _ ih =>
    cases h' with
    | giveUp hback => exact absurd hback hnot
    | goOn _ here' h' =>
      rw [here] at here'
      cases here'
      exact ih h'

/-- **The counter bounds the loop**: from any link that leads to a
declaration it comes to a verdict. -/
theorem exists_verdict (hlinks : ∀ i, ¬ Strays ds i) (hcursor : ∀ j ∈ cursor, j < ds.length) :
    ∃ verdict, Tests ds start cursor count verdict := by
  obtain ⟨left, hleft⟩ : ∃ left, ds.length < count + left := ⟨ds.length + 1, by omega⟩
  induction left generalizing cursor count with
  | zero =>
    cases cursor with
    | none => exact ⟨true, .pass⟩
    | some j => exact ⟨false, .giveUp (Or.inr (by omega))⟩
  | succ left ih =>
    cases cursor with
    | none => exact ⟨true, .pass⟩
    | some j =>
      by_cases hback : j = start ∨ ds.length < count + 1
      · exact ⟨false, .giveUp hback⟩
      · have hj : j < ds.length := hcursor j rfl
        have here : ds[j]? = some ds[j] := List.getElem?_eq_getElem hj
        have hnext : ∀ k ∈ ds[j].enclosing, k < ds.length := fun k hk =>
          linkOf_lt_length hlinks (linkOf_eq_some_iff.2 ⟨ds[j], here, hk⟩)
        obtain ⟨verdict, hverdict⟩ : ∃ verdict, Tests ds start ds[j].enclosing (count + 1) verdict :=
          ih hnext (by omega)
        exact ⟨verdict, .goOn hback here hverdict⟩

/-- **The verdict is right.** The link at hand is the last of those counted
and one more: if there is none the chain has an end, and if it is the
start again, or has more links before it than declarations, there is no
end. -/
theorem endless_iff_of_follow (h : Tests ds start cursor count verdict)
    (hlinks : ∀ i, ¬ Strays ds i) (hstart : start < ds.length)
    (hcursor : follow ds (count + 1) start = cursor) : verdict = false ↔ Endless ds start := by
  induction h with
  | pass => exact ⟨fun h => (nomatch h), fun h => absurd hcursor (h _)⟩
  | @giveUp j count hback =>
    refine ⟨fun _ => ?_, fun _ => rfl⟩
    rcases hback with rfl | hmany
    · exact endless_of_follow hcursor
    · rw [endless_iff hlinks hstart]
      intro hends
      obtain ⟨path, hpath⟩ := hends.exists_walk
      -- a walk has no room for that many links
      have hroom : path.length ≤ count + 1 := by
        have := hpath.length_le
        omega
      rw [follow_eq_none_of_le hpath.follow_eq_none hroom] at hcursor
      cases hcursor
  | @goOn j count d verdict hnot here _ ih =>
    refine ih ?_
    rw [follow_succ, hcursor, Option.bind_some, linkOf, here, Option.bind_some]

end Tests

/-- As many steps as there are declarations fall short of the end of a
chain only when there is none. -/
theorem endsWithin_eq_false_iff (hlinks : ∀ i, ¬ Strays ds i) (hi : i < ds.length) :
    endsWithin ds ds.length i = false ↔ Endless ds i := by
  rw [endless_iff hlinks hi, ← Bool.not_eq_true, not_iff_not]
  refine ⟨Ends.of_endsWithin, fun h => ?_⟩
  obtain ⟨path, hpath⟩ := h.exists_walk
  exact endsWithin_of_walk hpath hpath.length_le

/-- **The loop tells which chains end.** From every declaration it comes to
one verdict, which is that of the test with a bound on its steps. -/
theorem tests_iff (hlinks : ∀ i, ¬ Strays ds i) (hi : i < ds.length) :
    Tests ds i (linkOf ds i) 0 verdict ↔ verdict = endsWithin ds ds.length i := by
  obtain ⟨found, hfound⟩ : ∃ found, Tests ds i (linkOf ds i) 0 found :=
    Tests.exists_verdict hlinks fun j hj => linkOf_lt_length hlinks hj
  have hsame : found = endsWithin ds ds.length i := by
    have hright := hfound.endless_iff_of_follow hlinks hi (follow_one i)
    rw [← endsWithin_eq_false_iff hlinks hi] at hright
    rwa [Bool.eq_iff_iff, ← not_iff_not, Bool.not_eq_true, Bool.not_eq_true]
  exact ⟨fun h => (h.unique hfound).trans hsame, fun h => h ▸ hsame ▸ hfound⟩

/-! ## The declaration at fault -/

/-- **What becomes of a list of declarations.** -/
inductive Judged (ds : List Declaration) : Except LinkError Round → Prop
  /-- The first link that leads nowhere is reported with the name it stands under. -/
  | strays {i j : Nat} {d : Declaration} :
      IsLeast {i | Strays ds i} i → ds[i]? = some d → d.enclosing = some j →
      Judged ds (.error (.unknownEnclosing d.name j ds.length))
  /-- When there is none, the first declaration whose chain never ends is reported. -/
  | endless {i : Nat} {d : Declaration} :
      (∀ i, ¬ Strays ds i) → IsLeast {i | Endless ds i} i → ds[i]? = some d →
      Judged ds (.error (.enclosingCycle d.name))
  /-- And when all chains end, the declarations make a round as they are. -/
  | forest {r : Round} :
      (∀ i, ¬ Strays ds i) → (∀ i, ¬ Endless ds i) → r.declarations = ds → Judged ds (.ok r)

/-- There is one verdict on a list. -/
theorem Judged.unique {result result' : Except LinkError Round} (h : Judged ds result)
    (h' : Judged ds result') : result = result' := by
  cases h with
  | strays hleast here hlink =>
    cases h' with
    | strays hleast' here' hlink' =>
      cases hleast.unique hleast'
      rw [here] at here'
      cases here'
      rw [hlink] at hlink'
      cases hlink'
      rfl
    | endless hlinks => exact absurd hleast.1 (hlinks _)
    | forest hlinks => exact absurd hleast.1 (hlinks _)
  | endless hlinks hleast here =>
    cases h' with
    | strays hleast' => exact absurd hleast'.1 (hlinks _)
    | endless _ hleast' here' =>
      cases hleast.unique hleast'
      rw [here] at here'
      cases here'
      rfl
    | forest _ hends => exact absurd hleast.1 (hends _)
  | forest hlinks hends hds =>
    cases h' with
    | strays hleast' => exact absurd hleast'.1 (hlinks _)
    | endless _ hleast' => exact absurd hleast'.1 (hends _)
    | forest _ _ hds' => rw [Round.eq_of_declarations (hds.trans hds'.symm)]

namespace Round

/-- A link strays when the check of the declaration reports it. -/
theorem strays_iff : Strays ds i ↔ ∃ d, ds[i]? = some d ∧ danglingLink? ds.length d ≠ none := by
  constructor
  · rintro ⟨j, hlink, hge⟩
    obtain ⟨d, here, hlink⟩ := linkOf_eq_some_iff.1 hlink
    exact ⟨d, here, by simp [danglingLink?, hlink, Nat.not_lt.2 hge]⟩
  · rintro ⟨d, here, hsome⟩
    obtain ⟨e, he⟩ := Option.ne_none_iff_exists'.1 hsome
    obtain ⟨j, hlink, hge, -⟩ := danglingLink?_eq_some_iff.1 he
    exact ⟨j, linkOf_eq_some_iff.2 ⟨d, here, hlink⟩, hge⟩

/-- **The search of the links reports the first one that strays.** -/
theorem judged_of_findSome? {e : LinkError}
    (h : ds.findSome? (danglingLink? ds.length) = some e) : Judged ds (.error e) := by
  obtain ⟨before, d, after, hsplit, hd, hbefore⟩ := List.findSome?_eq_some_iff.1 h
  obtain ⟨j, hlink, -, rfl⟩ := danglingLink?_eq_some_iff.1 hd
  have here : ds[before.length]? = some d := by simp [hsplit]
  refine .strays ⟨strays_iff.2 ⟨d, here, by simp [hd]⟩, fun k hk => ?_⟩ here hlink
  by_contra hlt
  obtain ⟨e, hget, hsome⟩ := strays_iff.1 hk
  rw [hsplit, List.getElem?_append_left (Nat.lt_of_not_ge hlt)] at hget
  exact hsome (hbefore e (List.mem_of_getElem? hget))

/-- When it reports none, none strays. -/
theorem not_strays_of_findSome? (h : ds.findSome? (danglingLink? ds.length) = none) :
    ∀ i, ¬ Strays ds i := by
  intro i hi
  obtain ⟨d, here, hsome⟩ := strays_iff.1 hi
  exact hsome (List.findSome?_eq_none_iff.1 h d (List.mem_of_getElem? here))

/-- **The verdict on every list.** -/
theorem judged (ds : List Declaration) : Judged ds (ofDeclarations ds) := by
  unfold ofDeclarations
  split
  · next e he => exact judged_of_findSome? he
  · next hnone =>
    have hlinks := not_strays_of_findSome? hnone
    have hfails : ∀ i < ds.length, (!endsWithin ds ds.length i) = true ↔ Endless ds i := by
      intro i hi
      rw [Bool.not_eq_true', endsWithin_eq_false_iff hlinks hi]
    split
    · next i hi =>
      -- the search goes upwards, so what it finds is the least
      obtain ⟨hi, hmem, hbefore⟩ := List.find?_range_eq_some.1 hi
      have hlt : i < ds.length := List.mem_range.1 hmem
      have here : ds[i]? = some ds[i] := List.getElem?_eq_getElem hlt
      rw [here, Option.elim_some]
      refine .endless hlinks ⟨(hfails i hlt).1 hi, fun k hk => ?_⟩ here
      by_contra hlt'
      have hpass := hbefore k (Nat.lt_of_not_ge hlt')
      rw [(hfails k hk.lt_length).2 hk] at hpass
      cases hpass
    · next hnone =>
      refine .forest hlinks (fun i hi => ?_) rfl
      have hpass := List.find?_eq_none.1 hnone i (List.mem_range.2 hi.lt_length)
      exact hpass ((hfails i hi.lt_length).2 hi)

/-- **Rounds are the forests**, and what is no forest is refused for the
first declaration at fault. A link that leads nowhere is looked for first,
over the whole list; if there is none, a chain that never ends. The loop
that counts the links of a chain comes to one verdict on every chain then,
without ever following a link to where no declaration is. -/
theorem ofDeclarations_accepts_forests (ds : List Declaration) :
    (∀ result, ofDeclarations ds = result ↔ Judged ds result) ∧
    ((∃ name j size, ofDeclarations ds = .error (.unknownEnclosing name j size)) ↔
      ∃ i, Strays ds i) ∧
    ((∃ name, ofDeclarations ds = .error (.enclosingCycle name)) ↔
      (¬ ∃ i, Strays ds i) ∧ ∃ i, Endless ds i) ∧
    ((∃ r, ofDeclarations ds = .ok r ∧ r.declarations = ds) ↔
      (¬ ∃ i, Strays ds i) ∧ ¬ ∃ i, Endless ds i) ∧
    ((¬ ∃ i, Strays ds i) → ∀ i < ds.length, ∀ verdict,
      Tests ds i (linkOf ds i) 0 verdict ↔ verdict = endsWithin ds ds.length i) := by
  have hjudged : Judged ds (ofDeclarations ds) := judged ds
  refine ⟨fun result => ⟨fun h => h ▸ hjudged, hjudged.unique⟩, ?_⟩
  simp only [not_exists]
  refine ⟨?_, ?_, ?_, fun hlinks i hi verdict => tests_iff hlinks hi⟩
  all_goals generalize ofDeclarations ds = result at hjudged
  · cases hjudged with
    | strays hleast => exact ⟨fun _ => ⟨_, hleast.1⟩, fun _ => ⟨_, _, _, rfl⟩⟩
    | endless hlinks => simp [hlinks]
    | forest hlinks => simp [hlinks]
  · cases hjudged with
    | strays hleast =>
      exact ⟨fun ⟨_, h⟩ => (nomatch h), fun ⟨hlinks, _⟩ => absurd hleast.1 (hlinks _)⟩
    | endless hlinks hleast => exact ⟨fun _ => ⟨hlinks, _, hleast.1⟩, fun _ => ⟨_, rfl⟩⟩
    | forest _ hends => simp [hends]
  · cases hjudged with
    | strays hleast =>
      exact ⟨fun ⟨_, h, _⟩ => (nomatch h), fun ⟨hlinks, _⟩ => absurd hleast.1 (hlinks _)⟩
    | endless _ hleast =>
      exact ⟨fun ⟨_, h, _⟩ => (nomatch h), fun ⟨_, hends⟩ => absurd hleast.1 (hends _)⟩
    | forest hlinks hends hds => exact ⟨fun _ => ⟨hlinks, hends⟩, fun _ => ⟨_, rfl, hds⟩⟩

/-- A declaration inside one of two that are each inside the other. -/
def tailOfCircle : List Declaration :=
  [{ name := "Tail", enclosing := some 1 }, { name := "Left", enclosing := some 2 },
    { name := "Right", enclosing := some 1 }]

/-- The first is to blame, though it is not on the circle itself. -/
theorem ofDeclarations_tailOfCircle :
    ofDeclarations tailOfCircle = .error (.enclosingCycle "Tail") ∧
      ∀ verdict, Tests tailOfCircle 0 (some 1) 0 verdict ↔ verdict = false := by
  have hlinks : ∀ i, ¬ Strays tailOfCircle i := by
    rintro i ⟨j, hlink, hge⟩
    obtain ⟨d, here, hlink⟩ := linkOf_eq_some_iff.1 hlink
    have hall : ∀ d ∈ tailOfCircle, ∀ j ∈ d.enclosing, j < tailOfCircle.length := by decide
    exact absurd (hall d (List.mem_of_getElem? here) j hlink) (Nat.not_lt.2 hge)
  have hcircle : Endless tailOfCircle 1 := endless_of_follow (n := 1) rfl
  have hleast : IsLeast {i | Endless tailOfCircle i} 0 :=
    ⟨hcircle.of_linkOf rfl, fun _ _ => Nat.zero_le _⟩
  obtain ⟨hverdict, -, -, -, hloop⟩ := ofDeclarations_accepts_forests tailOfCircle
  exact ⟨(hverdict _).2 (.endless hlinks hleast rfl),
    hloop (fun ⟨i, hi⟩ => hlinks i hi) 0 (by decide)⟩

end Round

end Companion
