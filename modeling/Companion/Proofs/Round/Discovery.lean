import Companion.Round.Basic
import Mathlib.Data.List.Nodup
import Mathlib.Data.Nat.Init

/-!
# Discovery — the entities of a round

The entities are found in the order of their positions, and of those with
one dotted name only the first counts. The search keeps the names it has
seen, but what it finds is told without them: the marked positions before
which no marked one has the same name (`entities_eq_filter`). So no
position comes up twice, and no two entities have the same dotted name
(`eq_of_qualifiedName_eq`).
-/

namespace Companion

namespace Round

variable {r : Round} {seen : List QualifiedName} {i j : Nat}

/-- The declaration at a position carries the entity marker. -/
def isMarked (r : Round) (id : Nat) : Bool := (r.get? id).any (·.isEntity)

/-- What carries the marker is a declaration. -/
theorem lt_size_of_isMarked (h : r.isMarked i = true) : i < r.size := by
  rw [isMarked, Option.any_eq_true] at h
  obtain ⟨d, hget, -⟩ := h
  exact (List.getElem?_eq_some_iff.1 hget).1

/-- A declaration is the first of its name when it carries the marker, and
none that does has its dotted name and stands before it. -/
def IsFirst (r : Round) (id : Nat) : Prop :=
  r.isMarked id = true ∧ ∀ j < id, r.isMarked j = true → r.qualifiedName j ≠ r.qualifiedName id

instance (r : Round) (id : Nat) : Decidable (r.IsFirst id) := instDecidableAnd

/-- The last position is kept unless its name was seen, before the search
or on the way. -/
theorem firsts_concat (ids : List Nat) (id : Nat) :
    entities.firsts r seen (ids ++ [id]) = entities.firsts r seen ids ++
      if r.qualifiedName id ∈ seen ++ ids.map r.qualifiedName then [] else [id] := by
  induction ids generalizing seen with
  | nil => simp [entities.firsts]
  | cons k ids ih =>
    rw [List.cons_append]
    simp only [entities.firsts]
    split
    · next hseen =>
      -- a name that is met again is one that was seen
      have hsame : (r.qualifiedName id ∈ seen ++ (k :: ids).map r.qualifiedName)
          ↔ r.qualifiedName id ∈ seen ++ ids.map r.qualifiedName := by
        rw [List.map_cons, List.mem_append, List.mem_append, List.mem_cons]
        refine or_congr_right' fun hnew => or_iff_right_of_imp fun hk => ?_
        exact absurd (hk ▸ hseen) hnew
      rw [ih]
      simp only [hsame]
    · rw [ih]
      simp only [List.map_cons, List.cons_append, List.mem_append, List.mem_cons, or_left_comm]

/-- **The entities of a round are the first of each name** among the
declarations that carry the marker. -/
theorem entities_eq_filter (r : Round) :
    r.entities = (List.range r.size).filter fun id => r.IsFirst id := by
  have hbelow : ∀ n, entities.firsts r [] ((List.range n).filter r.isMarked)
      = (List.range n).filter fun id => r.IsFirst id := by
    intro n
    induction n with
    | zero => rfl
    | succ n ih =>
      rw [List.range_succ, List.filter_append, List.filter_append, ← ih]
      cases hmarked : r.isMarked n with
      | false => simp [IsFirst, hmarked]
      | true =>
        have hfirst : r.IsFirst n ↔
            r.qualifiedName n ∉ ((List.range n).filter r.isMarked).map r.qualifiedName := by
          simp [IsFirst, hmarked]
        rw [List.filter_singleton, hmarked, cond_true, firsts_concat, List.nil_append,
          List.filter_singleton]
        by_cases hnew : r.IsFirst n
        · rw [if_neg (hfirst.1 hnew)]
          simp [hnew]
        · rw [if_pos (not_not.1 (mt hfirst.2 hnew))]
          simp [hnew]
  exact hbelow r.size

/-- A position is that of an entity when it is the first of its name. -/
theorem mem_entities_iff : i ∈ r.entities ↔ i < r.size ∧ r.IsFirst i := by
  rw [entities_eq_filter, List.mem_filter, List.mem_range, decide_eq_true_eq]

/-- **The entities come in the order of their positions.** -/
theorem pairwise_lt_entities (r : Round) : r.entities.Pairwise (· < ·) := by
  rw [entities_eq_filter]
  exact List.pairwise_lt_range.filter _

/-- So none comes twice. -/
theorem nodup_entities (r : Round) : r.entities.Nodup :=
  (pairwise_lt_entities r).imp Nat.ne_of_lt

/-- Each is a declaration with the entity marker. -/
theorem exists_of_mem_entities (h : i ∈ r.entities) :
    ∃ d, r.get? i = some d ∧ d.isEntity = true := by
  have hmarked := (mem_entities_iff.1 h).2.1
  rw [isMarked, Option.any_eq_true] at hmarked
  exact hmarked

/-- **Entities with the same dotted name are the same**: each is the first
of its name. -/
theorem eq_of_qualifiedName_eq (hi : i ∈ r.entities) (hj : j ∈ r.entities)
    (hsame : r.qualifiedName i = r.qualifiedName j) : i = j := by
  obtain ⟨-, hmarkedi, hfirsti⟩ := mem_entities_iff.1 hi
  obtain ⟨-, hmarkedj, hfirstj⟩ := mem_entities_iff.1 hj
  rcases Nat.lt_trichotomy i j with hlt | heq | hgt
  · exact absurd hsame (hfirstj i hlt hmarkedi)
  · exact heq
  · exact absurd hsame.symm (hfirsti j hgt hmarkedj)

/-- Every marked declaration has the dotted name of an entity that does
not stand behind it. -/
theorem exists_entity (hj : r.isMarked j = true) :
    ∃ i ∈ r.entities, i ≤ j ∧ r.qualifiedName i = r.qualifiedName j := by
  induction j using Nat.strong_induction_on with
  | _ j ih =>
    by_cases hfirst : r.IsFirst j
    · exact ⟨j, mem_entities_iff.2 ⟨lt_size_of_isMarked hj, hfirst⟩, Nat.le_refl j, rfl⟩
    · -- one of its name stands before it
      obtain ⟨k, hlt, hk, hsame⟩ : ∃ k < j, r.isMarked k = true ∧
          r.qualifiedName k = r.qualifiedName j := by
        simpa [IsFirst, hj] using hfirst
      obtain ⟨i, hi, hle, hname⟩ := ih k hlt hk
      exact ⟨i, hi, by omega, hname.trans hsame⟩

/-- **A marked declaration is dropped for an earlier entity** of its dotted
name, and for nothing else. -/
theorem notMem_entities_iff (hj : r.isMarked j = true) :
    j ∉ r.entities ↔ ∃ i ∈ r.entities, i < j ∧ r.qualifiedName i = r.qualifiedName j := by
  constructor
  · intro hdropped
    obtain ⟨i, hi, hle, hsame⟩ := exists_entity hj
    have hne : i ≠ j := fun h => hdropped (h ▸ hi)
    exact ⟨i, hi, Nat.lt_of_le_of_ne hle hne, hsame⟩
  · rintro ⟨i, hi, hlt, hsame⟩ hkept
    exact absurd (eq_of_qualifiedName_eq hi hkept hsame) (Nat.ne_of_lt hlt)

/-- **Discovery selects the first of each name.** The entities are in
increasing order. They are the declarations with the marker before which no
declaration with the marker has the same dotted name; one with the marker
that is left out therefore has the name of an earlier entity, and one
without it stands in nobody's way. So no two entities have the same dotted
name, and together they have those of all declarations with the marker. -/
theorem entities_are_firsts (r : Round) :
    r.entities.Pairwise (· < ·) ∧
    (∀ id, id ∈ r.entities ↔ r.isMarked id = true ∧
      ∀ j < id, r.isMarked j = true → r.qualifiedName j ≠ r.qualifiedName id) ∧
    (∀ id, r.isMarked id = true →
      (id ∉ r.entities ↔ ∃ j ∈ r.entities, j < id ∧ r.qualifiedName j = r.qualifiedName id)) ∧
    (r.entities.map r.qualifiedName).Nodup ∧
    ∀ name, name ∈ r.entities.map r.qualifiedName ↔
      ∃ id, r.isMarked id = true ∧ r.qualifiedName id = name := by
  refine ⟨pairwise_lt_entities r, fun id => ?_, fun id => notMem_entities_iff, ?_, fun name => ?_⟩
  · exact mem_entities_iff.trans (and_iff_right_of_imp fun h => lt_size_of_isMarked h.1)
  · exact (nodup_entities r).map_on fun i hi j hj => eq_of_qualifiedName_eq hi hj
  · rw [List.mem_map]
    constructor
    · rintro ⟨id, hid, hname⟩
      exact ⟨id, (mem_entities_iff.1 hid).2.1, hname⟩
    · rintro ⟨id, hmarked, hname⟩
      obtain ⟨i, hi, -, hsame⟩ := exists_entity hmarked
      exact ⟨i, hi, hsame.trans hname⟩

/-- Four declarations of one dotted name. Only the first has no marker. -/
def copies : Round where
  declarations := [{ name := "Order", package := "shop" },
    { name := "Order", package := "shop", entity := some {} },
    { name := "Order", package := "shop", entity := some {} },
    { name := "Order", package := "shop", entity := some {} }]
  ends := ends_of_all rfl

/-- The second is kept, although the first has its name, and those behind
it are left out for it. -/
theorem entities_are_firsts_copies : 0 ∉ copies.entities ∧ 1 ∈ copies.entities ∧
    ∃ j ∈ copies.entities, j < 3 ∧ copies.qualifiedName j = copies.qualifiedName 3 := by
  obtain ⟨-, hfirst, hdropped, -, -⟩ := entities_are_firsts copies
  have hlast : 3 ∉ copies.entities := by
    intro hkept
    exact (hfirst 3).1 hkept |>.2 1 (by decide) rfl (by decide +kernel)
  refine ⟨fun hkept => ?_, (hfirst 1).2 ⟨rfl, ?_⟩, (hdropped 3 rfl).1 hlast⟩
  · exact absurd ((hfirst 0).1 hkept).1 (by decide)
  · intro j hj hmarked
    obtain rfl : j = 0 := by omega
    exact absurd hmarked (by decide)

end Round

end Companion
