import Companion.Proofs.Class.Meaning
import Mathlib.Data.List.Find
import Mathlib.Data.List.Induction
import Mathlib.Data.List.Sort
import Mathlib.Data.String.Basic

/-!
# Claims — how simple names come by their owners

Which class owns a simple name is told at once: the first one that claims
it. But it can also be found on one way through the references, those of
the companion's package before all others. Each claims its name unless
the name is taken, and one that takes its name is imported if it has to
be. Two tables are kept on the way, and they stay linked: at every moment
the imports are those owners that have to be imported (`Settled`). So in
the end the first table tells the owners (`owner?_settle`), and the second
is the imports (`imports_settle`).

Told by the references in their order, the owner of a name is the first
class of the companion's package that has it, or else the first of any
(`owner?_eq`).
-/

namespace Companion

open Text

namespace CompanionClass

variable {c : CompanionClass} {d : ClassName} {ds : List ClassName} {name line : String}

/-- What has been settled on the way through the references. -/
structure Claims where
  /-- The names that are taken, each with its owner. The companion's own name has none. -/
  owners : List (String × Option ClassName)
  /-- The names of the classes to import, in increasing order. -/
  imports : List String

/-- The top-level class that has taken a name. -/
def Claims.owner? (t : Claims) (name : String) : Option ClassName := (t.owners.lookup name).join

/-- At first only the companion's own name is taken. -/
def unclaimed (c : CompanionClass) : Claims := ⟨[(c.name.simpleName, none)], []⟩

/-- A class claims its top-level name. -/
def claim (c : CompanionClass) (t : Claims) (d : ClassName) : Claims :=
  if (t.owners.lookup d.outer).isSome then t
  else
    ⟨(d.outer, some d.topLevel) :: t.owners,
      if c.needsImport d.package then insertSorted d.topLevel.canonical t.imports else t.imports⟩

/-- What is settled when all classes that the source refers to have claimed their names. -/
def settle (c : CompanionClass) : Claims := c.claimants.foldl c.claim c.unclaimed

/-! ## One claim -/

/-- The first entry of a table is found under its name, and under any other what is behind it. -/
theorem lookup_cons_eq (key : String) (owner : Option ClassName)
    (owners : List (String × Option ClassName)) : ((key, owner) :: owners).lookup name
      = if name = key then some owner else owners.lookup name := by
  rw [List.lookup_cons]
  by_cases hname : name = key
  · simp [hname]
  · rw [if_neg hname, beq_eq_false_iff_ne.2 hname]

/-- **A claim takes the name of the class**, unless it is taken. -/
theorem lookup_claim (t : Claims) : (c.claim t d).owners.lookup name
    = (t.owners.lookup name).or (if d.outer = name then some (some d.topLevel) else none) := by
  unfold claim
  split
  · next htaken =>
    split
    · next hname =>
      obtain ⟨owner, howner⟩ := Option.isSome_iff_exists.1 htaken
      rw [← hname, howner, Option.some_or]
    · rw [Option.or_none]
  · next hfree =>
    rw [Option.not_isSome_iff_eq_none] at hfree
    rw [lookup_cons_eq]
    split
    · next hname => rw [hname, hfree, Option.none_or, if_pos rfl]
    · next hname => rw [if_neg (Ne.symm hname), Option.or_none]

/-- So the owners are the old ones and, if its name was free, the class. -/
theorem owner?_claim {owner : ClassName} (t : Claims) :
    (c.claim t d).owner? name = some owner ↔ t.owner? name = some owner ∨
      (t.owners.lookup d.outer = none ∧ name = d.outer ∧ owner = d.topLevel) := by
  rw [Claims.owner?, Claims.owner?, lookup_claim]
  cases hold : t.owners.lookup name with
  | some old =>
    rw [Option.some_or]
    refine ⟨Or.inl, fun h => h.resolve_right ?_⟩
    rintro ⟨hfree, rfl, -⟩
    rw [hold] at hfree
    cases hfree
  | none =>
    rw [Option.none_or]
    split
    · next hname =>
      subst hname
      simp [hold, eq_comm]
    · next hname => simp [Ne.symm hname]

/-- **And it makes an import of a class that took its name**, if one is
needed. -/
theorem mem_imports_claim (t : Claims) : line ∈ (c.claim t d).imports ↔
    line ∈ t.imports ∨ (t.owners.lookup d.outer = none ∧ c.needsImport d.package = true ∧
      line = d.topLevel.canonical) := by
  unfold claim
  split
  · next htaken =>
    have hnot : t.owners.lookup d.outer ≠ none := Option.isSome_iff_ne_none.1 htaken
    simp [hnot]
  · next hfree =>
    rw [Option.not_isSome_iff_eq_none] at hfree
    split
    · next hneed => rw [mem_insertSorted, or_comm]; simp [hfree, hneed]
    · next hneed => simp [hneed]

/-- The imports stay in increasing order. -/
theorem pairwise_imports_claim {t : Claims} (h : t.imports.Pairwise (· < ·)) :
    (c.claim t d).imports.Pairwise (· < ·) := by
  unfold claim
  split
  · exact h
  · split
    · exact pairwise_insertSorted h
    · exact h

/-! ## One claim after the other -/

/-- **What holds after the claims of some classes.** -/
structure Settled (c : CompanionClass) (ds : List ClassName) (t : Claims) : Prop where
  /-- The companion's name is taken, and every name that one of the classes has, by the first
  of them. -/
  owners : ∀ name, t.owners.lookup name =
    if name = c.name.simpleName then some none
    else (ds.find? (·.outer == name)).map (some ·.topLevel)
  /-- The imports are increasing. -/
  increasing : t.imports.Pairwise (· < ·)
  /-- They are the owners that have to be imported. -/
  linked : ∀ line, line ∈ t.imports ↔
    ∃ name owner, t.owner? name = some owner ∧ c.needsImport owner.package = true ∧
      owner.canonical = line

/-- It holds before the first claim. -/
theorem settled_unclaimed (c : CompanionClass) : Settled c [] c.unclaimed where
  owners name := by
    rw [unclaimed, lookup_cons_eq]
    rfl
  increasing := List.Pairwise.nil
  linked line := by
    refine ⟨fun h => (nomatch h), ?_⟩
    rintro ⟨name, owner, howner, -⟩
    rw [Claims.owner?, unclaimed, lookup_cons_eq] at howner
    split at howner <;> cases howner

/-- **And every claim keeps it.** -/
theorem Settled.claim {t : Claims} (h : Settled c ds t) (d : ClassName) :
    Settled c (ds ++ [d]) (c.claim t d) where
  owners name := by
    rw [lookup_claim, h.owners, List.find?_append, List.find?_singleton]
    split
    · rfl
    · cases ds.find? (·.outer == name) with
      | some e => rfl
      | none =>
        by_cases hname : d.outer = name <;> simp [hname]
  increasing := pairwise_imports_claim h.increasing
  linked line := by
    rw [mem_imports_claim, h.linked]
    simp only [owner?_claim]
    constructor
    · rintro (⟨name, owner, howner, hneed, rfl⟩ | ⟨hfree, hneed, rfl⟩)
      · exact ⟨name, owner, Or.inl howner, hneed, rfl⟩
      · exact ⟨d.outer, d.topLevel, Or.inr ⟨hfree, rfl, rfl⟩, hneed, rfl⟩
    · rintro ⟨name, owner, howner | ⟨hfree, -, rfl⟩, hneed, rfl⟩
      · exact Or.inl ⟨name, owner, howner, hneed, rfl⟩
      · exact Or.inr ⟨hfree, hneed, rfl⟩

/-- **So it holds in the end.** -/
theorem settled_settle (c : CompanionClass) : Settled c c.claimants c.settle := by
  have hall : ∀ ds, Settled c ds (ds.foldl c.claim c.unclaimed) := by
    intro ds
    induction ds using List.reverseRecOn with
    | nil => exact settled_unclaimed c
    | append_singleton ds d ih =>
      rw [List.foldl_append]
      exact ih.claim d
  exact hall c.claimants

/-! ## What is settled in the end -/

/-- **The way through the references finds the owners.** -/
theorem owner?_settle (c : CompanionClass) (name : String) :
    c.settle.owner? name = c.owner? name := by
  rw [Claims.owner?, (settled_settle c).owners, CompanionClass.owner?]
  split
  · rfl
  · cases c.claimants.find? (·.outer == name) <;> rfl

/-- An owner is the top-level class of a class that is written short. -/
theorem exists_of_owner? {owner : ClassName} (h : c.owner? name = some owner) :
    ∃ d ∈ c.references, c.isShort d = true ∧ d.outer = name ∧ d.topLevel = owner := by
  have hsome := h
  unfold CompanionClass.owner? at hsome
  split at hsome
  · cases hsome
  · obtain ⟨d, hfind, rfl⟩ := Option.map_eq_some_iff.1 hsome
    have houter : d.outer = name := by simpa using List.find?_some hfind
    refine ⟨d, mem_claimants.1 (List.mem_of_find?_eq_some hfind), ?_, houter, rfl⟩
    rw [isShort, houter, h, beq_self_eq_true]

/-- **And the imports.** -/
theorem imports_settle (c : CompanionClass) : c.settle.imports = c.imports := by
  have hsorted : c.imports.Pairwise (· < ·) := pairwise_sorted
  refine (settled_settle c).increasing.eq_of_mem_iff hsorted fun line => ?_
  rw [(settled_settle c).linked, mem_imports]
  simp only [owner?_settle]
  constructor
  · rintro ⟨name, owner, howner, hneed, rfl⟩
    obtain ⟨d, hd, hshort, -, rfl⟩ := exists_of_owner? howner
    exact ⟨d, hd, hshort, hneed, rfl⟩
  · rintro ⟨d, -, hshort, hneed, rfl⟩
    exact ⟨d.outer, d.topLevel, beq_iff_eq.1 hshort, hneed, rfl⟩

/-- **Whose name it is, told by the order of the references**: the first
class of the companion's package with that top-level name has it, and if
there is none the first of all. -/
theorem owner?_eq (hother : name ≠ c.name.simpleName) : c.owner? name =
    ((c.references.find? fun d => d.package == c.name.package && d.outer == name).or
      (c.references.find? fun d => d.outer == name)).map ClassName.topLevel := by
  rw [CompanionClass.owner?, if_neg hother, claimants, List.partition_eq_filter_filter,
    List.find?_append, List.find?_filter, List.find?_filter]
  simp only [Function.comp_apply, Bool.decide_and, Bool.decide_eq_true]
  cases hnear : c.references.find? fun d => d.package == c.name.package && d.outer == name with
  | some d => rfl
  | none =>
    -- no class of the package has the name, so it is enough to look at the others
    refine congrArg (fun found => (Option.or none found).map ClassName.topLevel) ?_
    refine List.find?_congr fun d hd => ?_
    have hfar := List.find?_eq_none.1 hnear d hd
    simp only [Bool.and_eq_true, not_and] at hfar
    cases houter : d.outer == name with
    | false => rw [Bool.and_false]
    | true =>
      have hpackage : (d.package == c.name.package) = false := by
        rw [← Bool.not_eq_true]
        exact fun h => hfar h houter
      rw [hpackage]
      rfl

end CompanionClass

end Companion
