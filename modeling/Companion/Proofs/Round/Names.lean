import Companion.Proofs.Name.Dotted
import Companion.Proofs.Round.Accepted
import Companion.Round.Entity

/-!
# The names of a declaration

A declaration has two names: the dotted name, which tells what it is, and
the name of its companion, which tells where the companion goes. Both
come from the way outwards: `outermostPackage` is the package it ends in,
and `path` has the simple names on it from there inwards. The dotted name
is put together from the chain and the companion's name by a loop of its
own, which joins with underscores; the two agree (`companionName_eq`).
So the chain tells both names, and it is what its name says: every entry
is enclosed by the next one, up to one without a link (`chain_tells_names`).
-/

namespace Companion

open Text

/-- Two parts at the end that are joined already make one part less. -/
theorem Text.intercalate_concat_append (sep a b : String) (l : List String) :
    sep.intercalate (l ++ [a ++ sep ++ b]) = sep.intercalate (l ++ [a, b]) := by
  rw [← String.toList_inj, String.toList_intercalate, String.toList_intercalate]
  rcases l with - | ⟨c, l⟩
  · simp
  · rw [List.map_append, List.map_append, intercalate_append (by simp) (by simp),
      intercalate_append (by simp) (by simp)]
    simp

/-- The loop that joins names joins those of the declarations which the
other loop collects around the first one. -/
theorem Flattens.eq_of_climbs {ds : List Declaration} {leading joined : String} {d : Declaration}
    {name : CompanionName} {around : List Declaration} (h : Flattens ds leading d joined name)
    (hchain : Climbs ds (d.enclosing.bind (ds[·]?)) around) :
    name = ⟨(around.getLastD d).package,
      leading ++ "_".intercalate (around.reverse.map (·.name) ++ [joined])⟩ := by
  induction h generalizing around with
  | stop hnone =>
    rw [hnone] at hchain
    cases hchain
    simp
  | @step d outer joined name hsome _ ih =>
    rw [hsome] at hchain
    cases hchain with
    | @step _ around hchain =>
      -- the outer name is part of the joined text now, and of the chain before
      rw [ih hchain, intercalate_concat_append, List.getLastD_cons, List.reverse_cons,
        List.map_append, List.append_assoc]
      rfl

namespace Round

variable {r : Round} {id : Nat} {d : Declaration}

/-- The package of the outermost declaration around one. -/
def outermostPackage (r : Round) (id : Nat) : String :=
  (r.chain id).getLast?.elim "" (·.package)

/-- The simple names of a declaration and those around it, outermost first. -/
def path (r : Round) (id : Nat) : List String := (r.chain id).reverse.map (·.name)

/-- The dotted name has both. -/
theorem qualifiedName_eq (r : Round) (id : Nat) :
    r.qualifiedName id = .ofParts (r.outermostPackage id) (r.path id) := rfl

/-- The chain of a declaration starts with it. -/
theorem exists_chain_eq_cons (h : r.get? id = some d) :
    ∃ around, r.chain id = d :: around ∧
      Climbs r.declarations (d.enclosing.bind (r.declarations[·]?)) around := by
  have hclimbs := r.climbs_chain id
  rw [h] at hclimbs
  cases hchain : r.chain id with
  | nil =>
    rw [hchain] at hclimbs
    cases hclimbs
  | cons e around =>
    rw [hchain] at hclimbs
    cases hclimbs with
    | step hclimbs => exact ⟨around, rfl, hclimbs⟩

/-- **The companion's name joins the names of the path**, and its package is
the outermost one. -/
theorem companionName_eq (h : r.get? id = some d) (leading : String) :
    r.companionName id leading
      = .ok ⟨r.outermostPackage id, leading ++ "_".intercalate (r.path id)⟩ := by
  obtain ⟨name, hname, hflattens⟩ := flattens_companionName h leading
  obtain ⟨around, hchain, hclimbs⟩ := exists_chain_eq_cons h
  rw [hname, hflattens.eq_of_climbs hclimbs, outermostPackage, path, hchain, List.getLast?_cons,
    List.getLastD_eq_getLast?, List.reverse_cons, List.map_append]
  rfl

/-- A declaration has at least its own name. -/
theorem path_ne_nil (h : r.get? id = some d) : r.path id ≠ [] := by
  obtain ⟨around, hchain, -⟩ := exists_chain_eq_cons h
  simp [path, hchain]

/-- What the loop collects are declarations. -/
theorem mem_of_climbs {ds chain : List Declaration} {cursor : Option Declaration}
    (h : Climbs ds cursor chain) (hcursor : ∀ e ∈ cursor, e ∈ ds) (hd : d ∈ chain) : d ∈ ds := by
  induction h with
  | stop => cases hd
  | @step e chain _ ih =>
    rcases List.mem_cons.1 hd with rfl | hd
    · exact hcursor d rfl
    · refine ih (fun e he => ?_) hd
      obtain ⟨j, -, hj⟩ := Option.bind_eq_some_iff.1 he
      exact List.mem_of_getElem? hj

/-- So a chain has declarations of the round. -/
theorem mem_of_mem_chain (h : d ∈ r.chain id) : d ∈ r.declarations := by
  have hget : ∀ e ∈ r.get? id, e ∈ r.declarations := fun e he => List.mem_of_getElem? he
  exact mem_of_climbs (r.climbs_chain id) hget h

/-- Every name of a path is the name of one. -/
theorem exists_of_mem_path {name : String} (h : name ∈ r.path id) :
    ∃ d ∈ r.declarations, d.name = name := by
  obtain ⟨d, hd, rfl⟩ := List.mem_map.1 h
  exact ⟨d, mem_of_mem_chain (List.mem_reverse.1 hd), rfl⟩

/-- And the outermost package is the package of one. -/
theorem exists_of_outermostPackage (h : r.get? id = some d) :
    ∃ e ∈ r.declarations, e.package = r.outermostPackage id := by
  obtain ⟨around, hchain, -⟩ := exists_chain_eq_cons h
  have hlast : (r.chain id).getLast? = some (around.getLastD d) := by
    rw [hchain, List.getLast?_cons, List.getLastD_eq_getLast?]
  refine ⟨_, mem_of_mem_chain (List.mem_of_getLast? hlast), ?_⟩
  rw [outermostPackage, hlast, Option.elim_some]

/-! ## The chain -/

/-- The link of one declaration leads to the other. -/
def EnclosedBy (r : Round) (inner outer : Declaration) : Prop :=
  ∃ j, inner.enclosing = some j ∧ r.get? j = some outer

/-- The loop collects declarations of which each is enclosed by the next. -/
theorem isChain_of_climbs {cursor : Option Declaration} {chain : List Declaration}
    (h : Climbs r.declarations cursor chain) : chain.IsChain r.EnclosedBy := by
  induction h with
  | stop => exact .nil
  | @step e chain hrest ih =>
    cases hrest' : e.enclosing.bind (r.declarations[·]?) with
    | none =>
      rw [hrest'] at hrest
      cases hrest
      exact .singleton e
    | some outer =>
      rw [hrest'] at hrest
      cases hrest
      exact .cons_cons (Option.bind_eq_some_iff.1 hrest') ih

/-- It collects nothing only when it starts from nothing. -/
theorem eq_none_of_climbs_nil {ds : List Declaration} {cursor : Option Declaration}
    (h : Climbs ds cursor []) : cursor = none := by
  cases h
  rfl

/-- And it stops where no declaration is around the last one. -/
theorem bind_getLast?_of_climbs {ds : List Declaration} {cursor : Option Declaration}
    {chain : List Declaration} (h : Climbs ds cursor chain) (hlast : chain.getLast? = some d) :
    d.enclosing.bind (ds[·]?) = none := by
  induction h with
  | stop => cases hlast
  | @step e chain hrest ih =>
    cases hchain : chain with
    | nil =>
      rw [hchain] at hlast hrest
      have hd : e = d := Option.some.inj hlast
      rw [← hd]
      exact eq_none_of_climbs_nil hrest
    | cons outer around =>
      refine ih ?_
      rw [hchain] at hlast ⊢
      rwa [List.getLast?_cons_cons] at hlast

/-- In a round that is a declaration without a link. -/
theorem enclosing_getLast? (hlast : (r.chain id).getLast? = some d) : d.enclosing = none := by
  have hmem : d ∈ r.declarations := mem_of_mem_chain (List.mem_of_getLast? hlast)
  obtain ⟨i, hi⟩ := List.mem_iff_getElem?.1 hmem
  have hbind := bind_getLast?_of_climbs (r.climbs_chain id) hlast
  cases hlink : d.enclosing with
  | none => rfl
  | some j =>
    -- the links of a round lead to its declarations
    have hj : j < r.size := link_lt_size hi hlink
    rw [hlink, Option.bind_some, List.getElem?_eq_getElem hj] at hbind
    cases hbind

/-- **The chain tells both names of a declaration.** It starts with the
declaration, every entry is enclosed by the next, and the last has no
link. The package of the last one and the names from there inwards make
the dotted name, and joined with underscores the name of the companion.
From a position that the round does not have there is neither a companion
nor a view, and for the same reason. -/
theorem chain_tells_names (r : Round) (id : Nat) (leading : String) :
    (id < r.size → ∃ d outermost, r.get? id = some d ∧
      (r.chain id).head? = some d ∧ (r.chain id).IsChain r.EnclosedBy ∧
      (r.chain id).getLast? = some outermost ∧ outermost.enclosing = none ∧
      r.companionName id leading = .ok ⟨outermost.package,
        leading ++ "_".intercalate ((r.chain id).reverse.map (·.name))⟩ ∧
      r.qualifiedName id = .ofParts outermost.package ((r.chain id).reverse.map (·.name))) ∧
    (r.size ≤ id →
      r.companionName id leading = .error (.unknownDeclaration id r.size) ∧
      r.entity id = .error (.unknownDeclaration id r.size)) := by
  constructor
  · intro hlt
    have hget : r.get? id = some r.declarations[id] := List.getElem?_eq_getElem hlt
    obtain ⟨around, hchain, -⟩ := exists_chain_eq_cons hget
    have hlast : (r.chain id).getLast? = some (around.getLastD r.declarations[id]) := by
      rw [hchain, List.getLast?_cons, List.getLastD_eq_getLast?]
    have hpackage : r.outermostPackage id = (around.getLastD r.declarations[id]).package := by
      rw [outermostPackage, hlast, Option.elim_some]
    refine ⟨_, _, hget, ?_, isChain_of_climbs (r.climbs_chain id), hlast,
      enclosing_getLast? hlast, ?_, ?_⟩
    · rw [hchain, List.head?_cons]
    · rw [companionName_eq hget, hpackage]
      rfl
    · rw [qualifiedName_eq, hpackage]
      rfl
  · intro hge
    have hget : r.get? id = none := List.getElem?_eq_none hge
    exact ⟨by rw [companionName, hget], by rw [entity, hget]⟩

/-- Three declarations, one inside the other. The inner packages say nothing. -/
def nest : Round where
  declarations := [{ name := "Outer", package := "com.acme" },
    { name := "Inner", package := "elsewhere", enclosing := some 0 },
    { name := "Leaf", enclosing := some 1 }]
  ends := ends_of_all (by decide)

/-- The innermost is named from the outside in, and there is no fourth. -/
theorem chain_tells_names_nest :
    nest.companionName 2 "Realm" = .ok ⟨"com.acme", "RealmOuter_Inner_Leaf"⟩ ∧
      nest.qualifiedName 2 = ⟨"com.acme.Outer.Inner.Leaf"⟩ ∧
      nest.entity 3 = .error (.unknownDeclaration 3 3) := by
  obtain ⟨-, outermost, -, -, -, hlast, -, hname, hqualified⟩ :=
    (chain_tells_names nest 2 "Realm").1 (by decide)
  have houtermost : outermost = { name := "Outer", package := "com.acme" } :=
    (Option.some.inj hlast).symm
  rw [houtermost] at hname hqualified
  exact ⟨hname.trans (by decide +kernel), hqualified.trans (by decide +kernel),
    ((chain_tells_names nest 3 "Realm").2 (by decide)).2⟩

end Round

end Companion
