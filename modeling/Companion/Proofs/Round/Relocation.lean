import Companion.Proofs.Round.Calls
import Companion.Proofs.Round.Names

/-!
# Relocation — the same names at other positions

A declaration is known by its position, but its names come from the chain
of links outwards. `Relocates` says that every declaration of one list is
found in another, perhaps at another position, with its simple name, with
its link led along and, if there is none around it, with its package.
Then walks are led along too (`Walk.relocate`), and a declaration keeps
its path and its package (`names_of_relocates`). A round that has grown
relocates the one it grew from to where it was.
-/

namespace Companion

variable {place : Nat → Nat} {ds ds' : List Declaration} {i : Nat} {path : List Nat}

/-- **Declarations are found at the positions that `place` gives.** Nothing
is said of their fields and markers, nor of the packages of nested ones. -/
def Relocates (place : Nat → Nat) (ds ds' : List Declaration) : Prop :=
  ∀ i d, ds[i]? = some d → ∃ d', ds'[place i]? = some d' ∧ d'.name = d.name ∧
    d'.enclosing = d.enclosing.map place ∧ (d.enclosing = none → d'.package = d.package)

/-- **A walk is led along.** -/
theorem Walk.relocate (h : Walk ds i path) (hplace : Relocates place ds ds') :
    Walk ds' (place i) (path.map place) := by
  induction h with
  | outermost here top =>
    obtain ⟨d', here', -, hlink, -⟩ := hplace _ _ here
    exact .outermost here' (by rw [hlink, top, Option.map_none])
  | inside here link _ ih =>
    obtain ⟨d', here', -, hlink, -⟩ := hplace _ _ here
    exact .inside here' (by rw [hlink, link, Option.map_some]) ih

/-- A chain that ends, ends there. -/
theorem Ends.relocate (h : Ends ds i) (hplace : Relocates place ds ds') : Ends ds' (place i) := by
  induction h with
  | outermost here top =>
    obtain ⟨d', here', -, hlink, -⟩ := hplace _ _ here
    exact .outermost here' (by rw [hlink, top, Option.map_none])
  | inside here link _ ih =>
    obtain ⟨d', here', -, hlink, -⟩ := hplace _ _ here
    exact .inside here' (by rw [hlink, link, Option.map_some]) ih

/-- A walk ends at a declaration without a link. -/
theorem Walk.exists_outermost (h : Walk ds i path) :
    ∃ inner top d, path = inner ++ [top] ∧ ds[top]? = some d ∧ d.enclosing = none := by
  induction h with
  | @outermost i d here top => exact ⟨[], i, d, rfl, here, top⟩
  | @inside i _ _ _ _ _ _ ih =>
    obtain ⟨inner, top, e, rfl, there, hnone⟩ := ih
    exact ⟨i :: inner, top, e, rfl, there, hnone⟩

namespace Round

variable {r r' : Round}

/-- The chain of a declaration has what is met on the walk from it. -/
theorem chain_of_walk (h : Walk r.declarations i path) :
    r.chain i = path.filterMap (r.declarations[·]?) :=
  climb_of_walk h h.length_le

/-- And the package is that of the declaration at its end. -/
theorem outermostPackage_of_walk {inner : List Nat} {top : Nat} {d : Declaration}
    (h : Walk r.declarations i (inner ++ [top])) (hget : r.get? top = some d) :
    r.outermostPackage i = d.package := by
  have here : r.declarations[top]? = some d := hget
  rw [outermostPackage, chain_of_walk h, List.filterMap_append, List.filterMap_cons_some here,
    List.filterMap_nil, List.getLast?_concat, Option.elim_some]

/-- **A declaration that is found elsewhere has its names there**: the
simple names on the way to it, and the package around them. -/
theorem names_of_relocates (h : Relocates place r.declarations r'.declarations)
    (hi : i < r.size) :
    r'.path (place i) = r.path i ∧ r'.outermostPackage (place i) = r.outermostPackage i := by
  obtain ⟨path, hpath⟩ := exists_walk hi
  have hpath' : Walk r'.declarations (place i) (path.map place) := hpath.relocate h
  constructor
  · have hname : ∀ k ∈ path,
        (r'.declarations[place k]?).map (·.name) = (r.declarations[k]?).map (·.name) := by
      intro k hk
      have here := List.getElem?_eq_getElem (hpath.lt_length hk)
      obtain ⟨d', here', hname, -⟩ := h k _ here
      rw [here, here', Option.map_some, Option.map_some, hname]
    rw [Round.path, Round.path, List.map_reverse, List.map_reverse, chain_of_walk hpath,
      chain_of_walk hpath', List.map_filterMap, List.map_filterMap, List.filterMap_map]
    exact congrArg List.reverse (List.filterMap_congr hname)
  · obtain ⟨inner, top, d, rfl, here, hnone⟩ := hpath.exists_outermost
    obtain ⟨d', here', -, -, hpackage⟩ := h top d here
    rw [List.map_append] at hpath'
    rw [outermostPackage_of_walk hpath here, outermostPackage_of_walk hpath' here', hpackage hnone]

/-- So it has its dotted name there. -/
theorem qualifiedName_of_relocates (h : Relocates place r.declarations r'.declarations)
    (hi : i < r.size) : r'.qualifiedName (place i) = r.qualifiedName i := by
  obtain ⟨hpath, hpackage⟩ := names_of_relocates h hi
  rw [qualifiedName_eq, qualifiedName_eq, hpath, hpackage]

/-- The declarations of a round are found in every round that extends it,
where they were. -/
theorem Extends.relocates (h : Extends r r') : Relocates id r.declarations r'.declarations := by
  intro i d here
  have hi : i < r.size := (List.getElem?_eq_some_iff.1 here).1
  have there : r'.declarations[i]? = some d := (h.get?_chain hi).1.trans here
  exact ⟨d, there, rfl, Option.map_id_apply.symm, fun _ => rfl⟩

end Round

end Companion
