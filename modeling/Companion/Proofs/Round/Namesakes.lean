import Companion.Proofs.Round.Discovery
import Companion.Proofs.Round.Names

/-!
# Namesakes — which entities are dropped

An entity is dropped when an earlier one has its dotted name, and the
first of that name is kept (`notMem_entities_iff`). A dotted name
does not show where the package ends: `p.A.B` is the class `B` of the
package `p.A`, and it is the class `B` inside the class `A` of the package
`p`. Entities of one dotted name are therefore the same by package and
names, or the package of one is named like a class around the other
(`qualifiedName_eq_iff`). When no package is named like a declaration of
the round, only repetitions are dropped (`drops_only_namesakes`).
-/

namespace Companion

open Text

namespace Round

variable {r : Round} {i j : Nat} {d : Declaration}

/-! ## Around a declaration -/

/-- An outermost declaration has its own name and package. -/
theorem path_of_outermost (h : r.get? i = some d) (htop : d.enclosing = none) :
    r.path i = [d.name] := by
  obtain ⟨around, hchain, hclimbs⟩ := exists_chain_eq_cons h
  rw [htop, Option.bind_none] at hclimbs
  cases hclimbs
  rw [path, hchain]
  rfl

/-- The names of a nested one are those of the declaration around it and
then its own, and the package is the same. -/
theorem names_of_inside (h : r.get? i = some d) (hlink : d.enclosing = some j) :
    r.path i = r.path j ++ [d.name] ∧ r.outermostPackage i = r.outermostPackage j := by
  obtain ⟨around, hchain, hclimbs⟩ := exists_chain_eq_cons h
  rw [hlink, Option.bind_some] at hclimbs
  have haround : around = r.chain j := hclimbs.unique (r.climbs_chain j)
  have hlt : j < r.declarations.length := link_lt_size h hlink
  have there : r.get? j = some r.declarations[j] := List.getElem?_eq_getElem hlt
  obtain ⟨further, houter, -⟩ := exists_chain_eq_cons there
  constructor
  · simp [path, hchain, haround]
  · rw [outermostPackage, outermostPackage, hchain, haround, houter, List.getLast?_cons_cons]

/-- **The names in front of a path are the path of a declaration around**, or
of the declaration itself. -/
theorem exists_around (hi : i < r.size) {outer inner : List String} (houter : outer ≠ [])
    (hpath : r.path i = outer ++ inner) :
    ∃ k < r.size, r.path k = outer ∧ r.outermostPackage k = r.outermostPackage i := by
  have hends : Ends r.declarations i := r.ends i hi
  induction hends generalizing inner with
  | @outermost i d here top =>
    rcases inner.eq_nil_or_concat' with rfl | ⟨inner, n, rfl⟩
    · exact ⟨i, hi, hpath.trans (List.append_nil _), rfl⟩
    · rw [path_of_outermost here top, ← List.append_assoc] at hpath
      obtain ⟨hnil, -⟩ := List.append_inj' (show [] ++ [d.name] = _ from hpath) rfl
      exact absurd (List.append_eq_nil_iff.1 hnil.symm).1 houter
  | @inside i j d here link _ ih =>
    rcases inner.eq_nil_or_concat' with rfl | ⟨inner, n, rfl⟩
    · exact ⟨i, hi, hpath.trans (List.append_nil _), rfl⟩
    · obtain ⟨hnames, hpackage⟩ := names_of_inside here link
      rw [hnames, ← List.append_assoc] at hpath
      rw [hpackage]
      exact ih (link_lt_size here link) (List.append_inj' hpath rfl).1

/-! ## Entities of one dotted name -/

/-- **The package of the declaration at `j` is named like a class around the
one at `i`**, and the names from that class inwards are those that the
other has in its package. -/
def InPackageOfClass (r : Round) (i j : Nat) : Prop :=
  ∃ outer : List String, outer ≠ [] ∧
    r.outermostPackage j = dotted (r.outermostPackage i) outer ∧ r.path i = outer ++ r.path j

/-- Its dotted name is then the same. -/
theorem InPackageOfClass.qualifiedName_eq (h : r.InPackageOfClass i j) :
    r.qualifiedName i = r.qualifiedName j := by
  obtain ⟨outer, -, hpackage, hpath⟩ := h
  rw [Round.qualifiedName_eq, Round.qualifiedName_eq, hpackage, hpath]
  simp [QualifiedName.ofParts, dotted]

/-- And the package is the dotted name of a declaration of the round. -/
theorem InPackageOfClass.exists_declaration (h : r.InPackageOfClass i j) (hi : i < r.size) :
    ∃ k < r.size, (r.qualifiedName k).text = r.outermostPackage j := by
  obtain ⟨outer, houter, hpackage, hpath⟩ := h
  obtain ⟨k, hk, hpathk, hpackagek⟩ := exists_around hi houter hpath
  refine ⟨k, hk, ?_⟩
  rw [Round.qualifiedName_eq, hpathk, hpackagek, hpackage]
  rfl

section Identifiers

variable (hnames : ∀ d ∈ r.declarations, isIdentifier d.name.toList = true)
variable (hpackages : ∀ d ∈ r.declarations, isPackage d.package.toList = true)
include hnames

/-- Then the names of every path are identifiers. -/
theorem isIdentifier_of_mem_path {n : String} (h : n ∈ r.path i) :
    isIdentifier n.toList = true := by
  obtain ⟨d, hd, rfl⟩ := exists_of_mem_path h
  exact hnames d hd

/-- Where the segments of one package go on in those of another for some of
the names, the other package is named like a class. -/
theorem same_or_inPackageOfClass {outer : List (List Char)}
    (hsegments : segments (r.outermostPackage j).toList
      = segments (r.outermostPackage i).toList ++ outer)
    (hpath : (r.path i).map String.toList = outer ++ (r.path j).map String.toList) :
    (r.outermostPackage i = r.outermostPackage j ∧ r.path i = r.path j) ∨
      r.InPackageOfClass i j := by
  obtain ⟨classes, inner, hsplit, rfl, hinner⟩ := List.map_eq_append_iff.1 hpath
  have hpathj : inner = r.path j :=
    List.map_injective_iff.2 (fun _ _ => String.toList_inj.1) hinner
  subst hpathj
  by_cases hnone : classes = []
  · subst hnone
    have hsame : (r.outermostPackage i).toList = (r.outermostPackage j).toList := by
      rw [← intercalate_segments (r.outermostPackage i).toList, ← intercalate_segments
        (r.outermostPackage j).toList, hsegments, List.map_nil, List.append_nil]
    exact Or.inl ⟨String.toList_inj.1 hsame, hsplit⟩
  · refine Or.inr ⟨classes, hnone, ?_, hsplit⟩
    have hclasses : ∀ n ∈ classes, isIdentifier n.toList = true := fun n hn =>
      isIdentifier_of_mem_path hnames (hsplit ▸ List.mem_append_left _ hn)
    rw [← String.toList_inj, toList_dotted hnone hclasses, ← hsegments, intercalate_segments]

include hpackages

/-- The dots of a dotted name are those of the package and those between
the names. -/
theorem splitOn_qualifiedName (hget : r.get? i = some d) :
    (r.qualifiedName i).text.toList.splitOn '.'
      = segments (r.outermostPackage i).toList ++ (r.path i).map String.toList := by
  obtain ⟨e, he, hpackage⟩ := exists_of_outermostPackage hget
  have hpackage : isPackage (r.outermostPackage i).toList = true := hpackage ▸ hpackages e he
  exact splitOn_dotted (path_ne_nil hget) hpackage fun n hn => isIdentifier_of_mem_path hnames hn

/-- **Declarations of one dotted name** have the same package and names, or
the package of one is named like a class around the other. -/
theorem qualifiedName_eq_iff {e : Declaration} (hi : r.get? i = some d) (hj : r.get? j = some e) :
    r.qualifiedName i = r.qualifiedName j ↔
      (r.outermostPackage i = r.outermostPackage j ∧ r.path i = r.path j) ∨
        r.InPackageOfClass i j ∨ r.InPackageOfClass j i := by
  constructor
  · intro h
    have hjoined : segments (r.outermostPackage i).toList ++ (r.path i).map String.toList
        = segments (r.outermostPackage j).toList ++ (r.path j).map String.toList := by
      rw [← splitOn_qualifiedName hnames hpackages hi, h, splitOn_qualifiedName hnames hpackages hj]
    -- the cut between package and names is in the same place, or behind it on one side
    rcases List.append_eq_append_iff.1 hjoined with ⟨outer, hsegments, hpath⟩ | ⟨outer, hsegments, hpath⟩
    · exact (same_or_inPackageOfClass hnames hsegments hpath).imp_right Or.inl
    · rcases same_or_inPackageOfClass hnames hsegments hpath with ⟨hpackage, hnames⟩ | hclass
      · exact Or.inl ⟨hpackage.symm, hnames.symm⟩
      · exact Or.inr (Or.inr hclass)
  · rintro (⟨hpackage, hpath⟩ | hclass | hclass)
    · rw [Round.qualifiedName_eq, Round.qualifiedName_eq, hpackage, hpath]
    · exact hclass.qualifiedName_eq
    · exact hclass.qualifiedName_eq.symm

end Identifiers

/-- **Which entities are dropped**: with identifiers for names and dotted
identifiers for packages, those before which there is an entity with the
same package and the same names from the outermost declaration inwards,
or one that has the same dotted name because the package of one of the
two is named like a class around the other. When no package is the dotted
name of a declaration of the round, the latter are not there, and only
repetitions are dropped. -/
theorem drops_only_namesakes (r : Round)
    (hnames : ∀ d ∈ r.declarations, isIdentifier d.name.toList = true)
    (hpackages : ∀ d ∈ r.declarations, isPackage d.package.toList = true) :
    (∀ j, r.isMarked j = true → (j ∉ r.entities ↔ ∃ i ∈ r.entities, i < j ∧
      ((r.outermostPackage i = r.outermostPackage j ∧ r.path i = r.path j) ∨
        r.InPackageOfClass i j ∨ r.InPackageOfClass j i))) ∧
    ((∀ i < r.size, ∀ k < r.size, r.outermostPackage i ≠ (r.qualifiedName k).text) →
      ∀ j, r.isMarked j = true → j ∉ r.entities →
        ∃ i ∈ r.entities, i < j ∧
          r.outermostPackage i = r.outermostPackage j ∧ r.path i = r.path j) := by
  have hdropped : ∀ j, r.isMarked j = true → (j ∉ r.entities ↔ ∃ i ∈ r.entities, i < j ∧
      ((r.outermostPackage i = r.outermostPackage j ∧ r.path i = r.path j) ∨
        r.InPackageOfClass i j ∨ r.InPackageOfClass j i)) := by
    intro j hj
    obtain ⟨e, hgetj, -⟩ := (Option.any_eq_true _ _).1 hj
    rw [notMem_entities_iff hj]
    refine exists_congr fun i => and_congr_right fun hi => and_congr_right fun _ => ?_
    obtain ⟨d, hgeti, -⟩ := exists_of_mem_entities hi
    exact qualifiedName_eq_iff hnames hpackages hgeti hgetj
  refine ⟨hdropped, fun hclash j hj hnot => ?_⟩
  obtain ⟨i, hi, hlt, hsame | hclass | hclass⟩ := (hdropped j hj).1 hnot
  · exact ⟨i, hi, hlt, hsame⟩
  · obtain ⟨k, hk, hname⟩ := hclass.exists_declaration (mem_entities_iff.1 hi).1
    exact absurd hname.symm (hclash j (lt_size_of_isMarked hj) k hk)
  · obtain ⟨k, hk, hname⟩ := hclass.exists_declaration (lt_size_of_isMarked hj)
    exact absurd hname.symm (hclash i (mem_entities_iff.1 hi).1 k hk)

/-- The class `B` of the given package, and the class `B` inside the class
`A` of the package `p`. -/
def twins (package : String) : Round where
  declarations := [
    { name := "B", package := package,
      fields := [{ name := "id", type := .primitive .long }], entity := some {} },
    { name := "A", package := "p" },
    { name := "B", enclosing := some 1,
      fields := [{ name := "code", type := .primitive .int }], entity := some {} },
    { name := "B", enclosing := some 1, entity := some {} }]
  ends := ends_of_all rfl

/-- In the package `p.B` the class is another one than `p.A.B`, and of the
two declarations of the latter the second is dropped. -/
theorem drops_only_namesakes_twins : (twins "p.B").entities = [0, 2] ∧
    ∃ i ∈ (twins "p.B").entities, i < 3 ∧
      (twins "p.B").outermostPackage i = (twins "p.B").outermostPackage 3 ∧
      (twins "p.B").path i = (twins "p.B").path 3 := by
  have h := drops_only_namesakes (twins "p.B") (by decide +kernel) (by decide +kernel)
  exact ⟨by decide +kernel, h.2 (by decide +kernel) 3 (by decide +kernel) (by decide +kernel)⟩

/-- In the package `p.A` it has the dotted name of the class inside `A`,
which is dropped although its package and its names are not those of any
entity that is kept. -/
theorem drops_other_than_repetitions :
    Round.ofDeclarations (twins "p.A").declarations = .ok (twins "p.A") ∧
    (∀ d ∈ (twins "p.A").declarations,
      isIdentifier d.name.toList = true ∧ isPackage d.package.toList = true) ∧
    (twins "p.A").isMarked 2 = true ∧ 2 ∉ (twins "p.A").entities ∧
    ¬ ∃ i ∈ (twins "p.A").entities, i < 2 ∧
      (twins "p.A").outermostPackage i = (twins "p.A").outermostPackage 2 ∧
      (twins "p.A").path i = (twins "p.A").path 2 := by
  refine ⟨ofDeclarations_eq_ok _, ?_⟩
  decide +kernel

end Round

end Companion
