import Companion.Proofs.Round.Discovery
import Companion.Proofs.Round.Names
import Companion.Proofs.Sink.Delivery

/-!
# Which companions get in each other's way

Entities are told apart by their dotted names, but companions are filed
under names that are joined with underscores. `A.B` and `A_B` are
different entities with one companion name, and the second companion is
refused by the sink. That is the only way in which a round can lose one
(`nodup_names_iff`): without underscores in its names it loses none.
-/

namespace Companion

open Text

/-- A companion's name is told by its dotted text when its simple name
holds no dot. -/
theorem CompanionName.eq_of_qualified_eq {n m : CompanionName} (hn : '.' ∉ n.simpleName.toList)
    (hm : '.' ∉ m.simpleName.toList) (h : n.qualified = m.qualified) : n = m := by
  obtain ⟨p, s⟩ := n
  obtain ⟨q, t⟩ := m
  rw [qualified, qualified] at h
  split at h <;> split at h
  · next hp hq => simp_all
  · next hp hq =>
    subst h
    simp at hn
  · next hp hq =>
    subst h
    simp at hm
  · next hp hq =>
    have hlists : p.toList ++ '.' :: s.toList = q.toList ++ '.' :: t.toList := by
      simpa using congrArg String.toList h
    obtain ⟨hpackage, hsimple⟩ := append_dot_inj hn hm hlists
    have hp : p = q := String.toList_inj.1 hpackage
    have hs : s = t := String.toList_inj.1 hsimple
    rw [hp, hs]

/-- Parts without underscores are told by their join. -/
theorem Text.eq_of_intercalate_eq {ns ms : List String} (hns : ns ≠ []) (hms : ms ≠ [])
    (hn : ∀ n ∈ ns, '_' ∉ n.toList) (hm : ∀ m ∈ ms, '_' ∉ m.toList)
    (h : "_".intercalate ns = "_".intercalate ms) : ns = ms := by
  have hsplit {l : List String} (hl : l ≠ []) (hu : ∀ n ∈ l, '_' ∉ n.toList) :
      ("_".intercalate l).toList.splitOn '_' = l.map String.toList := by
    rw [String.toList_intercalate]
    refine List.splitOn_intercalate '_' (fun cs hcs => ?_) (by simpa using hl)
    obtain ⟨n, hn, rfl⟩ := List.mem_map.1 hcs
    exact hu n hn
  have hmap := hsplit hns hn
  rw [h, hsplit hms hm] at hmap
  exact (List.map_injective_iff.2 fun _ _ => String.toList_inj.1) hmap.symm

namespace Round

/-- The entities that have an eligible field, so that a companion is generated. -/
def generated (r : Round) : List Nat := r.entities.filter fun id => (r.entity id).toOption.isSome

end Round

namespace Settings

variable {s : Settings} {r : Round} {id : Nat}

/-- The name of the companion of a declaration. -/
def nameOf (s : Settings) (r : Round) (id : Nat) : CompanionName :=
  ⟨r.outermostPackage id, s.leading ++ "_".intercalate (r.path id)⟩

/-- A character that is neither in the leading word, nor in the names
around the declaration, nor an underscore is not in the simple name. -/
theorem notMem_simpleName {c : Char} (hc : c ≠ '_') (hleading : c ∉ s.leading.toList)
    (hnames : ∀ e ∈ r.chain id, c ∉ e.name.toList) : c ∉ (s.nameOf r id).simpleName.toList := by
  rw [nameOf, String.toList_append, List.mem_append, not_or]
  refine ⟨hleading, fun hmem => ?_⟩
  rw [String.toList_intercalate] at hmem
  rcases mem_of_mem_intercalate hmem with ⟨cs, hcs, hmem⟩ | hmem
  · simp only [Round.path, List.mem_map, List.mem_reverse] at hcs
    obtain ⟨name, ⟨e, he, rfl⟩, rfl⟩ := hcs
    exact hnames e he hmem
  · exact hc (by simpa using hmem)

/-- A declaration gives the artifact of its companion, or none when it has
no eligible field. -/
theorem names_outcome (h : id ∈ r.entities) : (s.outcome r id).artifacts.map (·.name)
    = if (r.entity id).toOption.isSome then [(s.nameOf r id).qualified] else [] := by
  obtain ⟨d, hget, -⟩ := Round.exists_of_mem_entities h
  cases hentity : r.entity id with
  | error e =>
    rw [outcome, generate, hentity]
    rfl
  | ok e =>
    rw [outcome, generate, companion, hentity, Round.companionName_eq hget]
    rfl

/-- **The artifacts of a round are the companions of its entities**, in
their order. -/
theorem names_process (s : Settings) (r : Round) :
    (s.process r).artifacts.map (·.name) = r.generated.map fun id => (s.nameOf r id).qualified := by
  have hlist : ∀ ids : List Nat, (∀ id ∈ ids, id ∈ r.entities) →
      ((ids.map (s.outcome r)).flatMap (·.artifacts)).map (·.name)
        = (ids.filter fun id => (r.entity id).toOption.isSome).map
            fun id => (s.nameOf r id).qualified := by
    intro ids hids
    induction ids with
    | nil => rfl
    | cons id ids ih =>
      rw [List.map_cons, List.flatMap_cons, List.map_append, names_outcome (hids id (by simp)),
        ih fun k hk => hids k (List.mem_cons_of_mem id hk), List.filter_cons]
      split <;> simp
  exact hlist r.entities fun _ hid => hid

section Identifiers

variable (hleading : isIdentifier s.leading.toList = true)
variable (hnames : ∀ d ∈ r.declarations, isIdentifier d.name.toList = true)
include hleading hnames

/-- The simple name of a companion holds no dot. -/
theorem dot_notMem_nameOf (id : Nat) : '.' ∉ (s.nameOf r id).simpleName.toList :=
  notMem_simpleName (by decide) (not_mem_of_isIdentifier isNameChar_dot hleading) fun e he =>
    not_mem_of_isIdentifier isNameChar_dot (hnames e (Round.mem_of_mem_chain he))

/-- Two companions have one name exactly when their packages are the same
and the names on the way to them are joined to the same text. -/
theorem qualified_nameOf_eq_iff {i j : Nat} :
    (s.nameOf r i).qualified = (s.nameOf r j).qualified ↔
      r.outermostPackage i = r.outermostPackage j ∧
        "_".intercalate (r.path i) = "_".intercalate (r.path j) := by
  constructor
  · intro h
    have hname := CompanionName.eq_of_qualified_eq (dot_notMem_nameOf hleading hnames i)
      (dot_notMem_nameOf hleading hnames j) h
    rw [nameOf, nameOf, CompanionName.mk.injEq] at hname
    refine ⟨hname.1, ?_⟩
    have hlists := congrArg String.toList hname.2
    rw [String.toList_append, String.toList_append] at hlists
    exact String.toList_inj.1 (List.append_cancel_left hlists)
  · rintro ⟨hpackage, hjoined⟩
    rw [nameOf, nameOf, hpackage, hjoined]

/-- **Companions get in each other's way** when the names on the way to
them are joined to the same text, and in no other case. -/
theorem nodup_names_iff : ((s.process r).artifacts.map (·.name)).Nodup ↔
    ∀ i ∈ r.generated, ∀ j ∈ r.generated, r.outermostPackage i = r.outermostPackage j →
      "_".intercalate (r.path i) = "_".intercalate (r.path j) → i = j := by
  have hgenerated : r.generated.Nodup := r.nodup_entities.filter _
  rw [names_process, List.nodup_map_iff_inj_on hgenerated]
  constructor
  · intro h i hi j hj hpackage hjoined
    exact h i hi j hj ((qualified_nameOf_eq_iff hleading hnames).2 ⟨hpackage, hjoined⟩)
  · intro h i hi j hj hsame
    obtain ⟨hpackage, hjoined⟩ := (qualified_nameOf_eq_iff hleading hnames).1 hsame
    exact h i hi j hj hpackage hjoined

/-- **Names without underscores join to different texts**: joined to the
same text they are the same names, and those of one entity. -/
theorem nodup_names_of_forall (hplain : ∀ d ∈ r.declarations, '_' ∉ d.name.toList) :
    ((s.process r).artifacts.map (·.name)).Nodup := by
  refine (nodup_names_iff hleading hnames).2 fun i hi j hj hpackage hjoined => ?_
  -- the same package and the same path make the same dotted name, which no two entities have
  have hi := (List.mem_filter.1 hi).1
  have hj := (List.mem_filter.1 hj).1
  obtain ⟨d, hd, -⟩ := Round.exists_of_mem_entities hi
  obtain ⟨e, he, -⟩ := Round.exists_of_mem_entities hj
  have hpath : ∀ k, ∀ n ∈ r.path k, '_' ∉ n.toList := by
    intro k n hn
    obtain ⟨d, hd, rfl⟩ := Round.exists_of_mem_path hn
    exact hplain d hd
  have hsame : r.path i = r.path j := eq_of_intercalate_eq (Round.path_ne_nil hd)
    (Round.path_ne_nil he) (hpath i) (hpath j) hjoined
  refine Round.eq_of_qualifiedName_eq hi hj ?_
  rw [Round.qualifiedName_eq, Round.qualifiedName_eq, hpackage, hsame]

end Identifiers

/-- **A round loses no companion** exactly when their names are different:
then an empty sink keeps every artifact as it is, and nothing is added to
the diagnostics of the round. -/
theorem run_empty_iff (s : Settings) (r : Round) :
    ((s.process r).artifacts.map (·.name)).Nodup ↔
      (s.run r ({} : MemorySink)).1 = s.process r ∧
        (s.run r ({} : MemorySink)).2.artifacts = (s.process r).artifacts := by
  constructor
  · intro h
    obtain ⟨sink', hdeliver, hsink'⟩ := deliver_of_nodup {} (s.process r).artifacts h
    rw [run, hdeliver]
    exact ⟨by simp, hsink'⟩
  · rintro ⟨-, hkept⟩
    rw [← hkept]
    exact (s.run r ({} : MemorySink)).2.distinct

/-- **Which companions a round loses**: with identifiers for names, those
of different entities in one outermost package whose names, from the
outermost declaration inwards, are joined with underscores to the same
text. If there are none, as when no name holds an underscore, an empty
sink keeps every artifact as it is and gives no warning. -/
theorem loses_no_companion_iff (s : Settings) (r : Round)
    (hleading : isIdentifier s.leading.toList = true)
    (hnames : ∀ d ∈ r.declarations, isIdentifier d.name.toList = true) :
    (((s.process r).artifacts.map (·.name)).Nodup ↔
      ∀ i ∈ r.generated, ∀ j ∈ r.generated, r.outermostPackage i = r.outermostPackage j →
        "_".intercalate (r.path i) = "_".intercalate (r.path j) → i = j) ∧
    ((∀ d ∈ r.declarations, '_' ∉ d.name.toList) →
      ((s.process r).artifacts.map (·.name)).Nodup) ∧
    (((s.process r).artifacts.map (·.name)).Nodup ↔
      (s.run r ({} : MemorySink)).1 = s.process r ∧
        (s.run r ({} : MemorySink)).2.artifacts = (s.process r).artifacts) :=
  ⟨nodup_names_iff hleading hnames, nodup_names_of_forall hleading hnames, run_empty_iff s r⟩

/-- `A` with the entity `B` inside, and next to it a further entity of the
given name. -/
def neighbours (name : String) : Round where
  declarations := [{ name := "A", package := "p" },
    { name := "B", enclosing := some 0, fields := [{ name := "id", type := .primitive .long }],
      entity := some {} },
    { name := name, package := "p", fields := [{ name := "code", type := .primitive .int }],
      entity := some {} }]
  ends i hi := by
    rcases i with - | - | - | i
    · exact .outermost rfl rfl
    · exact .inside rfl rfl (.outermost rfl rfl)
    · exact .outermost rfl rfl
    · simp only [List.length_cons, List.length_nil] at hi
      omega

/-- The entity `C` next to `A.B` takes nothing from it. -/
theorem loses_no_companion_neighbours :
    (({} : Settings).run (neighbours "C") ({} : MemorySink)).2.artifacts
      = (({} : Settings).process (neighbours "C")).artifacts := by
  have h := loses_no_companion_iff {} (neighbours "C") (by decide +kernel) (by decide +kernel)
  exact (h.2.2.1 (h.2.1 (by decide +kernel))).2

/-- But the entity `A_B` does: both companions are named `p.RealmA_B`, and
an empty sink keeps one of them. -/
theorem loses_companion_neighbours :
    isIdentifier ({} : Settings).leading.toList = true ∧
    (∀ d ∈ (neighbours "A_B").declarations,
      isIdentifier d.name.toList = true ∧ isPackage d.package.toList = true) ∧
    ¬ ((({} : Settings).process (neighbours "A_B")).artifacts.map (·.name)).Nodup ∧
    (({} : Settings).process (neighbours "A_B")).artifacts.map (·.name)
      = ["p.RealmA_B", "p.RealmA_B"] ∧
    (({} : Settings).run (neighbours "A_B") ({} : MemorySink)).2.artifacts.length = 1 := by
  decide +kernel

end Settings

end Companion
