import Companion.Proofs.Generator.Outcome

/-!
# Accounting — every entity is accounted for once

The entities of a round are met in their order, and each leaves behind
the artifact of its companion, perhaps with a warning, or an error.
`Accounts` is this walk over entities, with what they leave; a round
gives just that (`accounts_process`), so artifacts and errors are counted
by the entities, and all of them bear the name of one
(`Accounts.exists_origin`). A declaration can be revised without a change
to the names of a round (`Round.revise`), and the revision shows under its
own name only (`filter_process_revise`).
-/

namespace Companion

namespace Settings

variable {s : Settings} {r : Round} {ids : List Nat} {as : List Artifact} {ds : List Diagnostic}

/-! ## What the entities leave -/

/-- **A walk over entities**, with the artifacts and the diagnostics that
they leave behind, in their order. -/
inductive Accounts (s : Settings) (r : Round) : List Nat → List Artifact → List Diagnostic → Prop
  /-- No entity is left. -/
  | done : Accounts s r [] [] []
  /-- An entity with an eligible field leaves one artifact, and a warning if
  its key is ignored. -/
  | generated {id : Nat} {ids : List Nat} {d : Declaration} {a : Artifact} {as : List Artifact}
      {warnings ds : List Diagnostic} :
      r.get? id = some d → d.eligible ≠ [] → s.generate r id = .ok (a, warnings) →
      a.originating = r.qualifiedName id →
      warnings =
        (if d.IgnoresKey then [.keyIgnored (r.qualifiedName id) d.mark.primaryKey] else []) →
      Accounts s r ids as ds → Accounts s r (id :: ids) (a :: as) (warnings ++ ds)
  /-- One without leaves an error. -/
  | failed {id : Nat} {ids : List Nat} {d : Declaration} {as : List Artifact}
      {ds : List Diagnostic} :
      r.get? id = some d → d.eligible = [] →
      s.generate r id = .error (.noEligibleFields (r.qualifiedName id)) →
      Accounts s r ids as ds →
      Accounts s r (id :: ids) as (.nothingEligible (r.qualifiedName id) :: ds)

/-- What a round gives, entity by entity. -/
theorem process_eq (s : Settings) (r : Round) : s.process r =
    ⟨r.entities.flatMap fun id => (s.outcome r id).artifacts,
      r.entities.flatMap fun id => (s.outcome r id).diagnostics⟩ := by
  rw [process, List.flatMap_map, List.flatMap_map]

/-- Declarations of the round leave what they come to. -/
theorem accounts_outcomes (hids : ∀ id ∈ ids, ∃ d, r.get? id = some d) :
    s.Accounts r ids (ids.flatMap fun id => (s.outcome r id).artifacts)
      (ids.flatMap fun id => (s.outcome r id).diagnostics) := by
  induction ids with
  | nil => exact .done
  | cons id ids ih =>
    have hrest := ih fun k hk => hids k (List.mem_cons_of_mem id hk)
    obtain ⟨d, hget⟩ := hids id List.mem_cons_self
    rw [List.flatMap_cons, List.flatMap_cons, outcome_eq hget]
    by_cases hfields : d.eligible = []
    · rw [if_pos hfields]
      exact .failed hget hfields (generate_of_not_eligible hget hfields) hrest
    · rw [if_neg hfields]
      refine .generated hget hfields ?_ rfl rfl hrest
      rw [generate_of_eligible hget hfields]
      simp only [ignoresPrimaryKey_ofDeclaration]
      rfl

/-- **A round gives what its entities leave.** -/
theorem accounts_process (s : Settings) (r : Round) :
    s.Accounts r r.entities (s.process r).artifacts (s.process r).diagnostics := by
  rw [process_eq]
  refine accounts_outcomes fun id hid => ?_
  obtain ⟨d, hget, -⟩ := Round.exists_of_mem_entities hid
  exact ⟨d, hget⟩

namespace Accounts

/-- **Each leaves one artifact or one error.** -/
theorem length_add_length (h : s.Accounts r ids as ds) :
    as.length + (ds.filter Diagnostic.isError).length = ids.length := by
  induction h with
  | done => rfl
  | @generated id ids d a as warnings ds _ _ _ _ hwarnings _ ih =>
    have hnone : warnings.filter Diagnostic.isError = [] := by
      rw [hwarnings]
      split <;> rfl
    rw [List.filter_append, hnone, List.nil_append, List.length_cons, List.length_cons]
    omega
  | @failed id ids d as ds _ _ _ _ ih =>
    have herror : (Diagnostic.nothingEligible (r.qualifiedName id)).isError = true := rfl
    rw [List.filter_cons_of_pos herror, List.length_cons, List.length_cons]
    omega

/-- **There is an error when one has no eligible field**, and only then. -/
theorem any_isError_iff (h : s.Accounts r ids as ds) :
    ds.any Diagnostic.isError = true ↔ ∃ id ∈ ids, ∃ d, r.get? id = some d ∧ d.eligible = [] := by
  induction h with
  | done => simp
  | @generated id ids d a as warnings ds hget hfields _ _ hwarnings _ ih =>
    have hnone : warnings.any Diagnostic.isError = false := by
      rw [hwarnings]
      split <;> rfl
    rw [List.any_append, hnone, Bool.false_or, ih, List.exists_mem_cons_iff]
    refine (or_iff_right ?_).symm
    rintro ⟨e, he, hempty⟩
    exact hfields (Option.some.inj (hget.symm.trans he) ▸ hempty)
  | @failed id ids d as ds hget hfields _ _ ih =>
    exact iff_of_true rfl ⟨id, List.mem_cons_self, d, hget, hfields⟩

/-- **All that is reported is about one of them.** -/
theorem exists_origin (h : s.Accounts r ids as ds) {diagnostic : Diagnostic}
    (hmem : diagnostic ∈ ds) : ∃ id ∈ ids, diagnostic.origin = some (r.qualifiedName id) := by
  induction h with
  | done => cases hmem
  | @generated id ids d a as warnings ds _ _ _ _ hwarnings _ ih =>
    rcases List.mem_append.1 hmem with hmem | hmem
    · rw [hwarnings] at hmem
      split at hmem
      · exact ⟨id, List.mem_cons_self, List.mem_singleton.1 hmem ▸ rfl⟩
      · cases hmem
    · obtain ⟨k, hk, horigin⟩ := ih hmem
      exact ⟨k, List.mem_cons_of_mem id hk, horigin⟩
  | @failed id ids d as ds _ _ _ _ ih =>
    rcases List.mem_cons.1 hmem with rfl | hmem
    · exact ⟨id, List.mem_cons_self, rfl⟩
    · obtain ⟨k, hk, horigin⟩ := ih hmem
      exact ⟨k, List.mem_cons_of_mem id hk, horigin⟩

end Accounts

end Settings

/-! ## One declaration revised -/

/-- The declaration with other fields, and another primary key and other
fields that are not persisted if it carries the marker. -/
def Declaration.revise (fields : List Field) (mark : EntityMark) (d : Declaration) : Declaration :=
  { d with fields := fields, entity := d.entity.map fun _ => mark }

/-- Declarations one of which is revised are found where they were. -/
theorem relocates_modify_revise (ds : List Declaration) (k : Nat) (fields : List Field)
    (mark : EntityMark) : Relocates id ds (ds.modify k (Declaration.revise fields mark)) := by
  intro i d here
  have hthere : (ds.modify k (Declaration.revise fields mark))[i]?
      = some (if k = i then d.revise fields mark else d) := by
    rw [List.getElem?_modify, here]
    rfl
  refine ⟨_, hthere, ?_⟩
  split
  · exact ⟨rfl, Option.map_id_apply.symm, fun _ => rfl⟩
  · exact ⟨rfl, Option.map_id_apply.symm, fun _ => rfl⟩

/-- **The round with the declaration at position `k` revised.** -/
def Round.revise (r : Round) (k : Nat) (fields : List Field) (mark : EntityMark) : Round where
  declarations := r.declarations.modify k (Declaration.revise fields mark)
  ends i hi := by
    rw [List.length_modify] at hi
    exact (r.ends i hi).relocate (relocates_modify_revise r.declarations k fields mark)

namespace Round

variable {r : Round} {k i : Nat} {fields : List Field} {mark : EntityMark}

/-- As many declarations are there. -/
theorem size_revise : (r.revise k fields mark).size = r.size := List.length_modify ..

/-- All others are as they were. -/
theorem get?_revise_of_ne (h : k ≠ i) : (r.revise k fields mark).get? i = r.get? i :=
  List.getElem?_modify_ne _ _ h

/-- They all keep their names. -/
theorem relocates_revise :
    Relocates id r.declarations (r.revise k fields mark).declarations :=
  relocates_modify_revise r.declarations k fields mark

/-- And their markers. -/
theorem isMarked_revise : (r.revise k fields mark).isMarked i = r.isMarked i := by
  have hget : (r.revise k fields mark).get? i
      = (r.get? i).map fun d => if k = i then d.revise fields mark else d :=
    List.getElem?_modify ..
  rw [isMarked, isMarked, hget]
  cases r.get? i with
  | none => rfl
  | some d =>
    rw [Option.map_some, Option.any_some, Option.any_some]
    split
    · cases hentity : d.entity <;> simp [Declaration.revise, Declaration.isEntity, hentity]
    · rfl

/-- **So the same declarations are entities.** -/
theorem entities_revise : (r.revise k fields mark).entities = r.entities := by
  rw [entities_eq_filter, entities_eq_filter, size_revise]
  refine List.filter_congr fun i hi => ?_
  exact decide_eq_decide.2 (Settings.isFirst_iff_of_relocates relocates_revise
    (fun j _ => isMarked_revise) (List.mem_range.1 hi))

end Round

namespace Settings

variable {s : Settings} {r : Round} {i k : Nat} {fields : List Field} {mark : EntityMark}

/-- What a declaration comes to bears its dotted name. -/
theorem origins_outcome {d : Declaration} (hget : r.get? i = some d) :
    (∀ a ∈ (s.outcome r i).artifacts, a.originating = r.qualifiedName i) ∧
      ∀ diagnostic ∈ (s.outcome r i).diagnostics,
        diagnostic.origin = some (r.qualifiedName i) := by
  rw [outcome_eq hget]
  split
  · exact ⟨nofun, fun _ h => List.mem_singleton.1 h ▸ rfl⟩
  · refine ⟨fun _ h => List.mem_singleton.1 h ▸ rfl, fun _ h => ?_⟩
    split at h
    · exact List.mem_singleton.1 h ▸ rfl
    · cases h

/-- What an entity comes to under another name than that of the revised
declaration is what it came to. -/
theorem filter_outcome_revise (hi : i ∈ r.entities) :
    let r' := r.revise k fields mark
    (s.outcome r' i).artifacts.filter (·.originating ≠ r.qualifiedName k)
        = (s.outcome r i).artifacts.filter (·.originating ≠ r.qualifiedName k) ∧
      (s.outcome r' i).diagnostics.filter (·.origin ≠ some (r.qualifiedName k))
        = (s.outcome r i).diagnostics.filter (·.origin ≠ some (r.qualifiedName k)) := by
  intro r'
  have hplace : Relocates id r.declarations r'.declarations := Round.relocates_revise
  obtain ⟨d, hget, -⟩ := Round.exists_of_mem_entities hi
  have hlt : i < r.size := (List.getElem?_eq_some_iff.1 hget).1
  by_cases hk : k = i
  · -- before and after, all of it bears the name of the revised declaration
    subst hk
    obtain ⟨d', hget', -⟩ := hplace k d hget
    have hname : r'.qualifiedName k = r.qualifiedName k := Round.qualifiedName_of_relocates hplace hlt
    obtain ⟨hartifacts, hdiagnostics⟩ := origins_outcome (s := s) hget
    obtain ⟨hartifacts', hdiagnostics'⟩ := origins_outcome (s := s) (r := r') (i := k) hget'
    rw [hname] at hartifacts' hdiagnostics'
    have hnone {α β : Type} [DecidableEq β] {l : List α} {f : α → β} {b : β}
        (h : ∀ a ∈ l, f a = b) : l.filter (fun a => f a ≠ b) = [] :=
      List.filter_eq_nil_iff.2 fun a ha => by simp [h a ha]
    rw [hnone hartifacts, hnone hartifacts', hnone hdiagnostics, hnone hdiagnostics']
    exact ⟨rfl, rfl⟩
  · obtain ⟨hpath, hpackage⟩ := Round.names_of_relocates hplace hlt
    have hsame : s.outcome r' i = s.outcome r i :=
      outcome_congr hget ((Round.get?_revise_of_ne hk).trans hget) hpath hpackage
        (Declaration.alike_of_eq rfl rfl)
    rw [hsame]
    exact ⟨rfl, rfl⟩

/-- **A revision shows under its own name only**: the artifacts and the
diagnostics of all others stay as they are, in their order. -/
theorem filter_process_revise (s : Settings) (r : Round) (k : Nat) (fields : List Field)
    (mark : EntityMark) :
    let r' := r.revise k fields mark
    (s.process r').artifacts.filter (·.originating ≠ r.qualifiedName k)
        = (s.process r).artifacts.filter (·.originating ≠ r.qualifiedName k) ∧
      (s.process r').diagnostics.filter (·.origin ≠ some (r.qualifiedName k))
        = (s.process r).diagnostics.filter (·.origin ≠ some (r.qualifiedName k)) := by
  intro r'
  have hentities : r'.entities = r.entities := Round.entities_revise
  rw [process_eq, process_eq, hentities]
  constructor
  · rw [List.filter_flatMap, List.filter_flatMap]
    exact List.flatMap_congr fun i hi => (filter_outcome_revise hi).1
  · rw [List.filter_flatMap, List.filter_flatMap]
    exact List.flatMap_congr fun i hi => (filter_outcome_revise hi).2

/-! ## The account of a round -/

/-- **Every entity is accounted for once, and failures stay local**: a round
gives what a walk over its entities leaves, an artifact for each that has
an eligible field and an error for each that has none, and nothing else.
So artifacts and errors are as many as entities; the round fails when an
entity has no eligible field, and never for a position it does not have.
A declaration whose fields or marker are revised changes nothing of what
is told of the others. -/
theorem accounts_for_entities (s : Settings) (r : Round) :
    s.Accounts r r.entities (s.process r).artifacts (s.process r).diagnostics ∧
    (s.process r).artifacts.length + (s.process r).errors.length = r.entities.length ∧
    ((s.process r).hasErrors = true ↔
      ∃ id ∈ r.entities, ∃ d, r.get? id = some d ∧ d.eligible = []) ∧
    (∀ index size, .generationFailed (.unknownDeclaration index size)
      ∉ (s.process r).diagnostics) ∧
    ∀ (k : Nat) (fields : List Field) (mark : EntityMark),
      let r' := r.revise k fields mark
      r'.entities = r.entities ∧
      (s.process r').artifacts.filter (·.originating ≠ r.qualifiedName k)
        = (s.process r).artifacts.filter (·.originating ≠ r.qualifiedName k) ∧
      (s.process r').diagnostics.filter (·.origin ≠ some (r.qualifiedName k))
        = (s.process r).diagnostics.filter (·.origin ≠ some (r.qualifiedName k)) := by
  have haccounts := accounts_process s r
  refine ⟨haccounts, haccounts.length_add_length, haccounts.any_isError_iff, ?_, ?_⟩
  · intro index size hmem
    obtain ⟨id, -, horigin⟩ := haccounts.exists_origin hmem
    cases horigin
  · intro k fields mark r'
    exact ⟨Round.entities_revise, filter_process_revise s r k fields mark⟩

/-- An order, an entity without an eligible field, and the receipt inside the
order, whose key is ignored: two artifacts, and an error before the warning. -/
example :
    let order : Declaration :=
      { name := "Order", package := "shop", entity := some {},
        fields := [{ name := "total", type := .primitive .int }] }
    let ghost : Declaration := { name := "Ghost", package := "shop", entity := some {} }
    let key : Field := { name := "number", type := .primitive .long }
    let receipt : Declaration :=
      { name := "Receipt", enclosing := some 0, fields := [key],
        entity := some { primaryKey := "number", ignores := ["number"] } }
    let output := ({} : Settings).process ⟨[order, ghost, receipt], ends_of_all rfl⟩
    output.artifacts.map (·.originating.text) = ["shop.Order", "shop.Order.Receipt"] ∧
      output.diagnostics
        = [.nothingEligible ⟨"shop.Ghost"⟩, .keyIgnored ⟨"shop.Order.Receipt"⟩ "number"] := by
  decide +kernel

end Settings

end Companion
