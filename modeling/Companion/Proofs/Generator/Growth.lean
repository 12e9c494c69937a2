import Companion.Proofs.Generator.Outcome

/-!
# Growth — what one more declaration adds

A declaration that is added to a round comes behind the others, and its
link leads to one of them. So the others keep their names, their place
among those of one name and their companions, and the output of the round
only grows (`process_add`): by what the new declaration adds, which is
nothing unless it is the first of its name.
-/

namespace Companion

namespace Settings

variable {s : Settings} {r r' : Round} {d : Declaration}

/-- A round keeps the markers of its declarations when it is extended. -/
theorem isMarked_of_extends (h : r.Extends r') {i : Nat} (hi : i < r.size) :
    r'.isMarked i = r.isMarked i := by
  rw [Round.isMarked, Round.isMarked, (h.get?_chain hi).1]

/-- **What the declarations of a round add, they add to every round that
extends it.** -/
theorem share_of_extends (h : r.Extends r') {i : Nat} (hi : i < r.size) :
    s.share r' i = s.share r i := by
  have hfirst := isFirst_iff_of_relocates h.relocates (fun j hj => isMarked_of_extends h hj) hi
  refine share_of_relocates h.relocates hi hfirst fun d d' _ hget hget' => ?_
  have hsame : d = d' := Option.some.inj (hget.symm.trans ((h.get?_chain hi).1.symm.trans hget'))
  exact hsame ▸ Declaration.alike_of_eq rfl rfl

/-- The declaration that is added is the first of its name when it carries
the marker and no earlier one that does has its name. -/
theorem isFirst_add_iff (h : r.Extends r') (hget : r'.get? r.size = some d) :
    r'.IsFirst r.size ↔ d.isEntity = true ∧ ∀ i < r.size, r.isMarked i = true →
      r.qualifiedName i ≠ r'.qualifiedName r.size := by
  rw [Round.IsFirst, Round.isMarked, hget, Option.any_some]
  refine and_congr_right fun _ => forall₂_congr fun i hi => ?_
  have hname : r'.qualifiedName i = r.qualifiedName i :=
    Round.qualifiedName_of_relocates h.relocates hi
  rw [isMarked_of_extends h hi, hname]

/-- **One more declaration never disturbs what is there**: the artifacts and
the diagnostics of the round stay as they are, and at most one of each
comes behind them. Something comes when the declaration carries the
marker and no earlier one that does has its dotted name: its artifact,
with a warning if its key is ignored, or an error if it has no eligible
field. -/
theorem process_add (s : Settings) (r r' : Round) (d : Declaration) (h : r.add d = .ok r') :
    let name := r'.qualifiedName r.size
    ∃ added : Output,
      (s.process r').artifacts = (s.process r).artifacts ++ added.artifacts ∧
      (s.process r').diagnostics = (s.process r).diagnostics ++ added.diagnostics ∧
      added.artifacts.length ≤ 1 ∧ added.diagnostics.length ≤ 1 ∧
      (added ≠ {} ↔ d.isEntity = true ∧
        ∀ i < r.size, r.isMarked i = true → r.qualifiedName i ≠ name) ∧
      (added ≠ {} → added =
        if d.eligible = [] then ⟨[], [.nothingEligible name]⟩
        else ⟨[(s.companionOf r' r.size d).artifact s.layout],
          if d.IgnoresKey then [.keyIgnored name d.mark.primaryKey] else []⟩) := by
  intro name
  obtain ⟨-, hds⟩ := Round.add_eq_ok_iff.1 h
  have hextends : r.Extends r' := by
    rw [Round.Extends, hds]
    exact List.prefix_append _ _
  have hsize : r'.size = r.size + 1 := by
    rw [Round.size, hds, List.length_append, List.length_singleton, Round.size]
  have hget : r'.get? r.size = some d := by
    rw [Round.get?, hds, Round.size, List.getElem?_concat_length]
  have hprocess : s.process r' = ⟨(s.process r).artifacts ++ (s.share r' r.size).artifacts,
      (s.process r).diagnostics ++ (s.share r' r.size).diagnostics⟩ := by
    have hbefore : (List.range r.size).map (s.share r') = (List.range r.size).map (s.share r) :=
      List.map_congr_left fun i hi => share_of_extends hextends (List.mem_range.1 hi)
    have hlast : Output.join [s.share r' r.size] = s.share r' r.size := by simp [Output.join]
    rw [process_eq_join s r', hsize, List.range_succ, List.map_append, Output.join_append,
      List.map_singleton, hbefore, hlast, ← process_eq_join]
  refine ⟨s.share r' r.size, by rw [hprocess], by rw [hprocess], ?_⟩
  rw [← isFirst_add_iff hextends hget, share]
  by_cases hfirst : r'.IsFirst r.size
  · rw [if_pos hfirst, outcome_eq hget]
    by_cases hfields : d.eligible = []
    · simp [hfirst, hfields, name]
    · by_cases hkey : d.IgnoresKey
      · simp [hfirst, hfields, hkey, name]
      · simp [hfirst, hfields, hkey]
  · simp [hfirst]

/-- A receipt inside the order. Its key is listed among the fields that are
not persisted. -/
def receipt : Declaration where
  name := "Receipt"
  enclosing := some 0
  fields := [{ name := "number", type := .primitive .long }]
  entity := some { primaryKey := "number", ignores := ["number"] }

/-- The round of the order and the receipt. -/
def receipts : Round where
  declarations := [order, receipt]
  ends := ends_of_all rfl

/-- The receipt adds an artifact and a warning. -/
theorem process_add_receipt : orders.add receipt = .ok receipts ∧
    ∃ a, (({} : Settings).process receipts).artifacts
        = (({} : Settings).process orders).artifacts ++ [a] ∧
      (({} : Settings).process receipts).diagnostics
        = (({} : Settings).process orders).diagnostics
          ++ [.keyIgnored ⟨"shop.Order.Receipt"⟩ "number"] := by
  have hadd : orders.add receipt = .ok receipts :=
    Round.add_eq_ok_iff.2 ⟨by simp [receipt, orders, Round.size], rfl⟩
  obtain ⟨added, hartifacts, hdiagnostics, -, -, hnew, hadded⟩ :=
    process_add {} orders receipts receipt hadd
  have hname : receipts.qualifiedName orders.size = ⟨"shop.Order.Receipt"⟩ := by decide +kernel
  have hsome : added ≠ {} := hnew.2 (by decide +kernel)
  rw [hadded hsome, hname] at hartifacts hdiagnostics
  exact ⟨hadd, _, hartifacts, hdiagnostics⟩

end Settings

end Companion
