import Companion.Proofs.Generator.Outcome
import Mathlib.Data.List.FinRange

/-!
# Reordering — the order of submission does not matter

The declarations of a round may come in any order, as long as the links
are led along: `reordered` puts them where a permutation says, which may
turn links that lead back into links that lead forward. The round is
accepted in every order (`exists_round_reordered`). When no two of its
marked declarations have one name, each adds the same in its new place
(`share_reordered`), so the output is the same but for the order, which
is that of the declarations (`process_reordered`). Of two with one name
the first counts, and that depends on the order.
-/

namespace Companion

/-! ## Another order -/

/-- The declaration with its link led along. -/
def Declaration.relink (place : Nat → Nat) (d : Declaration) : Declaration :=
  { d with enclosing := d.enclosing.map place }

/-- Where a permutation takes a position. One that is not there stays. -/
def placeOf {n : Nat} (σ : Equiv.Perm (Fin n)) (i : Nat) : Nat :=
  if h : i < n then σ ⟨i, h⟩ else i

/-- **The declarations in another order**: the one at position `i` goes to
position `σ i`, and the links go where it went. -/
def reordered (ds : List Declaration) (σ : Equiv.Perm (Fin ds.length)) : List Declaration :=
  List.ofFn fun k => (ds.get (σ.symm k)).relink (placeOf σ)

variable {ds : List Declaration}

/-- A permutation takes a position to one of the others. -/
theorem placeOf_val {n : Nat} (σ : Equiv.Perm (Fin n)) (i : Fin n) : placeOf σ i = σ i := by
  rw [placeOf, dif_pos i.isLt]

/-- Each position is where another one is taken to. -/
theorem placeOf_symm_val {n : Nat} (σ : Equiv.Perm (Fin n)) (k : Fin n) :
    placeOf σ (σ.symm k) = k := by
  rw [placeOf_val, Equiv.apply_symm_apply]

@[simp]
theorem length_reordered (σ : Equiv.Perm (Fin ds.length)) :
    (reordered ds σ).length = ds.length := by
  rw [reordered, List.length_ofFn]

/-- A declaration is found where the permutation takes it. -/
theorem getElem?_reordered (σ : Equiv.Perm (Fin ds.length)) {i : Nat} {d : Declaration}
    (here : ds[i]? = some d) :
    (reordered ds σ)[placeOf σ i]? = some (d.relink (placeOf σ)) := by
  obtain ⟨hi, rfl⟩ := List.getElem?_eq_some_iff.1 here
  have hplace : placeOf σ i = σ ⟨i, hi⟩ := placeOf_val σ ⟨i, hi⟩
  rw [reordered, hplace, List.getElem?_ofFn, dif_pos (σ ⟨i, hi⟩).isLt, Equiv.symm_apply_apply]
  rfl

/-- It keeps its names there. -/
theorem relocates_reordered (σ : Equiv.Perm (Fin ds.length)) :
    Relocates (placeOf σ) ds (reordered ds σ) := by
  intro i d here
  exact ⟨_, getElem?_reordered σ here, rfl, rfl, fun _ => rfl⟩

/-- **A round is accepted in every order.** -/
theorem exists_round_reordered (r : Round) (σ : Equiv.Perm (Fin r.declarations.length)) :
    ∃ r', Round.ofDeclarations (reordered r.declarations σ) = .ok r' ∧
      r'.declarations = reordered r.declarations σ := by
  have hends : ∀ k < (reordered r.declarations σ).length, Ends (reordered r.declarations σ) k := by
    intro k hk
    rw [length_reordered] at hk
    have hplace : placeOf σ (σ.symm ⟨k, hk⟩) = k := placeOf_symm_val σ ⟨k, hk⟩
    rw [← hplace]
    exact (r.ends _ (σ.symm ⟨k, hk⟩).isLt).relocate (relocates_reordered σ)
  exact ⟨⟨_, hends⟩, Round.ofDeclarations_eq_ok ⟨_, hends⟩, rfl⟩

namespace Round

variable {r r' : Round} {i : Nat}

/-! ## The first of each name -/

/-- No two declarations that carry the marker have the same dotted name. -/
def DistinctNames (r : Round) : Prop :=
  ∀ i j, r.isMarked i = true → r.isMarked j = true → r.qualifiedName i = r.qualifiedName j → i = j

/-- Then each of them is the first of its name. -/
theorem DistinctNames.isFirst_iff (h : r.DistinctNames) : r.IsFirst i ↔ r.isMarked i = true := by
  refine and_iff_left_of_imp fun hi j hlt hj hsame => ?_
  exact absurd (h j i hj hi hsame) (Nat.ne_of_lt hlt)

variable {σ : Equiv.Perm (Fin r.declarations.length)}
variable (hds : r'.declarations = reordered r.declarations σ)
include hds

/-- In another order the same declarations carry the marker. -/
theorem isMarked_reordered (hi : i < r.size) : r'.isMarked (placeOf σ i) = r.isMarked i := by
  have hget : r.get? i = some r.declarations[i] := List.getElem?_eq_getElem hi
  have hget' : r'.get? (placeOf σ i) = some (r.declarations[i].relink (placeOf σ)) := by
    rw [get?, hds]
    exact getElem?_reordered σ hget
  rw [isMarked, isMarked, hget, hget']
  rfl

/-- And they still have different names. -/
theorem DistinctNames.reordered (h : r.DistinctNames) : r'.DistinctNames := by
  have hsize : r'.size = r.declarations.length := by rw [size, hds, length_reordered]
  have hplace : Relocates (placeOf σ) r.declarations r'.declarations := hds ▸ relocates_reordered σ
  intro i j hi hj hsame
  -- both come from positions of the round in its first order
  obtain ⟨k, rfl⟩ : ∃ k : Fin r.declarations.length, placeOf σ k = i :=
    ⟨_, placeOf_symm_val σ ⟨i, hsize ▸ lt_size_of_isMarked hi⟩⟩
  obtain ⟨l, rfl⟩ : ∃ l : Fin r.declarations.length, placeOf σ l = j :=
    ⟨_, placeOf_symm_val σ ⟨j, hsize ▸ lt_size_of_isMarked hj⟩⟩
  rw [isMarked_reordered hds k.isLt] at hi
  rw [isMarked_reordered hds l.isLt] at hj
  rw [qualifiedName_of_relocates hplace k.isLt, qualifiedName_of_relocates hplace l.isLt] at hsame
  rw [h k l hi hj hsame]

end Round

namespace Settings

variable {s : Settings} {r r' : Round}

/-! ## The output -/

/-- **A declaration adds in its new place what it added in the old one.** -/
theorem share_reordered {σ : Equiv.Perm (Fin r.declarations.length)}
    (hds : r'.declarations = reordered r.declarations σ) (h : r.DistinctNames)
    (i : Fin r.declarations.length) : s.share r' (σ i) = s.share r i := by
  have hplace : Relocates (placeOf σ) r.declarations r'.declarations := hds ▸ relocates_reordered σ
  have hfirst : r'.IsFirst (placeOf σ i) ↔ r.IsFirst i := by
    rw [(h.reordered hds).isFirst_iff, h.isFirst_iff, Round.isMarked_reordered hds i.isLt]
  rw [← placeOf_val σ i]
  refine share_of_relocates hplace i.isLt hfirst fun d d' _ hget hget' => ?_
  have hsame : d' = d.relink (placeOf σ) := by
    rw [Round.get?, hds, getElem?_reordered σ hget] at hget'
    exact (Option.some.inj hget').symm
  rw [hsame]
  exact Declaration.alike_of_eq rfl rfl

/-- **The order of submission does not matter**: the declarations of a round
make a round in every order, with the same artifacts and the same
diagnostics, when no two that carry the marker have one dotted name. The
output comes in the new order of the declarations, each of which adds
what it did before. -/
theorem process_reordered (s : Settings) (ds : List Declaration) (r : Round)
    (σ : Equiv.Perm (Fin ds.length)) (h : Round.ofDeclarations ds = .ok r)
    (hdistinct : r.DistinctNames) :
    ∃ r', Round.ofDeclarations (reordered ds σ) = .ok r' ∧
      (s.process r').artifacts.Perm (s.process r).artifacts ∧
      (s.process r').diagnostics.Perm (s.process r).diagnostics ∧
      s.process r = .join (List.ofFn fun k : Fin ds.length => s.share r k) ∧
      s.process r' = .join (List.ofFn fun k : Fin ds.length => s.share r (σ.symm k)) := by
  obtain rfl := Round.declarations_of_ofDeclarations h
  obtain ⟨r', hr', hds⟩ := exists_round_reordered r σ
  have hold : s.process r = .join (List.ofFn fun k : Fin r.declarations.length => s.share r k) := by
    rw [process_eq_join, ← List.map_coe_finRange_eq_range, List.map_map, List.ofFn_eq_map]
    rfl
  have hnew : s.process r'
      = .join (List.ofFn fun k : Fin r.declarations.length => s.share r (σ.symm k)) := by
    have hsize : r'.size = r.declarations.length := by rw [Round.size, hds, length_reordered]
    have hshare : ∀ k : Fin r.declarations.length, s.share r' k = s.share r (σ.symm k) := by
      intro k
      rw [← share_reordered hds hdistinct (σ.symm k), Equiv.apply_symm_apply]
    rw [process_eq_join, hsize, ← List.map_coe_finRange_eq_range, List.map_map, List.ofFn_eq_map]
    exact congrArg Output.join (List.map_congr_left fun k _ => hshare k)
  have hperm : (List.ofFn fun k : Fin r.declarations.length => s.share r (σ.symm k)).Perm
      (List.ofFn fun k : Fin r.declarations.length => s.share r k) :=
    Equiv.Perm.ofFn_comp_perm σ.symm fun k : Fin r.declarations.length => s.share r k
  refine ⟨r', hr', ?_, ?_, hold, hnew⟩
  · rw [hold, hnew]
    exact hperm.flatMap_right _
  · rw [hold, hnew]
    exact hperm.flatMap_right _

/-- A cart, and its lines behind it. -/
def carts : Round where
  declarations := [
    { name := "Cart", package := "shop",
      fields := [{ name := "id", type := .primitive .long }], entity := some {} },
    { name := "Line", enclosing := some 0,
      fields := [{ name := "count", type := .primitive .int }], entity := some {} }]
  ends := ends_of_all rfl

/-- The lines may come first, and are then linked to what follows them: the
output has the same two artifacts. -/
theorem process_reordered_carts :
    let turned : Equiv.Perm (Fin carts.declarations.length) :=
      Equiv.swap ⟨0, by decide⟩ ⟨1, by decide⟩
    (reordered carts.declarations turned).map (fun d => (d.name, d.enclosing))
      = [("Line", some 1), ("Cart", none)] ∧
    ∃ r', Round.ofDeclarations (reordered carts.declarations turned) = .ok r' ∧
      (({} : Settings).process r').artifacts.Perm (({} : Settings).process carts).artifacts ∧
      (({} : Settings).process carts).artifacts.map (·.name)
        = ["shop.RealmCart", "shop.RealmCart_Line"] := by
  intro turned
  have hdistinct : carts.DistinctNames := by
    have hbelow : ∀ i < carts.size, ∀ j < carts.size,
        carts.qualifiedName i = carts.qualifiedName j → i = j := by decide +kernel
    exact fun i j hi hj => hbelow i (Round.lt_size_of_isMarked hi) j (Round.lt_size_of_isMarked hj)
  obtain ⟨r', hr', hperm, -⟩ := process_reordered {} carts.declarations carts turned
    (Round.ofDeclarations_eq_ok carts) hdistinct
  exact ⟨by decide +kernel, r', hr', hperm, by decide +kernel⟩

end Settings

end Companion
