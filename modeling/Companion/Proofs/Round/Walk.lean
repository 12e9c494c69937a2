import Companion.Round.CompanionName
import Mathlib.Data.List.Nodup
import Mathlib.Data.List.Perm.Subperm

/-!
# Walks outwards — enclosing chains without a bound on the steps

`climb` and `flatten` follow links for a given number of steps. `Walk`
follows them until there is none, and so do the loops `Climbs` and
`Flattens`. A walk has no choice, so one that ends meets no position
twice (`Walk.nodup`) and no more positions than there are declarations
(`Walk.length_le`): the steps of a round never run out, and bounded and
unbounded walks agree (`climbs_of_walk`, `flattens_of_walk`).
-/

namespace Companion

variable {ds : List Declaration} {i j steps : Nat} {path path' : List Nat} {d : Declaration}

/-! ## Positions -/

/-- The positions met from `i` outwards, up to a declaration without a link. -/
inductive Walk (ds : List Declaration) : Nat → List Nat → Prop
  /-- The declaration has no link. -/
  | outermost {i : Nat} {d : Declaration} :
      ds[i]? = some d → d.enclosing = none → Walk ds i [i]
  /-- The walk goes on from the declaration around it. -/
  | inside {i j : Nat} {d : Declaration} {path : List Nat} :
      ds[i]? = some d → d.enclosing = some j → Walk ds j path → Walk ds i (i :: path)

/-- A chain that ends is a walk. -/
theorem Ends.exists_walk (h : Ends ds i) : ∃ path, Walk ds i path := by
  induction h with
  | outermost here top => exact ⟨_, .outermost here top⟩
  | inside here link _ ih =>
    obtain ⟨path, hpath⟩ := ih
    exact ⟨_, .inside here link hpath⟩

namespace Walk

/-- A walk starts at a declaration, which it meets. -/
theorem exists_getElem? (h : Walk ds i path) : ∃ d, ds[i]? = some d ∧ 1 ≤ path.length := by
  cases h with
  | outermost here => exact ⟨_, here, by simp⟩
  | inside here => exact ⟨_, here, by simp⟩

/-- **A walk has no choice.** -/
theorem unique (h : Walk ds i path) (h' : Walk ds i path') : path = path' := by
  induction h generalizing path' with
  | outermost here top =>
    cases h' with
    | outermost => rfl
    | inside here' link =>
      rw [here] at here'
      cases here'
      rw [top] at link
      cases link
  | inside here link _ ih =>
    cases h' with
    | outermost here' top =>
      rw [here] at here'
      cases here'
      rw [top] at link
      cases link
    | inside here' link' hwalk =>
      rw [here] at here'
      cases here'
      rw [link] at link'
      cases link'
      rw [ih hwalk]

/-- It only meets declarations. -/
theorem lt_length (h : Walk ds i path) (hj : j ∈ path) : j < ds.length := by
  induction h with
  | outermost here =>
    rw [List.mem_singleton.1 hj]
    exact (List.getElem?_eq_some_iff.1 here).1
  | inside here _ _ ih =>
    rcases List.mem_cons.1 hj with rfl | hj
    · exact (List.getElem?_eq_some_iff.1 here).1
    · exact ih hj

/-- From every position that is met, the rest of the walk is a walk. -/
theorem exists_of_mem (h : Walk ds i path) (hj : j ∈ path) :
    ∃ path', Walk ds j path' ∧ path'.length ≤ path.length := by
  induction h with
  | @outermost i d here top =>
    rw [List.mem_singleton.1 hj]
    exact ⟨[i], .outermost here top, Nat.le_refl _⟩
  | @inside i k d path here link hwalk ih =>
    rcases List.mem_cons.1 hj with rfl | hj
    · exact ⟨_, .inside here link hwalk, Nat.le_refl _⟩
    · obtain ⟨path', hpath', hlen⟩ := ih hj
      exact ⟨path', hpath', by simp only [List.length_cons]; omega⟩

/-- **A walk meets no position twice**: from the second meeting on it would
be the same walk again, only shorter. -/
theorem nodup (h : Walk ds i path) : path.Nodup := by
  induction h with
  | outermost => exact List.nodup_singleton _
  | inside here link hwalk ih =>
    refine List.nodup_cons.2 ⟨fun hmem => ?_, ih⟩
    obtain ⟨again, hagain, hlen⟩ := hwalk.exists_of_mem hmem
    -- the walk from the second meeting is the whole walk, and part of it
    rw [hagain.unique (.inside here link hwalk), List.length_cons] at hlen
    omega

/-- **So it meets at most as many positions as there are declarations.** -/
theorem length_le (h : Walk ds i path) : path.length ≤ ds.length := by
  have hsub : path ⊆ List.range ds.length := fun j hj => List.mem_range.2 (h.lt_length hj)
  have hlen := (List.subperm_of_subset h.nodup hsub).length_le
  rwa [List.length_range] at hlen

/-- Further declarations behind the list do not turn a walk. -/
theorem append (h : Walk ds i path) (es : List Declaration) : Walk (ds ++ es) i path := by
  have hkept {k : Nat} {d : Declaration} (here : ds[k]? = some d) : (ds ++ es)[k]? = some d := by
    rw [List.getElem?_append_left (List.getElem?_eq_some_iff.1 here).1, here]
  induction h with
  | outermost here top => exact .outermost (hkept here) top
  | inside here link _ ih => exact .inside (hkept here) link ih

end Walk

/-! ## Declarations -/

/-- The loop that collects a declaration and those around it, with no
bound on its steps. -/
inductive Climbs (ds : List Declaration) : Option Declaration → List Declaration → Prop
  /-- There is no further declaration. -/
  | stop : Climbs ds none []
  /-- A declaration is collected, and the loop goes on around it. -/
  | step {d : Declaration} {chain : List Declaration} :
      Climbs ds (d.enclosing.bind (ds[·]?)) chain → Climbs ds (some d) (d :: chain)

/-- Enough steps meet the declarations at the positions of the walk. -/
theorem climb_of_walk (h : Walk ds i path) (hsteps : path.length ≤ steps) :
    climb ds steps i = path.filterMap (ds[·]?) := by
  induction h generalizing steps with
  | outermost here top =>
    obtain ⟨steps, rfl⟩ := Nat.exists_eq_add_of_le' hsteps
    simp [climb, here, top]
  | inside here link _ ih =>
    obtain ⟨steps, rfl⟩ := Nat.exists_eq_add_of_le' hsteps
    rw [List.length_cons, ← Nat.add_assoc, climb, here, List.filterMap_cons, here]
    simp only [link, Option.elim_some, ih (Nat.le_add_left _ steps)]

/-- **Enough steps are as good as no bound.** -/
theorem climbs_of_walk (h : Walk ds i path) (hsteps : path.length ≤ steps) :
    Climbs ds ds[i]? (climb ds steps i) := by
  induction h generalizing steps with
  | outermost here top =>
    obtain ⟨steps, rfl⟩ := Nat.exists_eq_add_of_le' hsteps
    rw [List.length_singleton, climb, here]
    refine .step ?_
    rw [top]
    exact .stop
  | inside here link _ ih =>
    obtain ⟨steps, rfl⟩ := Nat.exists_eq_add_of_le' hsteps
    rw [List.length_cons, ← Nat.add_assoc, climb, here]
    refine .step ?_
    rw [link]
    exact ih (Nat.le_add_left _ steps)

/-- The loop has one outcome. -/
theorem Climbs.unique {cursor : Option Declaration} {chain chain' : List Declaration}
    (h : Climbs ds cursor chain) (h' : Climbs ds cursor chain') : chain = chain' := by
  induction h generalizing chain' with
  | stop => cases h'; rfl
  | step _ ih =>
    cases h' with
    | step h' => rw [ih h']

/-! ## Names -/

/-- The loop that joins the names on the way outwards, with no bound on
its steps. -/
inductive Flattens (ds : List Declaration) (leading : String) :
    Declaration → String → CompanionName → Prop
  /-- No declaration is around this one, which gives the package. -/
  | stop {d : Declaration} {joined : String} :
      d.enclosing.bind (ds[·]?) = none →
      Flattens ds leading d joined ⟨d.package, leading ++ joined⟩
  /-- The name of the one around it is put before the others. -/
  | step {d outer : Declaration} {joined : String} {name : CompanionName} :
      d.enclosing.bind (ds[·]?) = some outer →
      Flattens ds leading outer (outer.name ++ "_" ++ joined) name →
      Flattens ds leading d joined name

/-- **Enough steps are as good as no bound here too.** The first
declaration is there before the first step. -/
theorem flattens_of_walk (leading joined : String) (h : Walk ds i path) (here : ds[i]? = some d)
    (hsteps : path.length ≤ steps + 1) :
    Flattens ds leading d joined (flatten ds leading steps d joined) := by
  induction h generalizing steps d joined with
  | @outermost i e here' top =>
    have hd : d = e := Option.some.inj (here.symm.trans here')
    subst hd
    have hnone : d.enclosing.bind (ds[·]?) = none := by rw [top, Option.bind_none]
    cases steps with
    | zero => exact .stop hnone
    | succ steps =>
      rw [flatten, hnone]
      exact .stop hnone
  | @inside i k e path here' link hwalk ih =>
    have hd : d = e := Option.some.inj (here.symm.trans here')
    subst hd
    obtain ⟨outer, there, hmeets⟩ := hwalk.exists_getElem?
    have hsome : d.enclosing.bind (ds[·]?) = some outer := by rw [link, Option.bind_some, there]
    rw [List.length_cons] at hsteps
    -- the walk meets the outer declaration too, so there is a step left
    obtain ⟨steps, rfl⟩ : ∃ more, steps = more + 1 := ⟨steps - 1, by omega⟩
    rw [flatten, hsome]
    exact .step hsome (ih _ there (by omega))

/-- The loop has one outcome. -/
theorem Flattens.unique {leading joined : String} {n n' : CompanionName}
    (h : Flattens ds leading d joined n) (h' : Flattens ds leading d joined n') : n = n' := by
  induction h with
  | stop hnone =>
    cases h' with
    | stop => rfl
    | step hsome =>
      rw [hnone] at hsome
      cases hsome
  | step hsome _ ih =>
    cases h' with
    | stop hnone =>
      rw [hnone] at hsome
      cases hsome
    | step hsome' h' =>
      rw [hsome] at hsome'
      cases hsome'
      exact ih h'

end Companion
