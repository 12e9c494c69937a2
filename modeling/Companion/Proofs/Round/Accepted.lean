import Companion.Proofs.Round.Walk

/-!
# Accepted declarations

A list of declarations makes a round when every link leads to one of
them and every chain ends. The test of a chain takes as many steps as
there are declarations, and no walk needs more: so every round is
accepted again as the list of its declarations (`ofDeclarations_eq_ok`),
and what holds of all rounds holds of everything that is accepted.
-/

namespace Companion

variable {ds : List Declaration} {i j steps : Nat} {path : List Nat} {d : Declaration}

/-- The test passes a walk of at most as many positions as it has steps. -/
theorem endsWithin_of_walk (h : Walk ds i path) (hsteps : path.length ≤ steps) :
    endsWithin ds steps i = true := by
  induction h generalizing steps with
  | outermost here top =>
    obtain ⟨steps, rfl⟩ := Nat.exists_eq_add_of_le' hsteps
    simp [endsWithin, here, top]
  | inside here link _ ih =>
    obtain ⟨steps, rfl⟩ := Nat.exists_eq_add_of_le' hsteps
    rw [List.length_cons, ← Nat.add_assoc, endsWithin, here]
    simp only [link]
    exact ih (Nat.le_add_left _ steps)

namespace Round

variable {r r' : Round} {e : LinkError} {size : Nat}

/-- A round is its declarations. -/
theorem eq_of_declarations (h : r.declarations = r'.declarations) : r = r' := by
  obtain ⟨ds, hends⟩ := r
  obtain ⟨ds', hends'⟩ := r'
  cases h
  rfl

/-- From every position of a round there is a walk. -/
theorem exists_walk (h : i < r.size) : ∃ path, Walk r.declarations i path :=
  (r.ends i h).exists_walk

/-- **The links of a round lead to its declarations.** -/
theorem link_lt_size (h : r.get? i = some d) (hlink : d.enclosing = some j) : j < r.size := by
  have here : r.declarations[i]? = some d := h
  cases r.ends i (List.getElem?_eq_some_iff.1 here).1 with
  | outermost here' top =>
    rw [here] at here'
    cases here'
    rw [hlink] at top
    cases top
  | inside here' link hends =>
    rw [here] at here'
    cases here'
    rw [hlink] at link
    cases link
    exact hends.lt_length

/-- A link is reported when it leads to none of the declarations. -/
theorem danglingLink?_eq_some_iff :
    danglingLink? size d = some e ↔
      ∃ j, d.enclosing = some j ∧ size ≤ j ∧ e = .unknownEnclosing d.name j size := by
  unfold danglingLink?
  split
  · next htop => simp [htop]
  · next j hlink =>
    simp only [hlink, Option.some_inj, exists_eq_left']
    split
    · next hlt =>
      simp only [reduceCtorEq, false_iff]
      rintro ⟨hge, -⟩
      exact absurd hlt (Nat.not_lt.2 hge)
    · next hge => simp [eq_comm, Nat.le_of_not_lt hge]

/-- **Every round is the round of its declarations.** -/
theorem ofDeclarations_eq_ok (r : Round) : ofDeclarations r.declarations = .ok r := by
  have hlinks : r.declarations.findSome? (danglingLink? r.declarations.length) = none := by
    refine List.findSome?_eq_none_iff.2 fun d hd => ?_
    obtain ⟨i, hi⟩ := List.mem_iff_getElem?.1 hd
    by_contra hsome
    obtain ⟨e, he⟩ := Option.ne_none_iff_exists'.1 hsome
    obtain ⟨j, hlink, hge, -⟩ := danglingLink?_eq_some_iff.1 he
    exact absurd (link_lt_size hi hlink) (Nat.not_lt.2 hge)
  -- the test has a step for each declaration, and a walk meets none twice
  have hends : firstEndless? r.declarations = none := by
    refine List.find?_eq_none.2 fun i hi => ?_
    obtain ⟨path, hpath⟩ := exists_walk (r := r) (List.mem_range.1 hi)
    simp [endsWithin_of_walk hpath hpath.length_le]
  unfold ofDeclarations
  simp only [hlinks]
  split
  · next i hsome =>
    rw [hends] at hsome
    cases hsome
  · rfl

/-- The round of some declarations has just those. -/
theorem declarations_of_ofDeclarations (h : ofDeclarations ds = .ok r) : r.declarations = ds := by
  unfold ofDeclarations at h
  split at h
  · cases h
  · split at h
    · cases h
    · cases h
      rfl

/-! ## Loops that end -/

/-- **The declarations around one are collected by a loop that ends**, from
every position, also one that the round does not have. -/
theorem climbs_chain (r : Round) (id : Nat) : Climbs r.declarations (r.get? id) (r.chain id) := by
  cases hget : r.get? id with
  | some d =>
    have here : r.declarations[id]? = some d := hget
    obtain ⟨path, hpath⟩ := exists_walk (r := r) (List.getElem?_eq_some_iff.1 here).1
    rw [← here]
    exact climbs_of_walk hpath hpath.length_le
  | none =>
    have hnone : r.declarations[id]? = none := hget
    have hchain : r.chain id = [] := by
      rw [chain]
      cases r.size with
      | zero => rfl
      | succ steps => rw [climb, hnone]
    rw [hchain]
    exact .stop

/-- **And so are their names.** -/
theorem flattens_companionName {id : Nat} (h : r.get? id = some d) (leading : String) :
    ∃ name, r.companionName id leading = .ok name ∧
      Flattens r.declarations leading d d.name name := by
  obtain ⟨path, hpath⟩ := exists_walk (r := r) (List.getElem?_eq_some_iff.1 h).1
  refine ⟨_, by rw [companionName, h], flattens_of_walk leading d.name hpath h ?_⟩
  exact Nat.le_succ_of_le hpath.length_le

end Round

end Companion
