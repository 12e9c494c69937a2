import Companion.Proofs.Round.Calls

/-!
# Building — a round from one declaration at a time

A list of declarations is loaded as a whole, and there all links and all
chains are checked; or it is built up by adding one declaration after the
other, and there only the link of the new one is checked, for leading
backwards. Building refuses more: it accepts the lists whose links all
lead backwards (`accepts_iff`). But what it accepts is loaded as well, and
gives the same round, also on top of a round that was loaded with links
forwards (`loads_what_it_builds`).
-/

namespace Companion

namespace Round

variable {r : Round} {d : Declaration} {ds : List Declaration} {n : Nat}

/-- The answers to calls one after the other. -/
def answers (r : Round) : List Call → List (Except LinkError Nat)
  | [] => []
  | c :: calls => (r.call c).2 :: answers (r.call c).1 calls

/-- None of the calls is refused. -/
def Accepts (r : Round) (calls : List Call) : Prop := ∀ a ∈ r.answers calls, ∃ id, a = .ok id

/-- The calls that add the declarations in their order. -/
def adding (ds : List Declaration) : List Call := ds.map .add

/-- The links of declarations that come behind `n` others lead backwards. -/
def Backward (n : Nat) (ds : List Declaration) : Prop :=
  ∀ i d j, ds[i]? = some d → d.enclosing = some j → j < n + i

/-- Links lead backwards when the first one does, and then the others. -/
theorem backward_cons :
    Backward n (d :: ds) ↔ (∀ j, d.enclosing = some j → j < n) ∧ Backward (n + 1) ds := by
  constructor
  · intro h
    refine ⟨fun j hlink => h 0 d j rfl hlink, fun i e j hget hlink => ?_⟩
    have hlt : j < n + (i + 1) := h (i + 1) e j hget hlink
    omega
  · rintro ⟨hfirst, hrest⟩ i e j hget hlink
    cases i with
    | zero =>
      cases hget
      exact hfirst j hlink
    | succ i =>
      have hlt : j < n + 1 + i := hrest i e j hget hlink
      omega

/-- **One declaration is added** when its link leads backwards. -/
theorem accepts_cons : r.Accepts (adding (d :: ds)) ↔
    (∀ j, d.enclosing = some j → j < r.size) ∧ (r.call (.add d)).1.Accepts (adding ds) := by
  have hanswers : r.answers (adding (d :: ds))
      = (r.call (.add d)).2 :: (r.call (.add d)).1.answers (adding ds) := rfl
  rw [Accepts, hanswers, List.forall_mem_cons]
  refine and_congr ?_ Iff.rfl
  rcases cases_of_call r (.add d) with ⟨j, hlink, hge, hcall⟩ | ⟨r', hlinks, -, hcall⟩
  · rw [hcall]
    refine ⟨fun ⟨_, h⟩ => (nomatch h), fun hlinks => ?_⟩
    have hlt : j < r.size := hlinks j hlink
    omega
  · rw [hcall]
    exact ⟨fun _ => hlinks, fun _ => ⟨_, rfl⟩⟩

/-- The round after it has one declaration more, at the end. -/
theorem declarations_call (h : ∀ j, d.enclosing = some j → j < r.size) :
    (r.call (.add d)).2 = .ok r.size ∧
      (r.call (.add d)).1.declarations = r.declarations ++ [d] := by
  rcases cases_of_call r (.add d) with ⟨j, hlink, hge, -⟩ | ⟨r', -, hds, hcall⟩
  · have hlt : j < r.size := h j hlink
    omega
  · rw [hcall]
    exact ⟨rfl, hds⟩

/-- **Declarations are added one by one** when all their links lead
backwards. -/
theorem accepts_iff : r.Accepts (adding ds) ↔ Backward r.size ds := by
  induction ds generalizing r with
  | nil => exact ⟨fun _ i d j hget => (nomatch hget), fun _ a ha => (nomatch ha)⟩
  | cons d ds ih =>
    rw [accepts_cons, backward_cons]
    refine and_congr_right fun hlinks => ?_
    have hsize : (r.call (.add d)).1.size = r.size + 1 := by
      rw [size, (declarations_call hlinks).2, List.length_append]
      rfl
    rw [ih, hsize]

/-- **Then they follow the declarations of the round**, and are answered by
their positions. -/
theorem answers_of_backward (h : Backward r.size ds) :
    r.answers (adding ds) = (List.range' r.size ds.length).map .ok ∧
      (r.run (adding ds)).declarations = r.declarations ++ ds := by
  induction ds generalizing r with
  | nil => exact ⟨rfl, (List.append_nil _).symm⟩
  | cons d ds ih =>
    obtain ⟨hfirst, hrest⟩ := backward_cons.1 h
    obtain ⟨hanswer, hds⟩ := declarations_call hfirst
    have hsize : (r.call (.add d)).1.size = r.size + 1 := by
      rw [size, hds, List.length_append]
      rfl
    rw [← hsize] at hrest
    obtain ⟨hanswers, hrun⟩ := ih hrest
    constructor
    · show (r.call (.add d)).2 :: (r.call (.add d)).1.answers (adding ds) = _
      rw [hanswer, hanswers, hsize, List.length_cons, List.range'_succ, List.map_cons]
    · show ((r.call (.add d)).1.run (adding ds)).declarations = _
      rw [hrun, hds, List.append_assoc, List.singleton_append]

/-- **What is built can be loaded.** Adding declarations one by one to the
empty round succeeds throughout when every link leads to an earlier
position; then the positions are the answers, in order, and loading the
list gives the round that was built. And whatever can be added to a round
that was loaded could have been loaded with it. -/
theorem loads_what_it_builds :
    (∀ ds : List Declaration, (empty.Accepts (adding ds) ↔
        ∀ (i : Nat) (d : Declaration) (j : Nat), ds[i]? = some d → d.enclosing = some j → j < i) ∧
      (empty.Accepts (adding ds) →
        ofDeclarations ds = .ok (empty.run (adding ds)) ∧
        empty.answers (adding ds) = (List.range ds.length).map .ok)) ∧
    ∀ (xs ys : List Declaration) (r : Round),
      ofDeclarations xs = .ok r → r.Accepts (adding ys) →
      ofDeclarations (xs ++ ys) = .ok (r.run (adding ys)) := by
  have hloads : ∀ (r : Round) (ds : List Declaration), r.Accepts (adding ds) →
      ofDeclarations (r.declarations ++ ds) = .ok (r.run (adding ds)) := by
    intro r ds h
    rw [← (answers_of_backward (accepts_iff.1 h)).2]
    exact ofDeclarations_eq_ok _
  refine ⟨fun ds => ⟨?_, fun h => ⟨hloads empty ds h, ?_⟩⟩, fun xs ys r hxs h => ?_⟩
  · have hsize : empty.size = 0 := rfl
    simp only [accepts_iff, Backward, hsize, Nat.zero_add]
  · rw [(answers_of_backward (accepts_iff.1 h)).1, List.range_eq_range']
    rfl
  · rw [← declarations_of_ofDeclarations hxs]
    exact hloads r ys h

/-- A pair with a link forwards takes a third declaration inside the first. -/
theorem loads_what_it_builds_forwardPair :
    forwardPair.Accepts (adding [{ name := "Leaf", enclosing := some 0 }]) ∧
      ofDeclarations (forwardPair.declarations ++ [{ name := "Leaf", enclosing := some 0 }])
        = .ok (forwardPair.run (adding [{ name := "Leaf", enclosing := some 0 }])) := by
  have haccepts : forwardPair.Accepts (adding [{ name := "Leaf", enclosing := some 0 }]) := by
    refine accepts_cons.2 ⟨fun j hlink => ?_, fun a ha => nomatch ha⟩
    cases hlink
    decide
  exact ⟨haccepts,
    loads_what_it_builds.2 _ _ _ (ofDeclarations_eq_ok forwardPair) haccepts⟩

end Round

end Companion
