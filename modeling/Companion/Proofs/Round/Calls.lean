import Companion.Proofs.Round.Accepted

/-!
# Calls — rounds that grow one declaration at a time

A round is extended by calls, each of which adds a declaration or is
refused. A call that is refused leaves the round as it was, and one that
is not leaves every earlier declaration and its chain as they were. So
after any calls, from any round to start with, all chains end, and the
loops that follow them stop (`chains_end`).
-/

namespace Companion

/-- A call that extends a round. -/
inductive Call where
  /-- Add the declaration as it is. -/
  | add (d : Declaration)
  /-- Add the declaration inside the one at position `parent`. -/
  | addNested (parent : Nat) (d : Declaration)
  deriving DecidableEq

/-- The declaration that a call adds. -/
def Call.declaration : Call → Declaration
  | add d => d
  | addNested parent d => { d with enclosing := some parent }

namespace Round

variable {r r' : Round} {d : Declaration} {e : LinkError} {i id : Nat}

/-- The round after a call, and its answer: the position of the new
declaration, or why there is none. -/
def call (r : Round) (c : Call) : Round × Except LinkError Nat :=
  let extended := match c with
    | .add d => r.add d
    | .addNested parent d => r.addNested parent d
  match extended with
  | .ok r' => (r', .ok r.size)
  | .error e => (r, .error e)

/-- The round after calls one after the other. -/
def run (r : Round) (calls : List Call) : Round := calls.foldl (fun r c => (r.call c).1) r

/-! ## One call -/

/-- **A declaration is added behind the others** when its link leads to one
of them, or it has none. -/
theorem add_eq_ok_iff : r.add d = .ok r' ↔
    (∀ j, d.enclosing = some j → j < r.size) ∧ r'.declarations = r.declarations ++ [d] := by
  unfold add
  split
  · next e hsome =>
    obtain ⟨j, hlink, hge, -⟩ := danglingLink?_eq_some_iff.1 hsome
    simp only [reduceCtorEq, false_iff]
    rintro ⟨hlinks, -⟩
    exact absurd (hlinks j hlink) (Nat.not_lt.2 hge)
  · next hnone =>
    have hlinks : ∀ j, d.enclosing = some j → j < r.size := by
      intro j hlink
      by_contra hge
      have hsome := danglingLink?_eq_some_iff.2 ⟨j, hlink, Nat.le_of_not_lt hge, rfl⟩
      exact absurd (hnone.symm.trans hsome) (by simp)
    constructor
    · intro h
      cases h
      exact ⟨hlinks, rfl⟩
    · rintro ⟨-, hds⟩
      exact congrArg Except.ok (eq_of_declarations hds.symm)

/-- **It is refused for its link only.** -/
theorem add_eq_error_iff : r.add d = .error e ↔
    ∃ j, d.enclosing = some j ∧ r.size ≤ j ∧ e = .unknownEnclosing d.name j r.size := by
  rw [← danglingLink?_eq_some_iff]
  unfold add
  split
  · next e' hsome => simp [size, hsome]
  · next hnone => simp [size, hnone]

/-- Either kind of call adds the declaration it is about. -/
theorem call_eq (r : Round) (c : Call) : r.call c =
    match r.add c.declaration with
    | .ok r' => (r', .ok r.size)
    | .error e => (r, .error e) := by
  cases c <;> rfl

/-- **A call is refused without a trace** for a link that leads to no
declaration, and else answered by the position of a new last one. -/
theorem cases_of_call (r : Round) (c : Call) :
    (∃ j, c.declaration.enclosing = some j ∧ r.size ≤ j ∧
      r.call c = (r, .error (.unknownEnclosing c.declaration.name j r.size))) ∨
    ∃ r', (∀ j, c.declaration.enclosing = some j → j < r.size) ∧
      r'.declarations = r.declarations ++ [c.declaration] ∧ r.call c = (r', .ok r.size) := by
  rw [call_eq]
  cases hadd : r.add c.declaration with
  | error e =>
    obtain ⟨j, hlink, hge, rfl⟩ := add_eq_error_iff.1 hadd
    exact Or.inl ⟨j, hlink, hge, rfl⟩
  | ok r' =>
    obtain ⟨hlinks, hds⟩ := add_eq_ok_iff.1 hadd
    exact Or.inr ⟨r', hlinks, hds, rfl⟩

/-! ## Earlier declarations -/

/-- The declarations of one round are the first ones of another. -/
def Extends (r r' : Round) : Prop := r.declarations <+: r'.declarations

/-- **A round that grows keeps its declarations and their chains.** -/
theorem Extends.get?_chain (h : Extends r r') (hi : i < r.size) :
    r'.get? i = r.get? i ∧ r'.chain i = r.chain i := by
  obtain ⟨es, hds⟩ := h
  have hget : ∀ k < r.declarations.length, r'.declarations[k]? = r.declarations[k]? := by
    intro k hk
    rw [← hds, List.getElem?_append_left hk]
  refine ⟨hget i hi, ?_⟩
  obtain ⟨path, hpath⟩ := exists_walk hi
  -- the longer round has more steps to go, but the walk is the same
  have hpath' : Walk r'.declarations i path := hds ▸ hpath.append es
  have hchain : r.chain i = path.filterMap (r.declarations[·]?) :=
    climb_of_walk hpath hpath.length_le
  have hchain' : r'.chain i = path.filterMap (r'.declarations[·]?) :=
    climb_of_walk hpath' hpath'.length_le
  rw [hchain, hchain']
  exact List.filterMap_congr fun k hk => hget k (hpath.lt_length hk)

/-- One call keeps them. -/
theorem extends_call (r : Round) (c : Call) : Extends r (r.call c).1 := by
  rcases cases_of_call r c with ⟨j, -, -, hcall⟩ | ⟨r', -, hds, hcall⟩
  · rw [hcall]
    exact List.prefix_rfl
  · rw [hcall, Extends, hds]
    exact List.prefix_append _ _

/-- **And so do any number of calls.** -/
theorem extends_run (r : Round) (calls : List Call) : Extends r (r.run calls) := by
  induction calls generalizing r with
  | nil => exact List.prefix_rfl
  | cons c calls ih => exact (extends_call r c).trans (ih (r.call c).1)

/-- **All chains end, after any calls**, whether one starts with no
declarations or with any that are accepted: links lead to declarations,
and a walk outwards from any of them takes fewer steps than there are
declarations and meets none twice. So the loops that collect the chain
and join the names stop, from every position. A call is refused only for
a link that leads nowhere, and then changes nothing; any other changes no
declaration and no chain that is there. So those of the first round are
there in the end. -/
theorem chains_end (start : Round) (calls : List Call) :
    let r := start.run calls
    (∀ i d j, r.get? i = some d → d.enclosing = some j → j < r.size) ∧
    (∀ i < r.size, ∃ path, Walk r.declarations i path ∧ path.length ≤ r.size ∧ path.Nodup) ∧
    (∀ id, ∃ chain, Climbs r.declarations (r.get? id) chain ∧ r.chain id = chain ∧
      r.qualifiedName id
        = .ofParts (chain.getLast?.elim "" (·.package)) (chain.reverse.map (·.name))) ∧
    (∀ id leading,
      (r.get? id = none ∧ r.companionName id leading = .error (.unknownDeclaration id r.size)) ∨
      ∃ d name, r.get? id = some d ∧ Flattens r.declarations leading d d.name name ∧
        r.companionName id leading = .ok name) ∧
    (∀ c, (∃ j, c.declaration.enclosing = some j ∧ r.size ≤ j ∧
        r.call c = (r, .error (.unknownEnclosing c.declaration.name j r.size))) ∨
      ∃ r', r.call c = (r', .ok r.size) ∧ r'.declarations = r.declarations ++ [c.declaration] ∧
        ∀ i < r.size, r'.get? i = r.get? i ∧ r'.chain i = r.chain i) ∧
    ∀ i < start.size, r.get? i = start.get? i ∧ r.chain i = start.chain i := by
  intro r
  refine ⟨fun i d j => link_lt_size, fun i hi => ?_,
    fun id => ⟨r.chain id, r.climbs_chain id, rfl, rfl⟩, fun id leading => ?_, fun c => ?_,
    fun i hi => (extends_run start calls).get?_chain hi⟩
  · obtain ⟨path, hpath⟩ := exists_walk hi
    exact ⟨path, hpath, hpath.length_le, hpath.nodup⟩
  · cases hget : r.get? id with
    | none => exact Or.inl ⟨rfl, by rw [companionName, hget]⟩
    | some d =>
      obtain ⟨name, hname, hflattens⟩ := flattens_companionName hget leading
      exact Or.inr ⟨d, name, rfl, hflattens, hname⟩
  · rcases cases_of_call r c with hrefused | ⟨r', -, hds, hcall⟩
    · exact Or.inl hrefused
    · have hextends : Extends r r' := by
        rw [Extends, hds]
        exact List.prefix_append _ _
      exact Or.inr ⟨r', hcall, hds, fun i hi => hextends.get?_chain hi⟩

/-- A declaration whose link leads forward to the one around it. -/
def forwardPair : Round where
  declarations := [{ name := "Inner", enclosing := some 1 }, { name := "Outer" }]
  ends i hi := by
    rcases i with - | - | i
    · exact .inside rfl rfl (.outermost rfl rfl)
    · exact .outermost rfl rfl
    · simp only [List.length_cons, List.length_nil] at hi
      omega

/-- A third declaration inside the first is three steps deep, and one
inside a position that is not there is refused. -/
theorem chains_end_forwardPair :
    let r := forwardPair.run [.addNested 0 { name := "Leaf" }, .addNested 7 { name := "Lost" }]
    r.size = 3 ∧ ∃ path, Walk r.declarations 2 path ∧ path.length ≤ r.size ∧ path.Nodup :=
  ⟨by decide, (chains_end forwardPair _).2.1 2 (by decide)⟩

end Round

end Companion
