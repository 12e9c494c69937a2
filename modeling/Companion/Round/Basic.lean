import Companion.Round.Chain
import Companion.Name.Qualified

/-!
# Rounds — the declarations that are processed together

A round is a list of declarations, and a declaration is known by its position in it. In
a round every enclosing chain ends. There are two ways to come by one: `ofDeclarations`
takes a whole list, in which links may lead forwards and backwards, and `add` extends a
round by one declaration, which can only be nested in an earlier one.
-/

namespace Companion

/-- Why declarations make no round. -/
inductive LinkError where
  /-- A link leads to no declaration. -/
  | unknownEnclosing (declaration : String) (index size : Nat)
  /-- The chain of a declaration does not end. -/
  | enclosingCycle (declaration : String)
  deriving DecidableEq, Repr

namespace LinkError

/-- The report of the error. -/
def message : LinkError → String
  | unknownEnclosing declaration index size =>
    "declaration `" ++ declaration ++ "` names enclosing index " ++ toString index
      ++ ", but the round only has " ++ toString size ++ " declarations"
  | enclosingCycle declaration => "declaration `" ++ declaration ++ "` is enclosed by itself"

end LinkError

/-- Declarations all of whose enclosing chains end. -/
structure Round where
  /-- The declarations in the order of their positions. -/
  declarations : List Declaration := []
  /-- From every declaration the links lead to an outermost one. -/
  ends : ∀ i < declarations.length, Ends declarations i := by simp
  deriving DecidableEq

namespace Round

/-- The round without declarations. -/
def empty : Round := {}

/-! ## Building -/

/-- The link of a declaration leads to none of `size` declarations. -/
def danglingLink? (size : Nat) (d : Declaration) : Option LinkError :=
  match d.enclosing with
  | none => none
  | some i => if i < size then none else some (.unknownEnclosing d.name i size)

/-- The first declaration whose chain does not end. -/
def firstEndless? (ds : List Declaration) : Option Nat :=
  (List.range ds.length).find? fun i => !endsWithin ds ds.length i

/-- The round of the given declarations. All links are checked before any chain is, and the first
offender of a check is reported. -/
def ofDeclarations (ds : List Declaration) : Except LinkError Round :=
  match ds.findSome? (danglingLink? ds.length) with
  | some e => .error e
  | none =>
    match endless : firstEndless? ds with
    | some i => .error (.enclosingCycle (ds[i]?.elim "" (·.name)))
    | none =>
      .ok ⟨ds, fun i hi => @Ends.of_endsWithin ds i ds.length (by
        simpa using List.find?_eq_none.1 endless i (List.mem_range.2 hi))⟩

/-- The round with one more declaration, whose link leads to an earlier one. Its position is the
number of declarations before. -/
def add (r : Round) (d : Declaration) : Except LinkError Round :=
  match dangling : danglingLink? r.declarations.length d with
  | some e => .error e
  | none =>
    .ok ⟨r.declarations ++ [d], fun i hi => by
      rcases Nat.lt_or_ge i r.declarations.length with old | new
      · exact (r.ends i old).append [d]
      · have last : i = r.declarations.length := by
          simp only [List.length_append, List.length_singleton] at hi
          omega
        subst last
        have here : (r.declarations ++ [d])[r.declarations.length]? = some d := by simp
        unfold danglingLink? at dangling
        split at dangling
        · next top => exact .outermost here top
        · next j link =>
          split at dangling
          · next known => exact .inside here link ((r.ends j known).append [d])
          · cases dangling⟩

/-- The round with one more declaration nested in the one at position `parent`. -/
def addNested (r : Round) (parent : Nat) (d : Declaration) : Except LinkError Round :=
  r.add { d with enclosing := some parent }

/-! ## Looking up -/

/-- The number of declarations. -/
def size (r : Round) : Nat := r.declarations.length

/-- The declaration at a position. -/
def get? (r : Round) (id : Nat) : Option Declaration := r.declarations[id]?

/-- The declaration at a position and those around it, from the inside out. -/
def chain (r : Round) (id : Nat) : List Declaration := climb r.declarations r.size id

/-- The dotted name of a declaration: the package of the outermost declaration around it, and the
names from there inwards. -/
def qualifiedName (r : Round) (id : Nat) : QualifiedName :=
  let chain := r.chain id
  .ofParts (chain.getLast?.elim "" (·.package)) (chain.reverse.map (·.name))

/-- The positions of the entities, of which only the first of each qualified name counts. -/
def entities (r : Round) : List Nat :=
  firsts [] ((List.range r.size).filter fun id => (r.get? id).any (·.isEntity))
where
  /-- The positions whose qualified names are neither seen nor repeated. -/
  firsts (seen : List QualifiedName) : List Nat → List Nat
    | [] => []
    | id :: ids =>
      let name := r.qualifiedName id
      if name ∈ seen then firsts seen ids else id :: firsts (name :: seen) ids

end Round

end Companion
