import Companion.Proofs.Type.Pieces
import Mathlib.Data.List.Infix

/-!
# Cursors — types read in loops

A reader of the library returns what is left of a text together with a
proof that it is shorter, so it cannot but end. Here types are read
without that promise. A cursor moves through a text; arguments are taken
as long as there is a comma, and pairs of brackets as long as one is
opened; nothing bounds these loops or how deep they are nested. A reading
that went on for ever, or stuck, would have no outcome.

A reading that has one makes progress (`ReadsType.passes`,
`ReadsArg.passes`): behind a type, and behind an argument, the cursor is
further on, by a character for each round of the loops inside and one
more, and what fails is reported with the whole text. That takes all four
kinds of readings at once, as an argument may begin with a type at the
same cursor and a loop may end without having moved at all.
-/

namespace Companion

namespace TypeRef

open Text

/-! ## Cursors -/

/-- A place in a text that is being read: the whole text, and the end of
it that is left to read. -/
@[ext]
structure Cursor where
  /-- The whole text. -/
  input : String
  /-- What is left to read. -/
  rest : List Char
  /-- It is an end of the text. -/
  isEnd : rest <:+ input.toList
  deriving DecidableEq

/-- How a reading stops: with an error, or with a value and the cursor behind it. -/
abbrev Outcome (α : Type) : Type := Except TypeError (α × Cursor)

/-- What stands behind a character is an end of the text. -/
theorem suffix_of_eat? {c : Char} {cs rest : List Char} (h : eat? c cs = some rest) :
    rest <:+ cs := by
  obtain ⟨b, -, rfl⟩ := exists_of_eat? h
  exact ⟨b ++ [c], by simp⟩

/-- And so is what stands behind a word. -/
theorem suffix_of_eatWord? {word cs rest : List Char} (h : eatWord? word cs = some rest) :
    rest <:+ cs := by
  obtain ⟨b, -, rfl, -⟩ := exists_of_eatWord? h
  exact ⟨b ++ word, rfl⟩

/-- And what stands behind a name. -/
theorem behindName_suffix (cs : List Char) : behindName cs <:+ cs := by
  obtain ⟨b, -, hcs⟩ := exists_name cs
  exact ⟨b ++ nameOf cs, hcs.symm⟩

namespace Cursor

/-- In front of a text. -/
def start (text : String) : Cursor := ⟨text, text.toList, List.suffix_rfl⟩

/-- Further on in the same text. -/
def moveTo (s : Cursor) (rest : List Char) (h : rest <:+ s.rest) : Cursor :=
  ⟨s.input, rest, h.trans s.isEnd⟩

/-- Behind the blanks. -/
def pastBlanks (s : Cursor) : Cursor := s.moveTo (skipBlanks s.rest) (List.dropWhile_suffix isBlank)

/-- Behind the name that stands at the cursor, if any does. -/
def pastName (s : Cursor) : Cursor := s.moveTo (behindName s.rest) (behindName_suffix s.rest)

/-- Behind the given character, if that is what stands behind the blanks. -/
def past? (c : Char) (s : Cursor) : Option Cursor :=
  (eat? c s.rest).pmap s.moveTo fun _ h => suffix_of_eat? h

/-- Behind the given word, if that is what stands behind the blanks and
no longer name does. -/
def pastWord? (word : List Char) (s : Cursor) : Option Cursor :=
  (eatWord? word s.rest).pmap s.moveTo fun _ h => suffix_of_eatWord? h

/-- Behind the keyword of a bound, and on which side the bound is. -/
def pastKeyword? (s : Cursor) : Option (Bound × Cursor) :=
  match s.pastWord? Bound.upper.keyword.toList with
  | some bound => some (.upper, bound)
  | none => (s.pastWord? Bound.lower.keyword.toList).map (.lower, ·)

/-- The report of a refusal, which names the whole text. -/
def fail (s : Cursor) (r : Refusal) : TypeError := ⟨s.input, r⟩

/-- What the name at the cursor stands for: a primitive type, if it is a
keyword, and else a class. An error of the class is reported as one of
the whole text. -/
def head (s : Cursor) : Except TypeError (Primitive ⊕ ClassName) :=
  if nameOf s.rest = [] then .error (s.fail .noTypeName)
  else
    match Primitive.ofKeyword? (nameOf s.rest) with
    | some p => .ok (.inl p)
    | none =>
      match ClassName.ofText (String.ofList (nameOf s.rest)) with
      | .ok c => .ok (.inr c)
      | .error e => .error (s.fail e.refusal)

/-! ## Readings -/

/-- **The loop over brackets**, which makes arrays of a type. The number
says how often it goes round. -/
inductive BracketLoop : Cursor → TypeRef → ℕ → Outcome TypeRef → Prop
  /-- No bracket is opened. -/
  | done {s : Cursor} {t : TypeRef} :
      s.past? '[' = none → BracketLoop s t 0 (.ok (t, s.pastBlanks))
  /-- A bracket is opened and not closed. -/
  | unclosed {s inside : Cursor} {t : TypeRef} :
      s.past? '[' = some inside → inside.past? ']' = none →
      BracketLoop s t 1 (.error (inside.fail .openBracket))
  /-- The loop goes on behind a pair of brackets, with an array of the type. -/
  | again {s inside behind : Cursor} {t : TypeRef} {n : ℕ} {out : Outcome TypeRef} :
      s.past? '[' = some inside → inside.past? ']' = some behind →
      BracketLoop behind (array t) n out → BracketLoop s t (n + 1) out

mutual

/-- **A type is read.** The number says how often all loops that have a
part in it go round, those of its arguments included. -/
inductive ReadsType : Cursor → ℕ → Outcome TypeRef → Prop
  /-- There is no name, or one that is refused. -/
  | misnamed {s : Cursor} {e : TypeError} : s.head = .error e → ReadsType s 0 (.error e)
  /-- Only brackets follow a keyword. -/
  | primitive {s : Cursor} {p : Primitive} {n : ℕ} {out : Outcome TypeRef} :
      s.head = .ok (.inl p) → s.pastName.BracketLoop (primitive p) n out → ReadsType s n out
  /-- A class has no arguments. -/
  | plain {s : Cursor} {c : ClassName} {n : ℕ} {out : Outcome TypeRef} :
      s.head = .ok (.inr c) → s.pastName.past? '<' = none →
      s.pastName.pastBlanks.BracketLoop (named c) n out → ReadsType s n out
  /-- The arguments of a class cannot be read. -/
  | misapplied {s inner : Cursor} {c : ClassName} {n : ℕ} {e : TypeError} :
      s.head = .ok (.inr c) → s.pastName.past? '<' = some inner →
      ReadsArgs inner n (.error e) → ReadsType s n (.error e)
  /-- They are not closed. -/
  | unclosed {s inner last : Cursor} {c : ClassName} {args : List TypeRef} {n : ℕ} :
      s.head = .ok (.inr c) → s.pastName.past? '<' = some inner →
      ReadsArgs inner n (.ok (args, last)) → last.past? '>' = none →
      ReadsType s n (.error (last.fail .openArguments))
  /-- They are closed, and brackets follow. -/
  | applied {s inner last behind : Cursor} {c : ClassName} {args : List TypeRef} {m n : ℕ}
      {out : Outcome TypeRef} :
      s.head = .ok (.inr c) → s.pastName.past? '<' = some inner →
      ReadsArgs inner m (.ok (args, last)) → last.past? '>' = some behind →
      behind.BracketLoop (parameterized c args) n out → ReadsType s (m + n) out

/-- **An argument is read.** -/
inductive ReadsArg : Cursor → ℕ → Outcome TypeRef → Prop
  /-- It is a type. -/
  | type {s : Cursor} {n : ℕ} {out : Outcome TypeRef} :
      s.past? '?' = none → ReadsType s.pastBlanks n out → ReadsArg s n out
  /-- It is a wildcard without a bound. -/
  | wildcard {s behind : Cursor} :
      s.past? '?' = some behind → behind.pastKeyword? = none →
      ReadsArg s 0 (.ok (wildcard, behind.pastBlanks))
  /-- The bound of a wildcard cannot be read. -/
  | misbounded {s behind bound : Cursor} {side : Bound} {n : ℕ} {e : TypeError} :
      s.past? '?' = some behind → behind.pastKeyword? = some (side, bound) →
      ReadsType bound n (.error e) → ReadsArg s n (.error e)
  /-- It is a bare primitive. -/
  | primitiveBound {s behind bound last : Cursor} {side : Bound} {t : TypeRef} {n : ℕ} :
      s.past? '?' = some behind → behind.pastKeyword? = some (side, bound) →
      ReadsType bound n (.ok (t, last)) → t.isPrimitive = true →
      ReadsArg s n (.error (last.fail .primitiveBound))
  /-- It is any other type. -/
  | bounded {s behind bound last : Cursor} {side : Bound} {t : TypeRef} {n : ℕ} :
      s.past? '?' = some behind → behind.pastKeyword? = some (side, bound) →
      ReadsType bound n (.ok (t, last)) → t.isPrimitive = false →
      ReadsArg s n (.ok (bounded side t, last))

/-- Arguments are read: one, and more of them in a loop. -/
inductive ReadsArgs : Cursor → ℕ → Outcome (List TypeRef) → Prop
  /-- The first argument cannot be read. -/
  | misread {s : Cursor} {n : ℕ} {e : TypeError} :
      ReadsArg s n (.error e) → ReadsArgs s n (.error e)
  /-- The loop begins behind the first argument. -/
  | loop {s behind : Cursor} {arg : TypeRef} {m n : ℕ} {out : Outcome (List TypeRef)} :
      ReadsArg s m (.ok (arg, behind)) → ArgLoop behind [arg] n out → ReadsArgs s (m + n) out

/-- **The loop over arguments**, which adds to those that have been read.
Its own rounds and those of the loops in its arguments are counted alike. -/
inductive ArgLoop : Cursor → List TypeRef → ℕ → Outcome (List TypeRef) → Prop
  /-- No comma follows. -/
  | done {s : Cursor} {args : List TypeRef} :
      s.past? ',' = none → ArgLoop s args 0 (.ok (args, s.pastBlanks))
  /-- The argument behind the comma cannot be read. -/
  | misread {s next : Cursor} {args : List TypeRef} {n : ℕ} {e : TypeError} :
      s.past? ',' = some next → ReadsArg next n (.error e) → ArgLoop s args (n + 1) (.error e)
  /-- The loop goes on behind the argument. -/
  | again {s next behind : Cursor} {args : List TypeRef} {arg : TypeRef} {m n : ℕ}
      {out : Outcome (List TypeRef)} :
      s.past? ',' = some next → ReadsArg next m (.ok (arg, behind)) →
      ArgLoop behind (args ++ [arg]) n out → ArgLoop s args (m + n + 1) out

end

/-- **A whole text is read**: a type, behind which nothing but blanks may stand. -/
inductive ReadsText : String → ℕ → Except TypeError TypeRef → Prop
  /-- The type cannot be read. -/
  | misread {text : String} {n : ℕ} {e : TypeError} :
      (start text).ReadsType n (.error e) → ReadsText text n (.error e)
  /-- More stands behind it. -/
  | trailing {text : String} {s : Cursor} {t : TypeRef} {n : ℕ} :
      (start text).ReadsType n (.ok (t, s)) → s.pastBlanks.rest ≠ [] →
      ReadsText text n (.error ⟨text, .trailing (String.ofList s.pastBlanks.rest)⟩)
  /-- The text ends there. -/
  | whole {text : String} {s : Cursor} {t : TypeRef} {n : ℕ} :
      (start text).ReadsType n (.ok (t, s)) → s.pastBlanks.rest = [] → ReadsText text n (.ok t)

variable {s s' s'' : Cursor} {c : Char} {t : TypeRef} {j k l m n : ℕ}
variable {α : Type} {out : Outcome α}

/-! ## Moving on -/

/-- **A cursor is so many characters ahead of another**, or more, in the same text. -/
structure Ahead (k : ℕ) (s s' : Cursor) : Prop where
  /-- The text is the same. -/
  input_eq : s'.input = s.input
  /-- What is left is an end of what was left before. -/
  suffix : s'.rest <:+ s.rest
  /-- It is shorter by so many characters. -/
  length_add_le : s'.rest.length + k ≤ s.rest.length

namespace Ahead

theorem trans (h : Ahead j s s') (h' : Ahead k s' s'') : Ahead (j + k) s s'' := by
  refine ⟨h'.input_eq.trans h.input_eq, h'.suffix.trans h.suffix, ?_⟩
  have := h.length_add_le
  have := h'.length_add_le
  omega

theorem mono (h : Ahead k s s') (hjk : j ≤ k) : Ahead j s s' :=
  ⟨h.input_eq, h.suffix, by have := h.length_add_le; omega⟩

end Ahead

/-- Skipping blanks loses nothing else. -/
theorem ahead_pastBlanks (s : Cursor) : Ahead 0 s s.pastBlanks :=
  ⟨rfl, List.dropWhile_suffix isBlank, length_skipBlanks_le s.rest⟩

/-- The cursor behind a character is where the text goes on there. -/
theorem past?_eq_some (h : s.past? c = some s') :
    s'.input = s.input ∧ eat? c s.rest = some s'.rest := by
  obtain ⟨rest, -, hrest, rfl⟩ := Option.pmap_eq_some_iff.1 h
  exact ⟨rfl, hrest⟩

/-- No character is passed where none is taken. -/
theorem past?_eq_none : s.past? c = none ↔ eat? c s.rest = none := Option.pmap_eq_none_iff

/-- Behind a character there is one less to read. -/
theorem ahead_past? (h : s.past? c = some s') : Ahead 1 s s' := by
  obtain ⟨hinput, hrest⟩ := past?_eq_some h
  exact ⟨hinput, suffix_of_eat? hrest, length_eat?_lt hrest⟩

/-- And so with the cursor behind a word. -/
theorem pastWord?_eq_some {word : List Char} (h : s.pastWord? word = some s') :
    s'.input = s.input ∧ eatWord? word s.rest = some s'.rest := by
  obtain ⟨rest, -, hrest, rfl⟩ := Option.pmap_eq_some_iff.1 h
  exact ⟨rfl, hrest⟩

theorem pastWord?_eq_none {word : List Char} :
    s.pastWord? word = none ↔ eatWord? word s.rest = none := Option.pmap_eq_none_iff

/-- The keyword of an upper bound is looked for first, then that of a lower one. -/
theorem pastKeyword?_eq_some {side : Bound} (h : s.pastKeyword? = some (side, s')) :
    s'.input = s.input ∧ eatWord? side.keyword.toList s.rest = some s'.rest ∧
      (side = .lower → eatWord? Bound.upper.keyword.toList s.rest = none) := by
  unfold pastKeyword? at h
  split at h
  · next bound hupper =>
    cases h
    obtain ⟨hinput, hrest⟩ := pastWord?_eq_some hupper
    exact ⟨hinput, hrest, fun hside => nomatch hside⟩
  · next hupper =>
    obtain ⟨bound, hlower, hpair⟩ := Option.map_eq_some_iff.1 h
    cases hpair
    obtain ⟨hinput, hrest⟩ := pastWord?_eq_some hlower
    exact ⟨hinput, hrest, fun _ => pastWord?_eq_none.1 hupper⟩

/-- There is no bound where neither keyword stands. -/
theorem pastKeyword?_eq_none (h : s.pastKeyword? = none) (side : Bound) :
    eatWord? side.keyword.toList s.rest = none := by
  unfold pastKeyword? at h
  split at h
  · cases h
  · next hupper =>
    cases side with
    | upper => exact pastWord?_eq_none.1 hupper
    | lower => exact pastWord?_eq_none.1 (Option.map_eq_none_iff.1 h)

/-- A keyword is passed. -/
theorem ahead_pastKeyword? {side : Bound} (h : s.pastKeyword? = some (side, s')) :
    Ahead 0 s s' := by
  obtain ⟨hinput, hrest, -⟩ := pastKeyword?_eq_some h
  exact ⟨hinput, suffix_of_eatWord? hrest, length_eatWord?_le hrest⟩

/-- A name that stands for something has a first character. -/
theorem ahead_pastName {x : Primitive ⊕ ClassName} (h : s.head = .ok x) :
    Ahead 1 s s.pastName := by
  have hname : nameOf s.rest ≠ [] := by
    intro hname
    rw [head, if_pos hname] at h
    cases h
  exact ⟨rfl, behindName_suffix s.rest, length_behindName_lt hname⟩

/-- Arguments begin behind a name and a bracket. -/
theorem ahead_arguments {x : Primitive ⊕ ClassName} (hhead : s.head = .ok x)
    (hopen : s.pastName.past? '<' = some s') : Ahead 2 s s' :=
  (ahead_pastName hhead).trans (ahead_past? hopen)

/-- A bound begins behind a question mark and a keyword. -/
theorem ahead_bound {side : Bound} (hmark : s.past? '?' = some s')
    (hside : s'.pastKeyword? = some (side, s'')) : Ahead 1 s s'' :=
  (ahead_past? hmark).trans (ahead_pastKeyword? hside)

/-- A name that is refused is reported with the whole text, also when it
is refused as that of a class. -/
theorem input_of_head {e : TypeError} (h : s.head = .error e) : e.input = s.input := by
  unfold head at h
  split at h
  · cases h
    rfl
  · split at h
    · cases h
    · split at h
      · cases h
      · cases h
        rfl

/-! ## Progress -/

/-- **A reading makes progress**: if it went `n` rounds, it passes `n`
characters and `k` more, or it fails with an error that names the whole
text and there was a character for each round. -/
def Passes (s : Cursor) (n k : ℕ) : Outcome α → Prop
  | .ok (_, s') => Ahead (n + k) s s'
  | .error e => e.input = s.input ∧ n ≤ s.rest.length

/-- A reading that succeeds leaves a cursor further on. -/
theorem Passes.ahead {a : α} (h : s.Passes n k (.ok (a, s') : Outcome α)) : Ahead (n + k) s s' := h

/-- Either way there was a character for each round. -/
theorem Passes.rounds_le (h : s.Passes n k out) : n ≤ s.rest.length := by
  match out, h with
  | .ok (_, s'), hahead =>
    have := hahead.length_add_le
    omega
  | .error e, ⟨_, hle⟩ => exact hle

/-- An error that is met further on is one met from here. -/
theorem Ahead.passes_error {β : Type} {e : TypeError} (h : Ahead j s s')
    (hout : s'.Passes n k (.error e : Outcome β)) (hrounds : m ≤ j + n) :
    s.Passes m l (.error e : Outcome α) := by
  obtain ⟨hinput, hle⟩ := hout
  refine ⟨hinput.trans h.input_eq, ?_⟩
  have := h.length_add_le
  omega

/-- And so is a refusal. -/
theorem Ahead.passes_fail (h : Ahead j s s') (r : Refusal) (hrounds : n ≤ j) :
    s.Passes n k (.error (s'.fail r) : Outcome α) :=
  ⟨h.input_eq, by have := h.length_add_le; omega⟩

/-- Progress from a cursor further on is progress from here. -/
theorem Ahead.passes (h : Ahead j s s') (hout : s'.Passes n k out) (hrounds : m ≤ j + n)
    (hmore : m + l ≤ j + (n + k)) : s.Passes m l out := by
  match out, hout with
  | .ok (_, s''), hahead => exact (h.trans hahead).mono hmore
  | .error e, hout => exact h.passes_error hout hrounds

/-- The loop over brackets passes two characters in each round that ends. -/
theorem BracketLoop.passes {out : Outcome TypeRef} (h : s.BracketLoop t n out) :
    s.Passes n 0 out := by
  induction h with
  | @done s t hopen => exact ahead_pastBlanks s
  | unclosed hopen _ => exact (ahead_past? hopen).passes_fail _ le_rfl
  | again hopen hclose _ ih =>
    exact ((ahead_past? hopen).trans (ahead_past? hclose)).passes ih (by omega) (by omega)

mutual

/-- **A type is read with progress**: beside the characters of the loops,
that of its name is passed. -/
theorem ReadsType.passes {s : Cursor} {n : ℕ} {out : Outcome TypeRef}
    (h : s.ReadsType n out) : s.Passes n 1 out := by
  match h with
  | .misnamed hhead => exact ⟨input_of_head hhead, Nat.zero_le _⟩
  | .primitive hhead hloop =>
    exact (ahead_pastName hhead).passes hloop.passes (by omega) (by omega)
  | .plain hhead _ hloop =>
    have hname := (ahead_pastName hhead).trans (ahead_pastBlanks _)
    exact hname.passes hloop.passes (by omega) (by omega)
  | .misapplied hhead hopen hargs =>
    exact (ahead_arguments hhead hopen).passes_error hargs.passes (by omega)
  | .unclosed hhead hopen hargs _ =>
    have hlast := (ahead_arguments hhead hopen).trans hargs.passes.ahead
    exact hlast.passes_fail _ (by omega)
  | .applied hhead hopen hargs hclose hloop =>
    have hlast := (ahead_arguments hhead hopen).trans hargs.passes.ahead
    exact (hlast.trans (ahead_past? hclose)).passes hloop.passes (by omega) (by omega)

/-- So is an argument. -/
theorem ReadsArg.passes {s : Cursor} {n : ℕ} {out : Outcome TypeRef}
    (h : s.ReadsArg n out) : s.Passes n 1 out := by
  match h with
  | .type _ htype => exact (ahead_pastBlanks _).passes htype.passes (by omega) (by omega)
  | .wildcard hmark _ => exact (ahead_past? hmark).trans (ahead_pastBlanks _)
  | .misbounded hmark hside htype =>
    exact (ahead_bound hmark hside).passes_error htype.passes (by omega)
  | .primitiveBound hmark hside htype _ =>
    have hlast := (ahead_bound hmark hside).trans htype.passes.ahead
    exact hlast.passes_fail _ (by omega)
  | .bounded hmark hside htype _ =>
    have hlast := (ahead_bound hmark hside).trans htype.passes.ahead
    exact hlast.mono (by omega)

/-- So are arguments. -/
theorem ReadsArgs.passes {s : Cursor} {n : ℕ} {out : Outcome (List TypeRef)}
    (h : s.ReadsArgs n out) : s.Passes n 1 out := by
  match h with
  | .misread harg => exact harg.passes
  | .loop harg hloop => exact harg.passes.ahead.passes hloop.passes (by omega) (by omega)

/-- And the loop over them passes a comma in each round. -/
theorem ArgLoop.passes {s : Cursor} {args : List TypeRef} {n : ℕ}
    {out : Outcome (List TypeRef)} (h : s.ArgLoop args n out) : s.Passes n 0 out := by
  match h with
  | .done _ => exact ahead_pastBlanks s
  | .misread hcomma harg => exact (ahead_past? hcomma).passes_error harg.passes (by omega)
  | .again hcomma harg hloop =>
    have hbehind := (ahead_past? hcomma).trans harg.passes.ahead
    exact hbehind.passes hloop.passes (by omega) (by omega)

end

end Cursor

end TypeRef

end Companion
