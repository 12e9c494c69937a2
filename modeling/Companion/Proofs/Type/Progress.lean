import Companion.Proofs.Type.Cursor
import Companion.Proofs.Type.Derivation
import Mathlib.Data.List.DropRight

/-!
# Progress — every reading ends

From every cursor a type, an argument and both loops have an outcome
(`halts`): each is read behind a cursor that is further on, where there is
less left. The outcome is what the readers of the library answer to the
text that is left (`ReadsType.tells`), which makes it the only one, and a
text as a whole is read as `ofText` says (`readings_make_progress`).
-/

namespace Companion

namespace TypeRef

open Text

namespace Cursor

variable {s s' : Cursor} {t : TypeRef} {args : List TypeRef} {m n k : ℕ}
variable {α : Type}

/-! ## Readings end -/

/-- A reading comes to an outcome. -/
def Halts (reads : ℕ → Outcome α → Prop) : Prop := ∃ n out, reads n out

/-- The loop over brackets ends, from any cursor. -/
theorem halts_bracketLoop (s : Cursor) (t : TypeRef) : Halts (s.BracketLoop t) := by
  induction hlen : s.rest.length using Nat.strongRecOn generalizing s t with
  | ind len ih =>
    cases hopen : s.past? '[' with
    | none => exact ⟨0, _, .done hopen⟩
    | some inside =>
      cases hclose : inside.past? ']' with
      | none => exact ⟨1, _, .unclosed hopen hclose⟩
      | some behind =>
        have hahead := (ahead_past? hopen).trans (ahead_past? hclose)
        have hlt := hahead.length_add_le
        obtain ⟨n, out, hloop⟩ := ih behind.rest.length (by omega) behind (array t) rfl
        exact ⟨n + 1, out, .again hopen hclose hloop⟩

/-- A type is read if arguments are, wherever they begin behind it. -/
theorem halts_readsType (hargs : ∀ s', Ahead 1 s s' → Halts s'.ReadsArgs) :
    Halts s.ReadsType := by
  cases hhead : s.head with
  | error e => exact ⟨0, _, .misnamed hhead⟩
  | ok x =>
    cases x with
    | inl p =>
      obtain ⟨n, out, hloop⟩ := halts_bracketLoop s.pastName (primitive p)
      exact ⟨n, out, .primitive hhead hloop⟩
    | inr c =>
      cases hopen : s.pastName.past? '<' with
      | none =>
        obtain ⟨n, out, hloop⟩ := halts_bracketLoop s.pastName.pastBlanks (named c)
        exact ⟨n, out, .plain hhead hopen hloop⟩
      | some inner =>
        obtain ⟨m, ⟨e⟩ | ⟨args, last⟩, hlist⟩ :=
          hargs inner ((ahead_arguments hhead hopen).mono (by omega))
        · exact ⟨m, _, .misapplied hhead hopen hlist⟩
        · cases hclose : last.past? '>' with
          | none => exact ⟨m, _, .unclosed hhead hopen hlist hclose⟩
          | some behind =>
            obtain ⟨n, out, hloop⟩ := halts_bracketLoop behind (parameterized c args)
            exact ⟨m + n, out, .applied hhead hopen hlist hclose hloop⟩

/-- An argument is read if types are, here and further on. -/
theorem halts_readsArg (htype : ∀ s', Ahead 0 s s' → Halts s'.ReadsType) : Halts s.ReadsArg := by
  cases hmark : s.past? '?' with
  | none =>
    obtain ⟨n, out, hread⟩ := htype s.pastBlanks (ahead_pastBlanks s)
    exact ⟨n, out, .type hmark hread⟩
  | some behind =>
    cases hside : behind.pastKeyword? with
    | none => exact ⟨0, _, .wildcard hmark hside⟩
    | some found =>
      obtain ⟨side, bound⟩ := found
      obtain ⟨n, ⟨e⟩ | ⟨t, last⟩, hread⟩ :=
        htype bound ((ahead_bound hmark hside).mono (by omega))
      · exact ⟨n, _, .misbounded hmark hside hread⟩
      · cases hprim : t.isPrimitive with
        | true => exact ⟨n, _, .primitiveBound hmark hside hread hprim⟩
        | false => exact ⟨n, _, .bounded hmark hside hread hprim⟩

/-- Arguments are read if the first is, and the loop ends behind it. -/
theorem halts_readsArgs (harg : Halts s.ReadsArg)
    (hloop : ∀ s', Ahead 1 s s' → ∀ args, Halts (s'.ArgLoop args)) : Halts s.ReadsArgs := by
  obtain ⟨m, ⟨e⟩ | ⟨arg, behind⟩, hread⟩ := harg
  · exact ⟨m, _, .misread hread⟩
  · obtain ⟨n, out, hmore⟩ := hloop behind (hread.passes.ahead.mono (by omega)) [arg]
    exact ⟨m + n, out, .loop hread hmore⟩

/-- The loop over arguments ends if arguments are read further on and it
ends further on. -/
theorem halts_argLoop (harg : ∀ s', Ahead 1 s s' → Halts s'.ReadsArg)
    (hloop : ∀ s', Ahead 1 s s' → ∀ args, Halts (s'.ArgLoop args)) (args : List TypeRef) :
    Halts (s.ArgLoop args) := by
  cases hcomma : s.past? ',' with
  | none => exact ⟨0, _, .done hcomma⟩
  | some next =>
    have hnext := ahead_past? hcomma
    obtain ⟨m, ⟨e⟩ | ⟨arg, behind⟩, hread⟩ := harg next hnext
    · exact ⟨m + 1, _, .misread hcomma hread⟩
    · have hbehind := (hnext.trans hread.passes.ahead).mono (by omega : 1 ≤ _)
      obtain ⟨n, out, hmore⟩ := hloop behind hbehind (args ++ [arg])
      exact ⟨m + n + 1, out, .again hcomma hread hmore⟩

/-- **Readings end**, from any cursor: by induction on what is left, as all
that a reading waits for is read further on. -/
theorem halts (s : Cursor) :
    Halts s.ReadsType ∧ Halts s.ReadsArg ∧ ∀ args, Halts (s.ArgLoop args) := by
  induction hlen : s.rest.length using Nat.strongRecOn generalizing s with
  | ind len ih =>
    have hshort : ∀ s', Ahead 1 s s' →
        Halts s'.ReadsType ∧ Halts s'.ReadsArg ∧ ∀ args, Halts (s'.ArgLoop args) := by
      intro s' hahead
      have hlt := hahead.length_add_le
      exact ih s'.rest.length (by omega) s' rfl
    have hloop : ∀ s', Ahead 1 s s' → ∀ args, Halts (s'.ArgLoop args) :=
      fun s' hahead => (hshort s' hahead).2.2
    have hargs : ∀ s', Ahead 1 s s' → Halts s'.ReadsArgs := fun s' hahead =>
      halts_readsArgs (hshort s' hahead).2.1 fun s'' hbehind =>
        hloop s'' ((hahead.trans hbehind).mono (by omega))
    -- types come before arguments: an argument may begin with the type at the same cursor
    have htype : ∀ s', Ahead 0 s s' → Halts s'.ReadsType := fun s' hahead =>
      halts_readsType fun s'' hbehind => hargs s'' ((hahead.trans hbehind).mono (by omega))
    have hhere : Ahead 0 s s := ⟨rfl, List.suffix_rfl, le_rfl⟩
    exact ⟨htype s hhere, halts_readsArg htype,
      halts_argLoop (fun s' hahead => (hshort s' hahead).2.1) hloop⟩

/-! ## The outcome is the answer of the reader -/

/-- **An outcome is the answer of a reader**: the same value or the same
refusal. What is left is the same up to the blanks in front of it, which
a cursor has passed when it looked for more. -/
def Tells (answer : Except Refusal (α × List Char)) : Outcome α → Prop
  | .ok (a, s) => ∃ rest, answer = .ok (a, rest) ∧ s.rest = skipBlanks rest
  | .error e => answer = .error e.refusal

/-- Blanks are skipped once. -/
theorem skipBlanks_skipBlanks (cs : List Char) : skipBlanks (skipBlanks cs) = skipBlanks cs :=
  List.dropWhile_idempotent isBlank cs

/-- A character is taken from behind the blanks in any case. -/
theorem eat?_skipBlanks (c : Char) (cs : List Char) : eat? c (skipBlanks cs) = eat? c cs := by
  rw [eat?, eat?, skipBlanks_skipBlanks]

/-- So is a type. -/
theorem typeAt_skipBlanks (cs : List Char) : typeAt (skipBlanks cs) = typeAt cs := by
  obtain ⟨b, hb, hcs⟩ := exists_blanks cs
  have happend := typeAt_blanks_append hb (skipBlanks cs)
  rwa [← hcs, eq_comm] at happend

/-- Blanks make no difference to a reader that first looks for a character
and leaves all as it is where there is none. -/
theorem Tells.of_skipBlanks {c : Char} {a : α} {cs : List Char} {out : Outcome α}
    {reader goOn : List Char → Except Refusal (α × List Char)}
    (hreader : ∀ ds, reader ds = match eat? c ds with
      | none => .ok (a, ds)
      | some more => goOn more)
    (h : Tells (reader (skipBlanks cs)) out) : Tells (reader cs) out := by
  rw [hreader, eat?_skipBlanks] at h
  rw [hreader]
  cases hfound : eat? c cs with
  | some more => rwa [hfound] at h
  | none =>
    rw [hfound] at h
    match out, h with
    | .ok (b, s), ⟨rest, hanswer, hrest⟩ =>
      cases hanswer
      exact ⟨cs, rfl, hrest.trans (skipBlanks_skipBlanks cs)⟩

/-- The loop over brackets tells what the reader of brackets answers. -/
theorem BracketLoop.tells {out : Outcome TypeRef} (h : s.BracketLoop t n out) :
    Tells (bracketsAt t s.rest) out := by
  induction h with
  | @done s t hopen =>
    refine ⟨s.rest, ?_, rfl⟩
    rw [bracketsAt_eq, past?_eq_none.1 hopen]
  | unclosed hopen hclose =>
    rw [bracketsAt_eq, (past?_eq_some hopen).2]
    simp only [past?_eq_none.1 hclose]
    rfl
  | again hopen hclose _ ih =>
    rw [bracketsAt_eq, (past?_eq_some hopen).2]
    simp only [(past?_eq_some hclose).2]
    exact ih

/-- The text of a name has no blanks to trim. -/
theorem ofText_nameOf (cs : List Char) :
    ClassName.ofText (String.ofList (nameOf cs))
      = (ClassName.read (nameOf cs)).mapError (⟨String.ofList (nameOf cs), ·⟩) := by
  have htrim : trim (nameOf cs) = nameOf cs :=
    trim_of_forall_not_blank fun x hx => isBlank_of_isTypeNameChar (isTypeNameChar_of_mem_nameOf hx)
  rw [ClassName.ofText, String.toList_ofList, htrim]

/-- **What a type is read as** depends on what its name stands for. -/
theorem typeAt_rest (s : Cursor) :
    typeAt s.rest =
      match s.head with
      | .error e => .error e.refusal
      | .ok (.inl p) => bracketsAt (primitive p) s.pastName.rest
      | .ok (.inr c) =>
        match eat? '<' s.pastName.rest with
        | none => bracketsAt (named c) s.pastName.rest
        | some inner => (do
          let (args, after) ← argsAt inner
          match eat? '>' after with
          | none => .error .openArguments
          | some rest => bracketsAt (parameterized c args) rest) := by
  rw [typeAt_eq, head]
  by_cases hname : nameOf s.rest = []
  · simp only [if_pos hname]
    rfl
  · simp only [if_neg hname]
    cases Primitive.ofKeyword? (nameOf s.rest) with
    | some p => rfl
    | none =>
      rw [ofText_nameOf]
      cases ClassName.read (nameOf s.rest) with
      | error r => rfl
      | ok c => rfl

/-- A bounded wildcard is what its bound is read as, unless that is a bare primitive. -/
theorem argAt_of_pastKeyword? {behind bound : Cursor} {side : Bound}
    (hmark : s.past? '?' = some behind) (hside : behind.pastKeyword? = some (side, bound)) :
    argAt s.rest = (do
      let (t, rest) ← typeAt bound.rest
      if t.isPrimitive then .error .primitiveBound else .ok (bounded side t, rest)) := by
  obtain ⟨-, hbound, hupper⟩ := pastKeyword?_eq_some hside
  rw [argAt_eq, (past?_eq_some hmark).2, ← map_pair_readBound]
  cases side with
  | upper => simp only [hbound]
  | lower => simp only [hupper rfl, hbound]

/-- Arguments that follow those that have been read, and the rest. -/
def moreArgsAt (args : List TypeRef) (cs : List Char) : Except Refusal (List TypeRef × List Char) :=
  match eat? ',' cs with
  | none => .ok (args, cs)
  | some more => (argsAt more).map fun (next, rest) => (args ++ next, rest)

/-- Arguments are one, and those that follow it. -/
theorem argsAt_eq_bind (cs : List Char) :
    argsAt cs = (do
      let (arg, after) ← argAt cs
      moreArgsAt [arg] after) := by
  rw [argsAt_eq]
  cases argAt cs with
  | error r => rfl
  | ok found =>
    obtain ⟨arg, after⟩ := found
    simp only [bind, Except.bind, moreArgsAt]
    cases eat? ',' after with
    | none => rfl
    | some more => cases argsAt more <;> rfl

/-- What has been read before stands in front of all of them. -/
theorem map_moreArgsAt (args ts : List TypeRef) (cs : List Char) :
    (moreArgsAt ts cs).map (fun (next, rest) => (args ++ next, rest))
      = moreArgsAt (args ++ ts) cs := by
  rw [moreArgsAt, moreArgsAt]
  cases eat? ',' cs with
  | none => rfl
  | some more =>
    dsimp only
    cases argsAt more with
    | error r => rfl
    | ok found => simp only [Except.map, List.append_assoc]

/-- **Those that follow** are none, or one behind a comma and those that follow it. -/
theorem moreArgsAt_eq (args : List TypeRef) (cs : List Char) :
    moreArgsAt args cs =
      match eat? ',' cs with
      | none => .ok (args, cs)
      | some more => (do
        let (arg, after) ← argAt more
        moreArgsAt (args ++ [arg]) after) := by
  rw [moreArgsAt]
  cases eat? ',' cs with
  | none => rfl
  | some more =>
    simp only [argsAt_eq_bind]
    cases argAt more with
    | error r => rfl
    | ok found => exact map_moreArgsAt args [found.1] found.2

mutual

/-- **A type that is read is the one that the reader of types answers.** -/
theorem ReadsType.tells {s : Cursor} {n : ℕ} {out : Outcome TypeRef} (h : s.ReadsType n out) :
    Tells (typeAt s.rest) out := by
  match h with
  | .misnamed hhead =>
    rw [typeAt_rest, hhead]
    rfl
  | .primitive hhead hloop =>
    rw [typeAt_rest, hhead]
    exact hloop.tells
  | .plain hhead hopen hloop =>
    rw [typeAt_rest, hhead]
    simp only [past?_eq_none.1 hopen]
    -- looking for arguments, the cursor has skipped blanks that the reader leaves to the brackets
    exact .of_skipBlanks (bracketsAt_eq _) hloop.tells
  | .misapplied hhead hopen hargs =>
    have hanswer : argsAt _ = .error _ := hargs.tells
    rw [typeAt_rest, hhead]
    simp only [(past?_eq_some hopen).2, hanswer]
    rfl
  | .unclosed hhead hopen hargs hclose =>
    obtain ⟨after, hanswer, hlast⟩ := hargs.tells
    rw [past?_eq_none, hlast, eat?_skipBlanks] at hclose
    rw [typeAt_rest, hhead]
    simp only [(past?_eq_some hopen).2, hanswer, bind, Except.bind, hclose]
    rfl
  | .applied hhead hopen hargs hclose hloop =>
    obtain ⟨after, hanswer, hlast⟩ := hargs.tells
    have hbehind := (past?_eq_some hclose).2
    rw [hlast, eat?_skipBlanks] at hbehind
    rw [typeAt_rest, hhead]
    simp only [(past?_eq_some hopen).2, hanswer, bind, Except.bind, hbehind]
    exact hloop.tells

/-- So is an argument. -/
theorem ReadsArg.tells {s : Cursor} {n : ℕ} {out : Outcome TypeRef} (h : s.ReadsArg n out) :
    Tells (argAt s.rest) out := by
  match h with
  | .type hmark htype =>
    have htells : Tells (typeAt (skipBlanks s.rest)) out := htype.tells
    rw [argAt_eq, past?_eq_none.1 hmark]
    rwa [typeAt_skipBlanks] at htells
  | @ReadsArg.wildcard _ behind hmark hside =>
    rw [argAt_eq, (past?_eq_some hmark).2]
    simp only [pastKeyword?_eq_none hside]
    exact ⟨behind.rest, rfl, rfl⟩
  | .misbounded hmark hside htype =>
    have hanswer : typeAt _ = .error _ := htype.tells
    rw [argAt_of_pastKeyword? hmark hside, hanswer]
    rfl
  | .primitiveBound hmark hside htype hprim =>
    obtain ⟨rest, hanswer, -⟩ := htype.tells
    rw [argAt_of_pastKeyword? hmark hside, hanswer]
    simp only [bind, Except.bind, if_pos hprim]
    rfl
  | .bounded hmark hside htype hprim =>
    obtain ⟨rest, hanswer, hlast⟩ := htype.tells
    rw [argAt_of_pastKeyword? hmark hside, hanswer]
    simp only [bind, Except.bind, hprim]
    exact ⟨rest, rfl, hlast⟩

/-- So are arguments. -/
theorem ReadsArgs.tells {s : Cursor} {n : ℕ} {out : Outcome (List TypeRef)}
    (h : s.ReadsArgs n out) : Tells (argsAt s.rest) out := by
  match h with
  | .misread harg =>
    have hanswer : argAt _ = .error _ := harg.tells
    rw [argsAt_eq_bind, hanswer]
    rfl
  | .loop harg hloop =>
    obtain ⟨after, hanswer, hbehind⟩ := harg.tells
    rw [argsAt_eq_bind, hanswer]
    have htells := hloop.tells
    rw [hbehind] at htells
    exact htells.of_skipBlanks (moreArgsAt_eq _)

/-- And the loop over them adds those that follow. -/
theorem ArgLoop.tells {s : Cursor} {args : List TypeRef} {n : ℕ} {out : Outcome (List TypeRef)}
    (h : s.ArgLoop args n out) : Tells (moreArgsAt args s.rest) out := by
  match h with
  | .done hcomma =>
    refine ⟨s.rest, ?_, rfl⟩
    rw [moreArgsAt, past?_eq_none.1 hcomma]
  | .misread hcomma harg =>
    have hanswer : argAt _ = .error _ := harg.tells
    rw [moreArgsAt_eq, (past?_eq_some hcomma).2]
    simp only [hanswer]
    rfl
  | .again hcomma harg hloop =>
    obtain ⟨after, hanswer, hbehind⟩ := harg.tells
    have htells := hloop.tells
    rw [hbehind] at htells
    rw [moreArgsAt_eq, (past?_eq_some hcomma).2]
    simp only [hanswer]
    exact htells.of_skipBlanks (moreArgsAt_eq _)

end

/-- What makes progress and tells the same answer is the same outcome. -/
theorem Tells.unique {answer : Except Refusal (α × List Char)} {out out' : Outcome α}
    (h : Tells answer out) (h' : Tells answer out') (hpasses : s.Passes m k out)
    (hpasses' : s.Passes n k out') : out = out' := by
  match out, out' with
  | .ok (a, s₁), .ok (b, s₂) =>
    obtain ⟨rest, hanswer, hrest⟩ := h
    obtain ⟨rest', hanswer', hrest'⟩ := h'
    cases hanswer.symm.trans hanswer'
    have hinput : s₁.input = s₂.input :=
      hpasses.ahead.input_eq.trans hpasses'.ahead.input_eq.symm
    rw [Cursor.ext hinput (hrest.trans hrest'.symm)]
  | .ok (a, s₁), .error e' =>
    obtain ⟨rest, hanswer, -⟩ := h
    cases hanswer.symm.trans h'
  | .error e, .ok (b, s₂) =>
    obtain ⟨rest, hanswer, -⟩ := h'
    cases hanswer.symm.trans h
  | .error ⟨input, r⟩, .error ⟨input', r'⟩ =>
    have hinput : input = input' := hpasses.1.trans hpasses'.1.symm
    have hrefusal : r = r' := Except.error.inj (h.symm.trans h')
    rw [hinput, hrefusal]

/-- **A kind of reading makes progress at a cursor** and ends there. -/
structure Progresses (s : Cursor) (least : ℕ) (reads : ℕ → Outcome α → Prop)
    (answer : Except Refusal (α × List Char)) : Prop where
  /-- It comes to an outcome. -/
  halts : Halts reads
  /-- It comes to one only. -/
  unique {m n : ℕ} {out out' : Outcome α} : reads m out → reads n out' → out = out'
  /-- The outcome is the answer of the reader. -/
  tells {n : ℕ} {out : Outcome α} : reads n out → Tells answer out
  /-- On success what is left is an end of what was left before, shorter
  by a character for each round of a loop and by so many more. -/
  ahead {n : ℕ} {a : α} {s' : Cursor} : reads n (.ok (a, s')) → Ahead (n + least) s s'
  /-- An error names the whole text. -/
  input {n : ℕ} {e : TypeError} : reads n (.error e) → e.input = s.input
  /-- In any case the loops go round at most once for each character that was left. -/
  rounds {n : ℕ} {out : Outcome α} : reads n out → n ≤ s.rest.length

/-- All of it follows from the answer and the progress of each reading. -/
theorem Progresses.of_passes {reads : ℕ → Outcome α → Prop}
    {answer : Except Refusal (α × List Char)} (halts : Halts reads)
    (htells : ∀ n out, reads n out → Tells answer out)
    (hpasses : ∀ n out, reads n out → s.Passes n k out) : s.Progresses k reads answer where
  halts := halts
  unique h h' := (htells _ _ h).unique (htells _ _ h') (hpasses _ _ h) (hpasses _ _ h')
  tells h := htells _ _ h
  ahead h := (hpasses _ _ h).ahead
  input h := (hpasses _ _ h).1
  rounds h := (hpasses _ _ h).rounds_le

/-! ## Whole texts -/

/-- Behind a type, blanks are all that tells the cursor and the reader apart. -/
theorem ReadsType.exists_rest {text : String} (h : (start text).ReadsType n (.ok (t, s))) :
    ∃ rest, typeAt text.toList = .ok (t, rest) ∧ s.pastBlanks.rest = skipBlanks rest := by
  obtain ⟨rest, hanswer, hrest⟩ := h.tells
  exact ⟨rest, hanswer, (congrArg skipBlanks hrest).trans (skipBlanks_skipBlanks rest)⟩

/-- The outcome of a whole text is what the text is the text of. -/
theorem ReadsText.eq_ofText {text : String} {out : Except TypeError TypeRef}
    (h : ReadsText text n out) : out = ofText text := by
  rw [ofText, read_eq]
  cases h with
  | @misread _ e htype =>
    have hanswer : typeAt text.toList = .error e.refusal := htype.tells
    have hinput : e.input = text := htype.passes.1
    rw [hanswer, ← hinput]
    rfl
  | trailing htype hmore =>
    obtain ⟨rest, hanswer, hblanks⟩ := htype.exists_rest
    rw [hblanks] at hmore ⊢
    rw [hanswer]
    cases hskip : skipBlanks rest with
    | nil => exact absurd hskip hmore
    | cons c cs => simp only [bind, Except.bind, hskip, Except.mapError]
  | whole htype hend =>
    obtain ⟨rest, hanswer, hblanks⟩ := htype.exists_rest
    rw [hblanks] at hend
    rw [hanswer]
    simp only [bind, Except.bind, hend, Except.mapError]

/-- Every text is read, whether it is that of a type or not. -/
theorem exists_readsText (text : String) :
    ∃ n out, ReadsText text n out ∧ n ≤ text.length := by
  obtain ⟨n, out, htype⟩ := (halts (start text)).1
  have hrounds : n ≤ text.length := by
    rw [← String.length_toList]
    exact htype.passes.rounds_le
  match out, htype with
  | .error e, htype => exact ⟨n, _, .misread htype, hrounds⟩
  | .ok (t, s), htype =>
    by_cases hend : s.pastBlanks.rest = []
    · exact ⟨n, _, .whole htype hend, hrounds⟩
    · exact ⟨n, _, .trailing htype hend, hrounds⟩

/-- **Every reading makes progress and ends.** From any cursor, a type and
a type argument are read or refused, and the loops over arguments and
brackets come to their ends. What is left of the text is an end of what
was left before, and shorter by a character at least when a type or an
argument has been read; an error names the whole text; and a loop goes
round at most once for each character that is left, also when the rounds
of the loops nested in it are counted with its own. So every text comes
to the outcome that `ofText` gives, and one that is no text of a type is
refused. -/
theorem readings_make_progress :
    (∀ s : Cursor,
      s.Progresses 1 s.ReadsType (typeAt s.rest) ∧
      s.Progresses 1 s.ReadsArg (argAt s.rest) ∧
      (∀ args, s.Progresses 0 (s.ArgLoop args) (moreArgsAt args s.rest)) ∧
      ∀ t, s.Progresses 0 (s.BracketLoop t) (bracketsAt t s.rest)) ∧
    ∀ text : String,
      (∃ n, ReadsText text n (ofText text) ∧ n ≤ text.length) ∧
      (∀ n out, ReadsText text n out → out = ofText text) ∧
      ((∀ t, ¬ WholeText text.toList t) → ∃ e, ofText text = .error e ∧ e.input = text) := by
  refine ⟨fun s => ?_, fun text => ?_⟩
  · obtain ⟨htype, harg, hloop⟩ := halts s
    exact ⟨.of_passes htype (fun _ _ => ReadsType.tells) fun _ _ => ReadsType.passes,
      .of_passes harg (fun _ _ => ReadsArg.tells) fun _ _ => ReadsArg.passes,
      fun args => .of_passes (hloop args) (fun _ _ => ArgLoop.tells) fun _ _ => ArgLoop.passes,
      fun t => .of_passes (halts_bracketLoop s t) (fun _ _ => BracketLoop.tells)
        fun _ _ => BracketLoop.passes⟩
  · obtain ⟨n, out, htext, hrounds⟩ := exists_readsText text
    have hout := htext.eq_ofText
    refine ⟨⟨n, hout ▸ htext, hrounds⟩, fun _ _ h => h.eq_ofText, fun hnone => ?_⟩
    cases hread : ofText text with
    | ok t => exact absurd (ofText_eq_ok_iff.1 hread) (hnone t)
    | error e => exact ⟨e, rfl, input_of_ofText hread⟩

/-- Behind so many characters of a text. -/
def behind (text : String) (k : ℕ) : Cursor := ⟨text, text.toList.drop k, List.drop_suffix k _⟩

/-- In the middle of a text an array is read in one round, and one comma
too many is refused in the round it begins. -/
theorem readings_make_progress_commas :
    ((behind "Map<A, B[ ]>" 6).ReadsArg 1
        (.ok (array (named ⟨"", "B", []⟩), (behind "Map<A, B[ ]>" 11).pastBlanks)) ∧
      Ahead 2 (behind "Map<A, B[ ]>" 6) (behind "Map<A, B[ ]>" 11).pastBlanks) ∧
    (∃ e, (start "Map<A,,B>").ReadsType 1 (.error e) ∧ e.input = "Map<A,,B>") ∧
    (∀ t, ¬ WholeText "Map<A,,B>".toList t) ∧
    ∃ e, ofText "Map<A,,B>" = .error e ∧ e.input = "Map<A,,B>" := by
  have harray : (behind "Map<A, B[ ]>" 6).ReadsArg 1
      (.ok (array (named ⟨"", "B", []⟩), (behind "Map<A, B[ ]>" 11).pastBlanks)) := by
    have hhead : (behind "Map<A, B[ ]>" 6).pastBlanks.head = .ok (.inr ⟨"", "B", []⟩) := by
      decide +kernel
    have hopen : (behind "Map<A, B[ ]>" 6).pastBlanks.pastName.pastBlanks.past? '['
        = some (behind "Map<A, B[ ]>" 9) := by decide +kernel
    have hclose : (behind "Map<A, B[ ]>" 9).past? ']' = some (behind "Map<A, B[ ]>" 11) := by
      decide +kernel
    refine .type (by decide +kernel) (.plain hhead (by decide +kernel) ?_)
    exact .again hopen hclose (.done (by decide +kernel))
  have htype : (start "Map<A,,B>").ReadsType 1 (.error ⟨"Map<A,,B>", .noTypeName⟩) := by
    have hhead : (start "Map<A,,B>").head = .ok (.inr ⟨"", "Map", []⟩) := by decide +kernel
    have hopen : (start "Map<A,,B>").pastName.past? '<' = some (behind "Map<A,,B>" 4) := by
      decide +kernel
    have hfirst : (behind "Map<A,,B>" 4).pastBlanks.head = .ok (.inr ⟨"", "A", []⟩) := by
      decide +kernel
    have hend : (behind "Map<A,,B>" 4).pastBlanks.pastName.pastBlanks.pastBlanks
        = behind "Map<A,,B>" 5 := by decide +kernel
    have harg := ReadsArg.type (by decide +kernel)
      (.plain hfirst (by decide +kernel) (.done (by decide +kernel)))
    rw [hend] at harg
    have hcomma : (behind "Map<A,,B>" 5).past? ',' = some (behind "Map<A,,B>" 6) := by
      decide +kernel
    have hnext : (behind "Map<A,,B>" 6).ReadsArg 0 (.error ⟨"Map<A,,B>", .noTypeName⟩) :=
      .type (by decide +kernel) (.misnamed (by decide +kernel))
    exact .misapplied hhead hopen (.loop harg (.misread hcomma hnext))
  have hnone : ∀ t, ¬ WholeText "Map<A,,B>".toList t := by
    intro t ht
    cases (ReadsText.misread htype).eq_ofText.trans (ofText_eq_ok_iff.2 ht)
  exact ⟨⟨harray, (readings_make_progress.1 _).2.1.ahead harray⟩,
    ⟨_, htype, (readings_make_progress.1 _).1.input htype⟩, hnone,
    (readings_make_progress.2 _).2.2 hnone⟩

end Cursor

end TypeRef

end Companion
