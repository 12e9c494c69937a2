import Companion.Type.Reader
import Companion.Proofs.Name.Dotted
import Companion.Proofs.Result
import Mathlib.Data.List.Basic
import Mathlib.Data.List.TakeWhile

/-!
# The pieces of a type text, and the readers as equations

A piece is a character, a word or a name with blanks before it: for each
of the three this file says which texts it is taken from and what is
left. The readers built from them return what is left together with a
proof that it is shorter, which is how they end. Here that proof is
forgotten: `typeAt`, `argsAt` and `argAt` are the readers as functions to
a value and a rest, and each satisfies the equation one would write down
for it (`typeAt_eq`, `argsAt_eq`, `argAt_eq`).
-/

namespace Companion

namespace TypeRef

open Text

/-! ## Pieces -/

/-- A text of nothing but blanks. -/
def Blanks (cs : List Char) : Prop := ∀ c ∈ cs, isBlank c = true

/-- A text that cannot continue the name in front of it. -/
def Stops (cs : List Char) : Prop := ∀ c ∈ cs.head?, isTypeNameChar c = false

section Pieces

variable {blanks cs rest word : List Char} {c d : Char}

theorem blanks_nil : Blanks [] := by simp [Blanks]

/-- Blanks in front of a text are skipped. -/
theorem skipBlanks_append (h : Blanks blanks) (cs : List Char) :
    skipBlanks (blanks ++ cs) = skipBlanks cs := List.dropWhile_append_of_pos h

/-- A text is the blanks in front of it and what is left when they are skipped. -/
theorem exists_blanks (cs : List Char) : ∃ b, Blanks b ∧ cs = b ++ skipBlanks cs :=
  ⟨cs.takeWhile isBlank, fun _ hc => List.mem_takeWhile_imp hc,
    List.takeWhile_append_dropWhile.symm⟩

/-- No character of a type name is a blank. -/
theorem isBlank_of_isTypeNameChar (h : isTypeNameChar c = true) : isBlank c = false := by
  simp only [isTypeNameChar, Bool.or_eq_true, beq_iff_eq] at h
  rcases h with (h | rfl) | rfl
  · exact isBlank_of_isNameChar h
  · decide +kernel
  · decide +kernel

/-- And no blank is a character of a type name. -/
theorem isTypeNameChar_of_isBlank (h : isBlank c = true) : isTypeNameChar c = false := by
  by_contra hname
  simp only [Bool.not_eq_false] at hname
  rw [isBlank_of_isTypeNameChar hname] at h
  cases h

/-- Blanks alone stop a name. -/
theorem stops_blanks (hb : Blanks blanks) : Stops blanks :=
  fun x hx => isTypeNameChar_of_isBlank (hb x (List.mem_of_mem_head? hx))

/-- And so does any other character that is not part of one, also behind blanks. -/
theorem stops_append (hb : Blanks blanks) (h : isTypeNameChar c = false) (cs : List Char) :
    Stops (blanks ++ c :: cs) := by
  intro x hx
  rcases blanks with - | ⟨b, bs⟩
  · cases hx
    exact h
  · cases hx
    exact isTypeNameChar_of_isBlank (hb x (by simp))

/-- **A character is taken from the texts that begin with it behind blanks.** -/
theorem eat?_append (hb : Blanks blanks) (hc : isBlank c = false) (rest : List Char) :
    eat? c (blanks ++ c :: rest) = some rest := by
  have hskip : skipBlanks (blanks ++ c :: rest) = c :: rest := by
    rw [skipBlanks_append hb, skipBlanks, List.dropWhile_cons_of_neg (by simp [hc])]
  rw [eat?, hskip]
  exact if_pos rfl

/-- Another character is not taken. -/
theorem eat?_append_of_ne (hb : Blanks blanks) (hd : isBlank d = false) (h : d ≠ c)
    (rest : List Char) : eat? c (blanks ++ d :: rest) = none := by
  have hskip : skipBlanks (blanks ++ d :: rest) = d :: rest := by
    rw [skipBlanks_append hb, skipBlanks, List.dropWhile_cons_of_neg (by simp [hd])]
  rw [eat?, hskip]
  exact if_neg h

/-- And none is taken from blanks. -/
theorem eat?_blanks (hb : Blanks blanks) : eat? c blanks = none := by
  have hskip : skipBlanks blanks = [] := by
    rw [skipBlanks, List.dropWhile_eq_nil_iff]
    exact hb
  rw [eat?, hskip]

/-- What is left behind a character stands behind it and its blanks. -/
theorem exists_of_eat? (h : eat? c cs = some rest) :
    ∃ b, Blanks b ∧ cs = b ++ c :: rest := by
  obtain ⟨b, hb, hcs⟩ := exists_blanks cs
  unfold eat? at h
  split at h
  · cases h
  · next d ds hskip =>
    split at h
    · next hd =>
      cases h
      exact ⟨b, hb, by rw [hcs, hskip, hd]⟩
    · cases h

/-- **A word is taken from the texts that begin with it behind blanks**,
when no name goes on behind it. -/
theorem eatWord?_append (hb : Blanks blanks) (hc : isBlank c = false)
    (hrest : ∀ x ∈ rest.head?, isNameChar x = false) :
    eatWord? (c :: word) (blanks ++ c :: word ++ rest) = some rest := by
  have hskip : skipBlanks (blanks ++ c :: word ++ rest) = (c :: word) ++ rest := by
    rw [List.append_assoc, skipBlanks_append hb, List.cons_append, skipBlanks,
      List.dropWhile_cons_of_neg (by simp [hc])]
  have htake : (c :: word).isPrefixOf? ((c :: word) ++ rest) = some rest :=
    List.isPrefixOf?_eq_some_iff_append_eq.2 rfl
  have hany : rest.head?.any isNameChar = false := by
    cases hhead : rest.head? with
    | none => rfl
    | some x => exact hrest x hhead
  rw [eatWord?, hskip, htake]
  simp [hany]

/-- A text that begins with another character holds another word. -/
theorem eatWord?_append_of_ne (hb : Blanks blanks) (hd : isBlank d = false) (h : d ≠ c)
    (rest : List Char) : eatWord? (c :: word) (blanks ++ d :: rest) = none := by
  have hskip : skipBlanks (blanks ++ d :: rest) = d :: rest := by
    rw [skipBlanks_append hb, skipBlanks, List.dropWhile_cons_of_neg (by simp [hd])]
  have htake : (c :: word).isPrefixOf? (d :: rest) = none := if_neg (by simpa using Ne.symm h)
  rw [eatWord?, hskip, htake]

/-- What is left behind a word stands behind it and its blanks, and no
name goes on there. -/
theorem exists_of_eatWord? (h : eatWord? word cs = some rest) :
    ∃ b, Blanks b ∧ cs = b ++ word ++ rest ∧ ∀ x ∈ rest.head?, isNameChar x = false := by
  obtain ⟨b, hb, hcs⟩ := exists_blanks cs
  unfold eatWord? at h
  split at h
  · cases h
  · next r htake =>
    split at h
    · cases h
    · next hany =>
      cases h
      refine ⟨b, hb, ?_, fun x hx => ?_⟩
      · rw [hcs, ← append_of_isPrefixOf? htake, List.append_assoc]
      · rw [Option.mem_def.1 hx] at hany
        simpa using hany

/-- **A name is the run of its characters behind blanks.** -/
theorem nameOf_append (hb : Blanks blanks) (hword : ∀ x ∈ word, isTypeNameChar x = true)
    (hne : word ≠ []) (hrest : Stops rest) :
    nameOf (blanks ++ word ++ rest) = word ∧ behindName (blanks ++ word ++ rest) = rest := by
  have hskip : skipBlanks (blanks ++ word ++ rest) = word ++ rest := by
    obtain ⟨w, ws, rfl⟩ := List.exists_cons_of_ne_nil hne
    have hw := isBlank_of_isTypeNameChar (hword w (by simp))
    rw [List.append_assoc, skipBlanks_append hb, List.cons_append, skipBlanks,
      List.dropWhile_cons_of_neg (by simp [hw])]
  have htake : rest.takeWhile isTypeNameChar = [] ∧ rest.dropWhile isTypeNameChar = rest := by
    cases rest with
    | nil => exact ⟨rfl, rfl⟩
    | cons r rs =>
      have hr : isTypeNameChar r = false := hrest r rfl
      exact ⟨List.takeWhile_cons_of_neg (by simp [hr]), List.dropWhile_cons_of_neg (by simp [hr])⟩
  rw [nameOf, behindName, hskip, List.takeWhile_append_of_pos hword,
    List.dropWhile_append_of_pos hword, htake.1, htake.2, List.append_nil]
  exact ⟨rfl, rfl⟩

/-- What is left behind a name stands behind it and its blanks. -/
theorem exists_name (cs : List Char) :
    ∃ b, Blanks b ∧ cs = b ++ nameOf cs ++ behindName cs := by
  obtain ⟨b, hb, hcs⟩ := exists_blanks cs
  refine ⟨b, hb, ?_⟩
  rw [nameOf, behindName, List.append_assoc, List.takeWhile_append_dropWhile, ← hcs]

/-- The name a text begins with is made of characters of names. -/
theorem isTypeNameChar_of_mem_nameOf (h : c ∈ nameOf cs) : isTypeNameChar c = true :=
  List.mem_takeWhile_imp h

end Pieces

/-! ## Readers -/

/-- A value and the rest of the text behind it. -/
def Taken.pair {α : Type} {size : Nat} (r : Taken α size) : α × List Char := (r.value, r.rest)

/-- A type at the front of a text, and the rest. -/
def typeAt (cs : List Char) : Except Refusal (TypeRef × List Char) := (readType cs).map Taken.pair

/-- Type arguments at the front of a text, and the rest. -/
def argsAt (cs : List Char) : Except Refusal (List TypeRef × List Char) :=
  (readArgs cs).map Taken.pair

/-- A type argument at the front of a text, and the rest. -/
def argAt (cs : List Char) : Except Refusal (TypeRef × List Char) := (readArg cs).map Taken.pair

/-- The arrays of a type whose brackets stand at the front of a text, and the rest. -/
def bracketsAt (t : TypeRef) (cs : List Char) : Except Refusal (TypeRef × List Char) :=
  (readBrackets t cs (Nat.lt_succ_self cs.length)).map Taken.pair

variable {α : Type} {t : TypeRef} {cs : List Char}

/-- Brackets are read alike whatever bound is kept. -/
theorem map_pair_readBrackets {size size' : Nat} (h : cs.length < size) (h' : cs.length < size') :
    (readBrackets t cs h).map Taken.pair = (readBrackets t cs h').map Taken.pair := by
  -- each call carries a bound of its own, so the induction is on the text
  induction hn : cs.length using Nat.strongRecOn generalizing t cs with
  | ind n ih =>
    rw [readBrackets, readBrackets]
    split
    · rfl
    · next inner hopen =>
      split
      · rfl
      · next rest hclose =>
        have hinner := length_eat?_lt hopen
        have hrest := length_eat?_lt hclose
        exact ih rest.length (by omega) _ _ rfl

/-- **Brackets**: none are left, or a pair makes an array of what stands before it. -/
theorem bracketsAt_eq (t : TypeRef) (cs : List Char) :
    bracketsAt t cs =
      match eat? '[' cs with
      | none => .ok (t, cs)
      | some inner =>
        match eat? ']' inner with
        | none => .error .openBracket
        | some rest => bracketsAt (array t) rest := by
  rw [bracketsAt, readBrackets]
  split
  · next hopen => simp only [hopen]; rfl
  · next inner hopen =>
    simp only [hopen]
    split
    · next hclose => simp only [hclose]; rfl
    · next rest hclose => simp only [hclose]; exact map_pair_readBrackets _ _

/-- **A type**: a name, the arguments of a class, and brackets. -/
theorem typeAt_eq (cs : List Char) :
    typeAt cs =
      if nameOf cs = [] then .error .noTypeName
      else
        match Primitive.ofKeyword? (nameOf cs) with
        | some p => bracketsAt (primitive p) (behindName cs)
        | none => (do
          let raw ← ClassName.read (nameOf cs)
          match eat? '<' (behindName cs) with
          | none => bracketsAt (named raw) (behindName cs)
          | some inner => do
            let (args, after) ← argsAt inner
            match eat? '>' after with
            | none => .error .openArguments
            | some rest => bracketsAt (parameterized raw args) rest) := by
  rw [typeAt, readType]
  split
  · rfl
  cases Primitive.ofKeyword? (nameOf cs) with
  | some p => exact map_pair_readBrackets _ _
  | none =>
    cases ClassName.read (nameOf cs) with
    | error e => rfl
    | ok raw =>
      simp only [bind, Except.bind]
      split
      · next hopen =>
        simp only [hopen]
        exact map_pair_readBrackets _ _
      · next inner hopen =>
        simp only [hopen, argsAt]
        cases readArgs inner with
        | error e => rfl
        | ok r =>
          obtain ⟨args, after, hshort⟩ := r
          simp only
          split
          · next hclose => simp only [Except.map, Taken.pair, hclose]
          · next rest hclose =>
            rw [map_pair_readBrackets _ (Nat.lt_succ_self rest.length)]
            simp only [Except.map, Taken.pair, hclose, bracketsAt]

/-- **Arguments**: one, and more behind a comma. -/
theorem argsAt_eq (cs : List Char) :
    argsAt cs = (do
      let (arg, after) ← argAt cs
      match eat? ',' after with
      | none => .ok ([arg], after)
      | some more => do
        let (args, rest) ← argsAt more
        .ok (arg :: args, rest)) := by
  rw [argsAt, readArgs, argAt]
  cases readArg cs with
  | error e => rfl
  | ok r =>
    obtain ⟨arg, after, hshort⟩ := r
    simp only [bind, Except.bind]
    split
    · next hcomma => simp only [Except.map, Taken.pair, hcomma]
    · next more hcomma =>
      simp only [Except.map, Taken.pair, hcomma, argsAt]
      cases readArgs more with
      | error e => rfl
      | ok r => rfl

/-- **A bound**: any type but a bare primitive. -/
theorem map_pair_readBound (side : Bound) (cs : List Char) :
    (readBound side cs).map Taken.pair = (do
      let (t, rest) ← typeAt cs
      if t.isPrimitive then .error .primitiveBound else .ok (bounded side t, rest)) := by
  rw [readBound, typeAt]
  cases readType cs with
  | error e => rfl
  | ok r =>
    obtain ⟨t, rest, hshort⟩ := r
    simp only [bind, Except.bind, Except.map, Taken.pair]
    by_cases hprim : t.isPrimitive = true
    · simp only [if_pos hprim]
    · simp only [if_neg hprim]

/-- **An argument**: a type, or a wildcard with or without a bound. -/
theorem argAt_eq (cs : List Char) :
    argAt cs =
      match eat? '?' cs with
      | none => typeAt cs
      | some after =>
        match eatWord? Bound.upper.keyword.toList after with
        | some rest => (readBound .upper rest).map Taken.pair
        | none =>
          match eatWord? Bound.lower.keyword.toList after with
          | some rest => (readBound .lower rest).map Taken.pair
          | none => .ok (wildcard, after) := by
  have hwiden : ∀ {size : Nat} (r : Except Refusal (Taken TypeRef size)) {larger : Nat}
      (h : size ≤ larger), (r.map (·.widen h)).map Taken.pair = r.map Taken.pair := by
    intro size r larger h
    cases r <;> rfl
  rw [argAt, readArg]
  split
  · next hmark => simp only [hmark]; rfl
  · next after hmark =>
    simp only [hmark]
    split
    · next rest hupper => simp only [hupper]; exact hwiden _ _
    · next hupper =>
      simp only [hupper]
      split
      · next rest hlower => simp only [hlower]; exact hwiden _ _
      · next hlower => simp only [hlower]; rfl

/-- Blanks in front of a type are skipped. -/
theorem typeAt_blanks_append {b : List Char} (hb : Blanks b) (cs : List Char) :
    typeAt (b ++ cs) = typeAt cs := by
  have hname : nameOf (b ++ cs) = nameOf cs := by rw [nameOf, nameOf, skipBlanks_append hb]
  have hbehind : behindName (b ++ cs) = behindName cs := by
    rw [behindName, behindName, skipBlanks_append hb]
  rw [typeAt_eq, typeAt_eq cs, hname, hbehind]

/-! ## How a reader succeeds -/

variable {r : TypeRef × List Char}

/-- **The four ways to read a type**: it is a keyword, or a class without
arguments, or a class with arguments that are closed; brackets follow. -/
theorem cases_of_typeAt (h : typeAt cs = .ok r) :
    nameOf cs ≠ [] ∧
      ((∃ p, Primitive.ofKeyword? (nameOf cs) = some p ∧
          bracketsAt (primitive p) (behindName cs) = .ok r) ∨
        ∃ raw, Primitive.ofKeyword? (nameOf cs) = none ∧ ClassName.read (nameOf cs) = .ok raw ∧
          ((eat? '<' (behindName cs) = none ∧ bracketsAt (named raw) (behindName cs) = .ok r) ∨
            ∃ inner args after rest, eat? '<' (behindName cs) = some inner ∧
              argsAt inner = .ok (args, after) ∧ eat? '>' after = some rest ∧
              bracketsAt (parameterized raw args) rest = .ok r)) := by
  rw [typeAt_eq] at h
  split at h
  · cases h
  · next hname =>
    refine ⟨hname, ?_⟩
    split at h
    · next p hkey => exact Or.inl ⟨p, hkey, h⟩
    · next hkey =>
      obtain ⟨raw, hread, h⟩ := exists_of_bind_eq_ok h
      refine Or.inr ⟨raw, hkey, hread, ?_⟩
      split at h
      · next hopen => exact Or.inl ⟨hopen, h⟩
      · next inner hopen =>
        obtain ⟨⟨args, after⟩, hargs, h⟩ := exists_of_bind_eq_ok h
        refine Or.inr ⟨inner, args, after, ?_⟩
        dsimp only at h
        split at h
        · cases h
        · next rest hclose => exact ⟨rest, hopen, hargs, hclose, h⟩

/-- **The two ways to read arguments**: one is read, and a comma follows or not. -/
theorem cases_of_argsAt {r : List TypeRef × List Char} (h : argsAt cs = .ok r) :
    ∃ arg after, argAt cs = .ok (arg, after) ∧
      ((eat? ',' after = none ∧ r = ([arg], after)) ∨
        ∃ more args rest, eat? ',' after = some more ∧ argsAt more = .ok (args, rest) ∧
          r = (arg :: args, rest)) := by
  rw [argsAt_eq] at h
  obtain ⟨⟨arg, after⟩, harg, h⟩ := exists_of_bind_eq_ok h
  refine ⟨arg, after, harg, ?_⟩
  dsimp only at h
  split at h
  · next hcomma => exact Or.inl ⟨hcomma, (Except.ok.inj h).symm⟩
  · next more hcomma =>
    obtain ⟨⟨args, rest⟩, hargs, h⟩ := exists_of_bind_eq_ok h
    exact Or.inr ⟨more, args, rest, hcomma, hargs, (Except.ok.inj h).symm⟩

/-- **The three ways to read an argument**: it is a type, a wildcard with
a bound, or a wildcard without one. -/
theorem cases_of_argAt (h : argAt cs = .ok r) :
    (eat? '?' cs = none ∧ typeAt cs = .ok r) ∨
      ∃ after, eat? '?' cs = some after ∧
        ((∃ (side : Bound) (bound : List Char) (t : TypeRef) (rest : List Char),
            eatWord? side.keyword.toList after = some bound ∧ typeAt bound = .ok (t, rest) ∧
            t.isPrimitive = false ∧ r = (bounded side t, rest)) ∨
          r = (wildcard, after)) := by
  have hbound : ∀ (side : Bound) (bound : List Char),
      (readBound side bound).map Taken.pair = .ok r →
      ∃ t rest, typeAt bound = .ok (t, rest) ∧ t.isPrimitive = false ∧
        r = (bounded side t, rest) := by
    intro side bound hread
    rw [map_pair_readBound] at hread
    obtain ⟨⟨t, rest⟩, htype, hread⟩ := exists_of_bind_eq_ok hread
    refine ⟨t, rest, htype, ?_⟩
    dsimp only at hread
    split at hread
    · cases hread
    · next hprim => exact ⟨by simpa using hprim, (Except.ok.inj hread).symm⟩
  rw [argAt_eq] at h
  split at h
  · next hmark => exact Or.inl ⟨hmark, h⟩
  · next after hmark =>
    refine Or.inr ⟨after, hmark, ?_⟩
    split at h
    · next bound hupper =>
      obtain ⟨t, rest, htype, hprim, hr⟩ := hbound .upper bound h
      exact Or.inl ⟨.upper, bound, t, rest, hupper, htype, hprim, hr⟩
    · split at h
      · next bound hlower =>
        obtain ⟨t, rest, htype, hprim, hr⟩ := hbound .lower bound h
        exact Or.inl ⟨.lower, bound, t, rest, hlower, htype, hprim, hr⟩
      · cases h
        exact Or.inr rfl

end TypeRef

end Companion
