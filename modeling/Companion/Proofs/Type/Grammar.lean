import Companion.Proofs.Type.Pieces
import Companion.Proofs.Name.ClassText

/-!
# The grammar of type texts

`TypeText`, `ArgText` and `ArgsText` say which texts are types, type
arguments and lists of them, and which tree each text stands for. They
speak of whole texts and know nothing of reading: that a name is a
maximal run and that a bracket is always taken is a matter of what may
stand behind a type (`Follows`). The readers take exactly the texts of
the grammar: what they take from the front of a text is one
(`exists_typeText`), and a text of the grammar is taken whole
(`TypeText.typeAt_append`).
-/

namespace Companion

namespace TypeRef

open Text

/-- A word that is read as a class: a run of characters of names that is
no keyword. -/
structure ClassWord (word : List Char) (c : ClassName) : Prop where
  /-- It is a run of characters of names. -/
  chars : ∀ x ∈ word, isTypeNameChar x = true
  /-- It is no primitive keyword. -/
  not_keyword : Primitive.ofKeyword? word = none
  /-- It is the text of the class. -/
  read : ClassName.read word = .ok c

mutual

/-- **The texts of types.** Blanks may stand before each piece. -/
inductive TypeText : List Char → TypeRef → Prop
  /-- A keyword is a primitive type. -/
  | keyword {blanks word : List Char} {p : Primitive} :
      Blanks blanks → Primitive.ofKeyword? word = some p →
      TypeText (blanks ++ word) (primitive p)
  /-- Any other name is a class. -/
  | name {blanks word : List Char} {c : ClassName} :
      Blanks blanks → ClassWord word c → TypeText (blanks ++ word) (named c)
  /-- A class may have type arguments. -/
  | applied {blanks word gap list last : List Char} {c : ClassName} {args : List TypeRef} :
      Blanks blanks → ClassWord word c → Blanks gap → ArgsText list args → Blanks last →
      TypeText (blanks ++ word ++ (gap ++ '<' :: (list ++ (last ++ ['>'])))) (parameterized c args)
  /-- Each pair of brackets makes an array of the type before it. -/
  | brackets {text gap inside : List Char} {t : TypeRef} :
      TypeText text t → Blanks gap → Blanks inside →
      TypeText (text ++ (gap ++ '[' :: (inside ++ [']']))) (array t)

/-- The texts of type arguments. -/
inductive ArgText : List Char → TypeRef → Prop
  /-- A type. -/
  | type {text : List Char} {t : TypeRef} : TypeText text t → ArgText text t
  /-- A wildcard without a bound. -/
  | wildcard {blanks : List Char} : Blanks blanks → ArgText (blanks ++ ['?']) wildcard
  /-- A wildcard with a bound. The keyword is not the beginning of a
  longer name, and a bare primitive is no bound. -/
  | bounded {blanks gap text : List Char} {side : Bound} {t : TypeRef} :
      Blanks blanks → Blanks gap → TypeText text t →
      (∀ x ∈ text.head?, isNameChar x = false) → t.isPrimitive = false →
      ArgText (blanks ++ '?' :: (gap ++ side.keyword.toList ++ text)) (bounded side t)

/-- The texts of lists of type arguments, which are never empty. -/
inductive ArgsText : List Char → List TypeRef → Prop
  /-- A single argument. -/
  | one {text : List Char} {t : TypeRef} : ArgText text t → ArgsText text [t]
  /-- An argument and further ones behind a comma. -/
  | more {text gap list : List Char} {t : TypeRef} {ts : List TypeRef} :
      ArgText text t → Blanks gap → ArgsText list ts →
      ArgsText (text ++ (gap ++ ',' :: list)) (t :: ts)

end

/-- A whole text is a type, with blanks behind it. -/
def WholeText (cs : List Char) (t : TypeRef) : Prop :=
  ∃ text blanks, cs = text ++ blanks ∧ TypeText text t ∧ Blanks blanks

variable {cs text rest word : List Char} {t u : TypeRef} {ts : List TypeRef} {c : ClassName}

/-- A class has a first character. -/
theorem ClassWord.ne_nil (h : ClassWord word c) : word ≠ [] := by
  rintro rfl
  have hempty : ClassName.read [] = .error .notDotted := by decide
  rw [h.read] at hempty
  cases hempty

/-- So has a keyword, and its characters are characters of names. -/
theorem isTypeNameChar_of_keyword {p : Primitive} (h : Primitive.ofKeyword? word = some p) :
    word ≠ [] ∧ ∀ x ∈ word, isTypeNameChar x = true := by
  rw [Primitive.ofKeyword?_eq_some.1 h]
  refine ⟨?_, List.all_eq_true.1 ?_⟩ <;> cases p <;> decide +kernel

/-- Punctuation is part of no name, and no blank. -/
theorem punctuation :
    ∀ d ∈ ['<', '>', '[', ']', ',', '?'], isTypeNameChar d = false ∧ isBlank d = false := by
  have hall : ['<', '>', '[', ']', ',', '?'].all (fun d => !isTypeNameChar d && !isBlank d)
      = true := by decide +kernel
  intro d hd
  simpa using List.all_eq_true.1 hall d hd

/-! ## What the readers take is a text of the grammar -/

/-- Brackets that were read are brackets of the grammar. -/
theorem exists_brackets (hu : TypeText text u) (h : bracketsAt u cs = .ok (t, rest)) :
    ∃ taken, cs = taken ++ rest ∧ TypeText (text ++ taken) t := by
  induction hn : cs.length using Nat.strongRecOn generalizing cs text u with
  | ind n ih =>
    rw [bracketsAt_eq] at h
    split at h
    · cases h
      exact ⟨[], rfl, by rwa [List.append_nil]⟩
    · next inner hopen =>
      split at h
      · cases h
      · next after hclose =>
        obtain ⟨gap, hgap, hcs⟩ := exists_of_eat? hopen
        obtain ⟨inside, hinside, hinner⟩ := exists_of_eat? hclose
        have hlt : after.length < n := by
          rw [← hn, hcs, hinner]
          simp only [List.length_append, List.length_cons]
          omega
        obtain ⟨taken, hafter, ht⟩ := ih after.length hlt (.brackets hu hgap hinside) h rfl
        refine ⟨gap ++ '[' :: (inside ++ [']']) ++ taken, ?_, ?_⟩
        · rw [hcs, hinner, hafter]
          simp
        · simpa using ht

/-- What is read as a type from the front of a text is one. -/
def TypeSound (cs : List Char) : Prop :=
  ∀ t rest, typeAt cs = .ok (t, rest) → ∃ text, cs = text ++ rest ∧ TypeText text t

/-- What is read as an argument is one. -/
def ArgSound (cs : List Char) : Prop :=
  ∀ t rest, argAt cs = .ok (t, rest) → ∃ text, cs = text ++ rest ∧ ArgText text t

/-- What is read as arguments are arguments. -/
def ArgsSound (cs : List Char) : Prop :=
  ∀ ts rest, argsAt cs = .ok (ts, rest) → ∃ text, cs = text ++ rest ∧ ArgsText text ts

theorem typeSound_of_argsSound (ih : ∀ ds, ds.length < cs.length → ArgsSound ds) :
    TypeSound cs := by
  intro t rest h
  obtain ⟨b, hb, hcs⟩ := exists_name cs
  obtain ⟨hname, hcases⟩ := cases_of_typeAt h
  have hlong := length_behindName_lt hname
  have hchars : ∀ x ∈ nameOf cs, isTypeNameChar x = true := fun x => isTypeNameChar_of_mem_nameOf
  -- from here on the name is a word of which only the characters are known
  generalize nameOf cs = word at *
  rcases hcases with ⟨p, hkey, hrest⟩ | ⟨raw, hkey, hread, hcases⟩
  · obtain ⟨taken, hbehind, ht⟩ := exists_brackets (.keyword hb hkey) hrest
    exact ⟨b ++ word ++ taken, by rw [hcs, hbehind]; simp, ht⟩
  have hword : ClassWord word raw := ⟨hchars, hkey, hread⟩
  rcases hcases with ⟨-, hrest⟩ | ⟨inner, args, after, close, hopen, hargs, hclose, hrest⟩
  · obtain ⟨taken, hbehind, ht⟩ := exists_brackets (.name hb hword) hrest
    exact ⟨b ++ word ++ taken, by rw [hcs, hbehind]; simp, ht⟩
  · obtain ⟨gap, hgap, hbehind⟩ := exists_of_eat? hopen
    have hlt := length_eat?_lt hopen
    obtain ⟨list, hinner, hlist⟩ := ih inner (by omega) args after hargs
    obtain ⟨last, hlast, hafter⟩ := exists_of_eat? hclose
    obtain ⟨taken, htaken, ht⟩ :=
      exists_brackets (.applied hb hword hgap hlist hlast) hrest
    refine ⟨_, ?_, ht⟩
    rw [hcs, hbehind, hinner, hafter, htaken]
    simp

theorem argSound_of_typeSound (same : TypeSound cs)
    (ih : ∀ ds, ds.length < cs.length → TypeSound ds) : ArgSound cs := by
  intro t rest h
  rcases cases_of_argAt h with ⟨-, htype⟩ | ⟨after, hmark, hcases⟩
  · obtain ⟨text, hcs, ht⟩ := same t rest htype
    exact ⟨text, hcs, .type ht⟩
  obtain ⟨b, hb, hcs⟩ := exists_of_eat? hmark
  rcases hcases with ⟨side, bound, u, rest', hside, htype, hprim, hr⟩ | hr
  · cases hr
    obtain ⟨gap, hgap, hafter, hhead⟩ := exists_of_eatWord? hside
    have hmarklt := length_eat?_lt hmark
    have hsidele := length_eatWord?_le hside
    obtain ⟨text, hbound, ht⟩ := ih bound (by omega) u rest htype
    -- the keyword ends where the bound begins, whatever follows the bound
    have htext : ∀ x ∈ text.head?, isNameChar x = false := by
      intro x hx
      refine hhead x ?_
      rw [hbound, List.head?_append]
      simp [Option.mem_def.1 hx]
    refine ⟨_, ?_, .bounded hb hgap ht htext hprim⟩
    rw [hcs, hafter, hbound]
    simp
  · cases hr
    exact ⟨_, by rw [hcs]; simp, .wildcard hb⟩

theorem argsSound_of_argSound (same : ArgSound cs)
    (ih : ∀ ds, ds.length < cs.length → ArgsSound ds) : ArgsSound cs := by
  intro ts rest h
  obtain ⟨arg, after, harg, hcases⟩ := cases_of_argsAt h
  obtain ⟨text, hcs, ht⟩ := same arg after harg
  rcases hcases with ⟨-, hr⟩ | ⟨more, args, rest', hcomma, hargs, hr⟩
  · cases hr
    exact ⟨text, hcs, .one ht⟩
  · cases hr
    obtain ⟨gap, hgap, hafter⟩ := exists_of_eat? hcomma
    have hlt := length_eat?_lt hcomma
    -- the comma makes what is left shorter, the argument need not
    have hle : after.length ≤ cs.length := by
      rw [hcs, List.length_append]
      omega
    obtain ⟨list, hmore, hlist⟩ := ih more (by omega) args rest hargs
    refine ⟨_, ?_, .more ht hgap hlist⟩
    rw [hcs, hafter, hmore]
    simp

/-- All three at once, by induction on the text: each reader calls the
others on the same text in one order only, and else on shorter ones. -/
theorem sound (cs : List Char) : TypeSound cs ∧ ArgSound cs ∧ ArgsSound cs := by
  induction hn : cs.length using Nat.strongRecOn generalizing cs with
  | ind n ih =>
    have hshort : ∀ ds : List Char, ds.length < cs.length →
        TypeSound ds ∧ ArgSound ds ∧ ArgsSound ds := fun ds hlt => ih ds.length (hn ▸ hlt) ds rfl
    have htype : TypeSound cs := typeSound_of_argsSound fun ds hlt => (hshort ds hlt).2.2
    have harg : ArgSound cs := argSound_of_typeSound htype fun ds hlt => (hshort ds hlt).1
    exact ⟨htype, harg, argsSound_of_argSound harg fun ds hlt => (hshort ds hlt).2.2⟩

/-- **What is read as a type is a text of the grammar.** -/
theorem exists_typeText (h : typeAt cs = .ok (t, rest)) :
    ∃ text, cs = text ++ rest ∧ TypeText text t := (sound cs).1 t rest h

/-! ## A text of the grammar is taken whole -/

/-- What may stand behind a type: nothing that goes on with its name or
opens type arguments. -/
structure Follows (rest : List Char) : Prop where
  /-- No name goes on. -/
  stops : Stops rest
  /-- No type arguments begin. -/
  no_args : eat? '<' rest = none

/-- Blanks may stand behind a type. -/
theorem follows_blanks (h : Blanks rest) : Follows rest := ⟨stops_blanks h, eat?_blanks h⟩

/-- So may any character that is part of no name, opens no arguments and is no blank. -/
theorem follows_append {blanks : List Char} {d : Char} (hb : Blanks blanks)
    (hname : isTypeNameChar d = false) (hd : isBlank d = false) (hopen : d ≠ '<')
    (cs : List Char) : Follows (blanks ++ d :: cs) :=
  ⟨stops_append hb hname cs, eat?_append_of_ne hb hd hopen cs⟩

/-- What stands behind a type argument: a comma or the end of the list. -/
inductive Closes : List Char → Prop
  /-- A further argument. -/
  | comma {blanks : List Char} (rest : List Char) : Blanks blanks → Closes (blanks ++ ',' :: rest)
  /-- The end of the list. -/
  | close {blanks : List Char} (rest : List Char) : Blanks blanks → Closes (blanks ++ '>' :: rest)

namespace Closes

/-- It is not part of the argument, and neither opens brackets nor continues a wildcard. -/
theorem exists_head (h : Closes rest) :
    ∃ b d cs, rest = b ++ d :: cs ∧ Blanks b ∧ isTypeNameChar d = false ∧ isBlank d = false ∧
      d ≠ '<' ∧ d ≠ '[' ∧ d ≠ 'e' ∧ d ≠ 's' := by
  cases h with
  | @comma b cs hb => exact ⟨b, ',', cs, rfl, hb, by decide +kernel⟩
  | @close b cs hb => exact ⟨b, '>', cs, rfl, hb, by decide +kernel⟩

theorem follows (h : Closes rest) : Follows rest := by
  obtain ⟨b, d, cs, rfl, hb, hname, hblank, hopen, -⟩ := h.exists_head
  exact follows_append hb hname hblank hopen cs

/-- So the brackets of a type argument end there. -/
theorem bracketsAt_eq (h : Closes rest) (t : TypeRef) : bracketsAt t rest = .ok (t, rest) := by
  obtain ⟨b, d, cs, rfl, hb, -, hblank, -, hopen, -⟩ := h.exists_head
  rw [TypeRef.bracketsAt_eq, eat?_append_of_ne hb hblank hopen]

end Closes

/-- A type begins with a character of names behind its blanks. -/
theorem TypeText.exists_head {text : List Char} {t : TypeRef} (h : TypeText text t) :
    ∃ b d cs, text = b ++ d :: cs ∧ Blanks b ∧ isTypeNameChar d = true := by
  have hword : ∀ {blanks word : List Char} (more : List Char), Blanks blanks →
      (word ≠ [] ∧ ∀ x ∈ word, isTypeNameChar x = true) →
      ∃ b d cs, blanks ++ word ++ more = b ++ d :: cs ∧ Blanks b ∧ isTypeNameChar d = true := by
    rintro blanks word more hb ⟨hne, hchars⟩
    obtain ⟨d, ds, rfl⟩ := List.exists_cons_of_ne_nil hne
    exact ⟨blanks, d, ds ++ more, by simp, hb, hchars d (by simp)⟩
  match h with
  | .keyword hb hkey => simpa using hword [] hb (isTypeNameChar_of_keyword hkey)
  | .name hb hw => simpa using hword [] hb ⟨hw.ne_nil, hw.chars⟩
  | .applied hb hw _ _ _ => exact hword _ hb ⟨hw.ne_nil, hw.chars⟩
  | .brackets hu _ _ =>
    obtain ⟨b, d, cs, hu, hb, hd⟩ := hu.exists_head
    exact ⟨b, d, _, by rw [hu, List.append_assoc, List.cons_append], hb, hd⟩

/-- The name in front of a type, and what is left behind it. -/
theorem nameOf_typeText {blanks : List Char} (hb : Blanks blanks)
    (hword : word ≠ [] ∧ ∀ x ∈ word, isTypeNameChar x = true) (hrest : Stops rest) :
    nameOf (blanks ++ word ++ rest) = word ∧ behindName (blanks ++ word ++ rest) = rest ∧
      nameOf (blanks ++ word ++ rest) ≠ [] := by
  obtain ⟨hname, hbehind⟩ := nameOf_append hb hword.2 hword.1 hrest
  refine ⟨hname, hbehind, ?_⟩
  rw [hname]
  exact hword.1

/-- The keyword of a bound is taken with the blanks in front of it. -/
theorem argAt_bounded {blanks gap : List Char} (side : Bound) (hb : Blanks blanks)
    (hgap : Blanks gap) (hhead : ∀ x ∈ cs.head?, isNameChar x = false) :
    argAt (blanks ++ '?' :: (gap ++ side.keyword.toList ++ cs))
      = (readBound side cs).map Taken.pair := by
  rw [argAt_eq, eat?_append hb (punctuation '?' (by decide)).2]
  cases side with
  | upper =>
    have hupper : eatWord? Bound.upper.keyword.toList (gap ++ Bound.upper.keyword.toList ++ cs)
        = some cs := eatWord?_append hgap (by decide +kernel) hhead
    simp only [hupper]
  | lower =>
    have hupper : eatWord? Bound.upper.keyword.toList (gap ++ Bound.lower.keyword.toList ++ cs)
        = none := by
      rw [List.append_assoc]
      exact eatWord?_append_of_ne hgap (by decide +kernel) (by decide) _
    have hlower : eatWord? Bound.lower.keyword.toList (gap ++ Bound.lower.keyword.toList ++ cs)
        = some cs := eatWord?_append hgap (by decide +kernel) hhead
    simp only [hupper, hlower]

mutual

/-- **A type is taken whole**: what stands behind it is left to the
reader of brackets, which may make further arrays of it. -/
theorem TypeText.typeAt_append {text : List Char} {t : TypeRef} (h : TypeText text t)
    {rest : List Char} (hrest : Follows rest) :
    typeAt (text ++ rest) = bracketsAt t rest := by
  match h with
  | .keyword hb hkey =>
    obtain ⟨hname, hbehind, hne⟩ :=
      nameOf_typeText hb (isTypeNameChar_of_keyword hkey) hrest.stops
    rw [typeAt_eq, if_neg hne, hname, hbehind, hkey]
  | .name hb hw =>
    obtain ⟨hname, hbehind, hne⟩ := nameOf_typeText hb ⟨hw.ne_nil, hw.chars⟩ hrest.stops
    rw [typeAt_eq, if_neg hne, hname, hbehind, hw.not_keyword, hw.read]
    simp only [bind, Except.bind, hrest.no_args]
  | @TypeText.applied blanks word gap list last c args hb hw hgap hlist hlast =>
    have hopen := punctuation '<' (by decide)
    have hstops : Stops (gap ++ '<' :: (list ++ (last ++ '>' :: rest))) :=
      stops_append hgap hopen.1 _
    obtain ⟨hname, hbehind, hne⟩ := nameOf_typeText hb ⟨hw.ne_nil, hw.chars⟩ hstops
    have hargs := hlist.argsAt_append rest hlast
    have hclose := eat?_append hlast (punctuation '>' (by decide)).2 rest
    have hassoc : blanks ++ word ++ (gap ++ '<' :: (list ++ (last ++ ['>']))) ++ rest
        = blanks ++ word ++ (gap ++ '<' :: (list ++ (last ++ '>' :: rest))) := by simp
    rw [hassoc, typeAt_eq, if_neg hne, hname, hbehind, hw.not_keyword, hw.read]
    simp only [bind, Except.bind, eat?_append hgap hopen.2, hargs, hclose]
  | @TypeText.brackets text gap inside t hu hgap hinside =>
    have hopen := punctuation '[' (by decide)
    have hfollows : Follows (gap ++ '[' :: (inside ++ ']' :: rest)) :=
      follows_append hgap hopen.1 hopen.2 (by decide) _
    have hassoc : text ++ (gap ++ '[' :: (inside ++ [']'])) ++ rest
        = text ++ (gap ++ '[' :: (inside ++ ']' :: rest)) := by simp
    rw [hassoc, hu.typeAt_append hfollows, bracketsAt_eq, eat?_append hgap hopen.2]
    simp only [eat?_append hinside (punctuation ']' (by decide)).2]

/-- An argument is taken whole. -/
theorem ArgText.argAt_append {text : List Char} {t : TypeRef} (h : ArgText text t)
    {rest : List Char} (hrest : Closes rest) : argAt (text ++ rest) = .ok (t, rest) := by
  match h with
  | .type hu =>
    -- a type begins with a name, so it is not taken for a wildcard
    obtain ⟨b, d, cs, htext, hb, hd⟩ := hu.exists_head
    have hmark : eat? '?' (text ++ rest) = none := by
      rw [htext, List.append_assoc, List.cons_append]
      refine eat?_append_of_ne hb (isBlank_of_isTypeNameChar hd) ?_ _
      rintro rfl
      rw [(punctuation '?' (by decide)).1] at hd
      cases hd
    rw [argAt_eq, hmark]
    exact (hu.typeAt_append hrest.follows).trans (hrest.bracketsAt_eq t)
  | @ArgText.wildcard blanks hb =>
    -- no bound begins at a comma or at the end of the list
    obtain ⟨b, d, cs, hcs, hb', -, hblank, -, -, hupper, hlower⟩ := hrest.exists_head
    have hupper : eatWord? Bound.upper.keyword.toList rest = none :=
      hcs ▸ eatWord?_append_of_ne hb' hblank hupper cs
    have hlower : eatWord? Bound.lower.keyword.toList rest = none :=
      hcs ▸ eatWord?_append_of_ne hb' hblank hlower cs
    rw [List.append_assoc, List.singleton_append, argAt_eq,
      eat?_append hb (punctuation '?' (by decide)).2]
    simp only [hupper, hlower]
  | @ArgText.bounded blanks gap bound side t hb hgap hu hhead hprim =>
    have hbound : ∀ x ∈ (bound ++ rest).head?, isNameChar x = false := by
      obtain ⟨b, d, cs, htext, -⟩ := hu.exists_head
      cases hfirst : bound with
      | nil => simp [htext] at hfirst
      | cons x xs =>
        rintro y ⟨⟩
        exact hhead x (by rw [hfirst]; rfl)
    have hassoc : blanks ++ '?' :: (gap ++ side.keyword.toList ++ bound) ++ rest
        = blanks ++ '?' :: (gap ++ side.keyword.toList ++ (bound ++ rest)) := by simp
    have htype : typeAt (bound ++ rest) = .ok (t, rest) :=
      (hu.typeAt_append hrest.follows).trans (hrest.bracketsAt_eq t)
    rw [hassoc, argAt_bounded side hb hgap hbound, map_pair_readBound, htype]
    simp only [bind, Except.bind, hprim]
    rfl

/-- Arguments are taken whole, up to the end of their list. -/
theorem ArgsText.argsAt_append {text : List Char} {ts : List TypeRef} (h : ArgsText text ts)
    {last : List Char} (rest : List Char) (hlast : Blanks last) :
    argsAt (text ++ (last ++ '>' :: rest)) = .ok (ts, last ++ '>' :: rest) := by
  match h with
  | .one harg =>
    have hcomma : eat? ',' (last ++ '>' :: rest) = none :=
      eat?_append_of_ne hlast (punctuation '>' (by decide)).2 (by decide) rest
    rw [argsAt_eq, harg.argAt_append (.close rest hlast)]
    simp only [bind, Except.bind, hcomma]
  | @ArgsText.more text gap list t ts harg hgap hlist =>
    have hassoc : text ++ (gap ++ ',' :: list) ++ (last ++ '>' :: rest)
        = text ++ (gap ++ ',' :: (list ++ (last ++ '>' :: rest))) := by simp
    rw [hassoc, argsAt_eq, harg.argAt_append (.comma _ hgap)]
    simp only [bind, Except.bind, eat?_append hgap (punctuation ',' (by decide)).2,
      hlist.argsAt_append rest hlast]

end

/-! ## Whole texts -/

/-- Of a whole text the type is read, and blanks are left. -/
theorem WholeText.exists_typeAt (h : WholeText cs t) :
    ∃ blanks, Blanks blanks ∧ typeAt cs = .ok (t, blanks) := by
  obtain ⟨text, blanks, rfl, hu, hb⟩ := h
  refine ⟨blanks, hb, ?_⟩
  rw [hu.typeAt_append (follows_blanks hb), bracketsAt_eq, eat?_blanks hb]

/-- **A whole text**: a type, and nothing but blanks. -/
theorem read_eq (cs : List Char) :
    read cs = (do
      let (t, rest) ← typeAt cs
      match skipBlanks rest with
      | [] => .ok t
      | c :: more => .error (.trailing (String.ofList (c :: more)))) := by
  rw [read, typeAt]
  cases readType cs <;> rfl

/-- **Reading a whole text accepts exactly the texts of the grammar** and
gives the tree the grammar assigns. -/
theorem read_eq_ok_iff : read cs = .ok t ↔ WholeText cs t := by
  rw [read_eq]
  constructor
  · intro h
    obtain ⟨⟨u, rest⟩, htype, h⟩ := exists_of_bind_eq_ok h
    obtain ⟨text, hcs, hu⟩ := exists_typeText htype
    dsimp only at h
    split at h
    · next hskip =>
      cases h
      refine ⟨text, rest, hcs, hu, ?_⟩
      rwa [skipBlanks, List.dropWhile_eq_nil_iff] at hskip
    · cases h
  · intro h
    obtain ⟨blanks, hb, htype⟩ := h.exists_typeAt
    have hskip : skipBlanks blanks = [] := List.dropWhile_eq_nil_iff.2 hb
    simp only [htype, bind, Except.bind, hskip]

/-- The same of a string. -/
theorem ofText_eq_ok_iff {s : String} : ofText s = .ok t ↔ WholeText s.toList t := by
  rw [← read_eq_ok_iff, ofText, mapError_eq_ok_iff]

end TypeRef

end Companion
