import Companion.Proofs.Type.Spelled

/-!
# Derivations — types at the front of a text

`TypeText` speaks of whole texts, where nothing has to be said about the
end of a name. Here the grammar is told again from the front of a text:
a derivation takes one token after the other, with blanks before each,
and keeps what is left of the text. A name is then a maximal run, and a
keyword is not the beginning of a longer name. Both ways to tell the
grammar agree (`typeFrom_of_typeText`, `exists_of_typeFrom`), so a text
is accepted exactly when a type can be derived that leaves only blanks
(`ofText_accepts_derivations`).
-/

namespace Companion

namespace TypeRef

open Text

/-! ## Tokens -/

/-- A text begins with the given character, behind blanks. -/
def TokenAt (c : Char) (cs rest : List Char) : Prop :=
  ∃ blanks, Blanks blanks ∧ cs = blanks ++ c :: rest

/-- A text begins with a keyword, behind blanks, and no longer name stands there. -/
def KeywordAt (side : Bound) (cs rest : List Char) : Prop :=
  ∃ blanks, Blanks blanks ∧ cs = blanks ++ side.keyword.toList ++ rest ∧
    ∀ x ∈ rest.head?, isNameChar x = false

/-- A text begins with a name, behind blanks: a run of characters of names
that is not empty and ends only where no such character follows. -/
structure NameAt (word cs rest : List Char) : Prop where
  /-- It stands at the front, behind blanks. -/
  front : ∃ blanks, Blanks blanks ∧ cs = blanks ++ word ++ rest
  /-- It is not empty. -/
  ne_nil : word ≠ []
  /-- It is made of characters of names. -/
  chars : ∀ x ∈ word, isTypeNameChar x = true
  /-- It is as long as can be. -/
  maximal : ∀ x ∈ rest.head?, isTypeNameChar x = false

/-- A text begins with the name of a class, which is no keyword. -/
structure ClassAt (c : ClassName) (cs rest : List Char) : Prop where
  /-- The name is accepted as that of the class, and it is no keyword. -/
  name : ∃ word, NameAt word cs rest ∧ Primitive.ofKeyword? word = none ∧
    ClassName.ofText (String.ofList word) = .ok c

/-! ## Derivations -/

mutual

/-- **A type is derived from the front of a text**, and what is left. -/
inductive TypeFrom : List Char → TypeRef → List Char → Prop
  /-- A keyword is a primitive type. -/
  | keyword {cs word rest : List Char} {p : Primitive} :
      NameAt word cs rest → Primitive.ofKeyword? word = some p → TypeFrom cs (primitive p) rest
  /-- Any other name is a class. -/
  | name {cs rest : List Char} {c : ClassName} :
      ClassAt c cs rest → TypeFrom cs (named c) rest
  /-- A class may have type arguments. -/
  | applied {cs behind list close rest : List Char} {c : ClassName} {args : List TypeRef} :
      ClassAt c cs behind → TokenAt '<' behind list → ArgsFrom list args close →
      TokenAt '>' close rest → TypeFrom cs (parameterized c args) rest
  /-- Each pair of brackets makes an array of the type before it. -/
  | brackets {cs behind inside rest : List Char} {t : TypeRef} :
      TypeFrom cs t behind → TokenAt '[' behind inside → TokenAt ']' inside rest →
      TypeFrom cs (array t) rest

/-- A type argument is derived from the front of a text. -/
inductive ArgFrom : List Char → TypeRef → List Char → Prop
  /-- A type. -/
  | type {cs rest : List Char} {t : TypeRef} : TypeFrom cs t rest → ArgFrom cs t rest
  /-- A wildcard without a bound. -/
  | wildcard {cs rest : List Char} : TokenAt '?' cs rest → ArgFrom cs wildcard rest
  /-- A wildcard with a bound, which is no bare primitive. -/
  | bounded {cs behind bound rest : List Char} {side : Bound} {t : TypeRef} :
      TokenAt '?' cs behind → KeywordAt side behind bound → TypeFrom bound t rest →
      t.isPrimitive = false → ArgFrom cs (bounded side t) rest

/-- A list of type arguments, which is never empty, is derived from the front of a text. -/
inductive ArgsFrom : List Char → List TypeRef → List Char → Prop
  /-- A single argument. -/
  | one {cs rest : List Char} {t : TypeRef} : ArgFrom cs t rest → ArgsFrom cs [t] rest
  /-- An argument and further ones behind a comma. -/
  | more {cs behind list rest : List Char} {t : TypeRef} {ts : List TypeRef} :
      ArgFrom cs t behind → TokenAt ',' behind list → ArgsFrom list ts rest →
      ArgsFrom cs (t :: ts) rest

end

variable {cs rest word : List Char} {t : TypeRef} {c : ClassName}

/-! ## Words -/

/-- A word of a type has no blanks to trim, so it is read as it stands. -/
theorem ofText_ofList_eq_ok_iff (hchars : ∀ x ∈ word, isTypeNameChar x = true) :
    ClassName.ofText (String.ofList word) = .ok c ↔ ClassName.read word = .ok c := by
  have htrim : trim word = word :=
    trim_of_forall_not_blank fun x hx => isBlank_of_isTypeNameChar (hchars x hx)
  rw [ClassName.ofText, String.toList_ofList, htrim, mapError_eq_ok_iff]

/-- A word that is read as a class is the name of one, where no name goes on. -/
theorem ClassWord.classAt {blanks : List Char} (h : ClassWord word c) (hb : Blanks blanks)
    (hrest : Stops rest) : ClassAt c (blanks ++ word ++ rest) rest := by
  have hname : NameAt word (blanks ++ word ++ rest) rest :=
    ⟨⟨blanks, hb, rfl⟩, h.ne_nil, h.chars, hrest⟩
  exact ⟨word, hname, h.not_keyword, (ofText_ofList_eq_ok_iff h.chars).2 h.read⟩

/-- And the name of a class is such a word. -/
theorem ClassAt.exists_classWord (h : ClassAt c cs rest) :
    ∃ blanks word, Blanks blanks ∧ cs = blanks ++ word ++ rest ∧ ClassWord word c := by
  obtain ⟨word, hname, hkeyword, hclass⟩ := h.name
  obtain ⟨blanks, hb, hcs⟩ := hname.front
  have hread : ClassName.read word = .ok c := (ofText_ofList_eq_ok_iff hname.chars).1 hclass
  exact ⟨blanks, word, hb, hcs, hname.chars, hkeyword, hread⟩

/-- The first character behind a keyword is that of the bound, whatever stands behind it. -/
theorem TypeText.head?_append {text : List Char} (h : TypeText text t) (rest : List Char) :
    (text ++ rest).head? = text.head? := by
  obtain ⟨b, d, ds, htext, -⟩ := h.exists_head
  have hne : text ≠ [] := by simp [htext]
  exact List.head?_append_of_ne_nil text hne

/-! ## Both ways to tell the grammar -/

mutual

/-- **A text of the grammar is derived** wherever its last name ends. -/
theorem typeFrom_of_typeText {text : List Char} {t : TypeRef} (h : TypeText text t)
    {rest : List Char} (hrest : Stops rest) : TypeFrom (text ++ rest) t rest := by
  match h with
  | .keyword hb hkey =>
    obtain ⟨hne, hchars⟩ := isTypeNameChar_of_keyword hkey
    exact .keyword ⟨⟨_, hb, rfl⟩, hne, hchars, hrest⟩ hkey
  | .name hb hw => exact .name (hw.classAt hb hrest)
  | @TypeText.applied blanks word gap list last c args hb hw hgap hlist hlast =>
    have hopen : Stops (gap ++ '<' :: (list ++ (last ++ '>' :: rest))) :=
      stops_append hgap (punctuation '<' (by decide)).1 _
    have hclose : Stops (last ++ '>' :: rest) :=
      stops_append hlast (punctuation '>' (by decide)).1 _
    have hargs := argsFrom_of_argsText hlist hclose
    have hassoc : blanks ++ word ++ (gap ++ '<' :: (list ++ (last ++ ['>']))) ++ rest
        = blanks ++ word ++ (gap ++ '<' :: (list ++ (last ++ '>' :: rest))) := by simp
    rw [hassoc]
    exact .applied (hw.classAt hb hopen) ⟨gap, hgap, rfl⟩ hargs ⟨last, hlast, rfl⟩
  | @TypeText.brackets text gap inside t hu hgap hinside =>
    have hopen : Stops (gap ++ '[' :: (inside ++ ']' :: rest)) :=
      stops_append hgap (punctuation '[' (by decide)).1 _
    have hassoc : text ++ (gap ++ '[' :: (inside ++ [']'])) ++ rest
        = text ++ (gap ++ '[' :: (inside ++ ']' :: rest)) := by simp
    rw [hassoc]
    exact .brackets (typeFrom_of_typeText hu hopen) ⟨gap, hgap, rfl⟩ ⟨inside, hinside, rfl⟩

/-- So is an argument. -/
theorem argFrom_of_argText {text : List Char} {t : TypeRef} (h : ArgText text t)
    {rest : List Char} (hrest : Stops rest) : ArgFrom (text ++ rest) t rest := by
  match h with
  | .type hu => exact .type (typeFrom_of_typeText hu hrest)
  | @ArgText.wildcard blanks hb =>
    rw [List.append_assoc]
    exact .wildcard ⟨blanks, hb, rfl⟩
  | @ArgText.bounded blanks gap bound side t hb hgap hu hhead hprim =>
    have hkeyword : KeywordAt side (gap ++ side.keyword.toList ++ (bound ++ rest))
        (bound ++ rest) := by
      refine ⟨gap, hgap, rfl, fun x hx => hhead x ?_⟩
      rwa [hu.head?_append rest] at hx
    have hassoc : blanks ++ '?' :: (gap ++ side.keyword.toList ++ bound) ++ rest
        = blanks ++ '?' :: (gap ++ side.keyword.toList ++ (bound ++ rest)) := by simp
    rw [hassoc]
    exact .bounded ⟨blanks, hb, rfl⟩ hkeyword (typeFrom_of_typeText hu hrest) hprim

/-- And so is a list of arguments. -/
theorem argsFrom_of_argsText {text : List Char} {ts : List TypeRef} (h : ArgsText text ts)
    {rest : List Char} (hrest : Stops rest) : ArgsFrom (text ++ rest) ts rest := by
  match h with
  | .one harg => exact .one (argFrom_of_argText harg hrest)
  | @ArgsText.more text gap list t ts harg hgap hlist =>
    have hcomma : Stops (gap ++ ',' :: (list ++ rest)) :=
      stops_append hgap (punctuation ',' (by decide)).1 _
    have hassoc : text ++ (gap ++ ',' :: list) ++ rest
        = text ++ (gap ++ ',' :: (list ++ rest)) := by simp
    rw [hassoc]
    exact .more (argFrom_of_argText harg hcomma) ⟨gap, hgap, rfl⟩
      (argsFrom_of_argsText hlist hrest)

end

mutual

/-- **What is derived is a text of the grammar**, in front of what is left. -/
theorem exists_of_typeFrom {cs rest : List Char} {t : TypeRef} (h : TypeFrom cs t rest) :
    ∃ text, cs = text ++ rest ∧ TypeText text t := by
  match h with
  | .keyword hname hkey =>
    obtain ⟨blanks, hb, hcs⟩ := hname.front
    exact ⟨_, hcs, .keyword hb hkey⟩
  | .name hclass =>
    obtain ⟨blanks, word, hb, hcs, hw⟩ := hclass.exists_classWord
    exact ⟨_, hcs, .name hb hw⟩
  | .applied hclass hopen hargs hclose =>
    obtain ⟨blanks, word, hb, hcs, hw⟩ := hclass.exists_classWord
    obtain ⟨gap, hgap, hbehind⟩ := hopen
    obtain ⟨list, hinner, hlist⟩ := exists_of_argsFrom hargs
    obtain ⟨last, hlast, hafter⟩ := hclose
    refine ⟨_, ?_, .applied hb hw hgap hlist hlast⟩
    rw [hcs, hbehind, hinner, hafter]
    simp
  | .brackets htype hopen hclose =>
    obtain ⟨text, hcs, hu⟩ := exists_of_typeFrom htype
    obtain ⟨gap, hgap, hbehind⟩ := hopen
    obtain ⟨inside, hinside, hafter⟩ := hclose
    refine ⟨_, ?_, .brackets hu hgap hinside⟩
    rw [hcs, hbehind, hafter]
    simp

/-- The same of an argument. -/
theorem exists_of_argFrom {cs rest : List Char} {t : TypeRef} (h : ArgFrom cs t rest) :
    ∃ text, cs = text ++ rest ∧ ArgText text t := by
  match h with
  | .type htype =>
    obtain ⟨text, hcs, hu⟩ := exists_of_typeFrom htype
    exact ⟨text, hcs, .type hu⟩
  | .wildcard hmark =>
    obtain ⟨blanks, hb, hcs⟩ := hmark
    refine ⟨_, ?_, .wildcard hb⟩
    rw [hcs]
    simp
  | .bounded hmark hkeyword htype hprim =>
    obtain ⟨blanks, hb, hcs⟩ := hmark
    obtain ⟨gap, hgap, hbehind, hhead⟩ := hkeyword
    obtain ⟨bound, hbound, hu⟩ := exists_of_typeFrom htype
    rw [hbound, hu.head?_append] at hhead
    refine ⟨_, ?_, .bounded hb hgap hu hhead hprim⟩
    rw [hcs, hbehind, hbound]
    simp

/-- And of a list of arguments. -/
theorem exists_of_argsFrom {cs rest : List Char} {ts : List TypeRef} (h : ArgsFrom cs ts rest) :
    ∃ text, cs = text ++ rest ∧ ArgsText text ts := by
  match h with
  | .one harg =>
    obtain ⟨text, hcs, hu⟩ := exists_of_argFrom harg
    exact ⟨text, hcs, .one hu⟩
  | .more harg hcomma hargs =>
    obtain ⟨text, hcs, hu⟩ := exists_of_argFrom harg
    obtain ⟨gap, hgap, hbehind⟩ := hcomma
    obtain ⟨list, hmore, hlist⟩ := exists_of_argsFrom hargs
    refine ⟨_, ?_, .more hu hgap hlist⟩
    rw [hcs, hbehind, hmore]
    simp

end

/-- A whole text is one from which a type is derived that leaves only blanks. -/
theorem wholeText_iff : WholeText cs t ↔ ∃ rest, TypeFrom cs t rest ∧ Blanks rest := by
  constructor
  · rintro ⟨text, blanks, rfl, hu, hb⟩
    exact ⟨blanks, typeFrom_of_typeText hu (stops_blanks hb), hb⟩
  · rintro ⟨rest, htype, hb⟩
    obtain ⟨text, hcs, hu⟩ := exists_of_typeFrom htype
    exact ⟨text, rest, hcs, hu, hb⟩

/-! ## Acceptance -/

/-- An error names the text it is about, and no part of it. -/
theorem input_of_ofText {s : String} {e : TypeError} (h : ofText s = .error e) : e.input = s := by
  rw [ofText] at h
  cases hread : read s.toList with
  | error r =>
    rw [hread] at h
    cases h
    rfl
  | ok t =>
    rw [hread] at h
    cases h

/-- **The type texts are those of the grammar**, and each is read as the
tree that is derived from it. That tree may be declared: arguments are
never missing, wildcards are only arguments, and their bounds are neither
wildcards nor bare primitives. A text that is refused is reported whole. -/
theorem ofText_accepts_derivations (s : String) :
    (∀ t, ofText s = .ok t ↔ ∃ rest, TypeFrom s.toList t rest ∧ Blanks rest) ∧
    (∀ t, ofText s = .ok t → t.declarable false = true) ∧
    ∀ e, ofText s = .error e → e.input = s := by
  refine ⟨fun t => ?_, fun t ht => (declarable_of_ofText ht).1, fun e he => input_of_ofText he⟩
  rw [ofText_eq_ok_iff, wholeText_iff]

/-- Blanks may stand around the pieces of a bounded argument. -/
theorem ofText_accepts_set : ofText "Set <? super A >"
    = .ok (parameterized ⟨"", "Set", []⟩ [bounded .lower (named ⟨"", "A", []⟩)]) := by
  have hset : ClassAt ⟨"", "Set", []⟩ "Set <? super A >".toList " <? super A >".toList := by
    refine ⟨"Set".toList, ⟨⟨[], blanks_nil, by decide⟩, by decide, ?_, ?_⟩, by decide, ?_⟩
    · exact List.all_eq_true.1 (by decide +kernel)
    · rintro x ⟨⟩
      decide +kernel
    · decide +kernel
  have hsuper : KeywordAt .lower " super A >".toList " A >".toList := by
    refine ⟨[' '], blanks_space, by decide, ?_⟩
    rintro x ⟨⟩
    decide +kernel
  have ha : ClassAt ⟨"", "A", []⟩ " A >".toList " >".toList := by
    refine ⟨"A".toList, ⟨⟨[' '], blanks_space, by decide⟩, by decide, ?_, ?_⟩, by decide, ?_⟩
    · exact List.all_eq_true.1 (by decide +kernel)
    · rintro x ⟨⟩
      decide +kernel
    · decide +kernel
  have hargs : ArgsFrom "? super A >".toList [bounded .lower (named ⟨"", "A", []⟩)] " >".toList :=
    .one (.bounded ⟨[], blanks_nil, by decide⟩ hsuper (.name ha) rfl)
  have htype : TypeFrom "Set <? super A >".toList
      (parameterized ⟨"", "Set", []⟩ [bounded .lower (named ⟨"", "A", []⟩)]) [] :=
    .applied hset ⟨[' '], blanks_space, by decide⟩ hargs ⟨[' '], blanks_space, by decide⟩
  exact ((ofText_accepts_derivations _).1 _).2 ⟨[], htype, blanks_nil⟩

end TypeRef

end Companion
