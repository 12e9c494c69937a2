import Companion.Proofs.Json.Given
import Companion.Proofs.Name.ShortestText
import Companion.Proofs.Type.Word
import Companion.Round.Json
import Companion.Settings.Json

/-!
# Named types — one text read in two ways

The text of a class stands in two kinds of places. The settings trim it
and read what is left as a class; in the type of a field the reader of
types takes the name in front and looks at what is behind it. Both read
the same texts, but for the keywords of primitive types
(`ofText_eq_named_iff`): a text that is read as a class has no characters
but those of type names, so a name that is taken from the front of it is
all of it, and the blanks around a name are those that are trimmed. Which
member of a record a text is given for does not matter then
(`class_texts_agree`).
-/

namespace Companion

open Json Text

/-! ## Trimming -/

namespace TypeRef

variable {blanks behind word : List Char} {c : ClassName} {p : Primitive}

/-- A text is what is left when it is trimmed, with blanks around it. -/
theorem exists_trim (cs : List Char) :
    ∃ blanks behind, Blanks blanks ∧ Blanks behind ∧ cs = blanks ++ trim cs ++ behind := by
  obtain ⟨blanks, hblanks, hfront⟩ := exists_blanks cs
  obtain ⟨last, hlast, hend⟩ := exists_blanks (skipBlanks cs).reverse
  refine ⟨blanks, last.reverse, hblanks, fun c hc => hlast c (List.mem_reverse.1 hc), ?_⟩
  have hrest : skipBlanks cs = trim cs ++ last.reverse := by
    rw [trim, ← List.reverse_append, ← hend, List.reverse_reverse]
  rw [List.append_assoc, ← hrest]
  exact hfront

/-- **The blanks around a word are trimmed**, when it holds none itself. -/
theorem trim_append (hblanks : Blanks blanks) (hbehind : Blanks behind) (hne : word ≠ [])
    (hword : ∀ c ∈ word, isBlank c = false) : trim (blanks ++ word ++ behind) = word := by
  have hfront : skipBlanks (word ++ behind) = word ++ behind := by
    refine skipBlanks_eq_self fun c hc => ?_
    rw [List.head?_append_of_ne_nil _ hne] at hc
    exact hword c (List.mem_of_mem_head? hc)
  have hend : skipBlanks word.reverse = word.reverse := by
    refine skipBlanks_eq_self fun c hc => ?_
    exact hword c (List.mem_reverse.1 (List.mem_of_mem_head? hc))
  have hlast : Blanks behind.reverse := fun c hc => hbehind c (List.mem_reverse.1 hc)
  rw [trim, List.append_assoc, skipBlanks_append hblanks, hfront, List.reverse_append,
    skipBlanks_append hlast, hend, List.reverse_reverse]

/-! ## Both readers -/

/-- A text that is read as a class has the characters of type names only. -/
theorem isTypeNameChar_of_read (h : ClassName.read word = .ok c) :
    ∀ x ∈ word, isTypeNameChar x = true := by
  intro x hx
  have hwf := ClassName.wellFormed_of_read h
  rcases ClassName.eq_or_eq_of_read h with hcanonical | hpackaged
  · exact hwf.isTypeNameChar_of_mem_canonical (hcanonical ▸ hx)
  · exact hwf.isTypeNameChar_of_mem_packagedText (hpackaged ▸ hx)

/-- A text without keywords names no primitive type. -/
theorem ofKeyword?_eq_none_iff :
    Primitive.ofKeyword? word = none ↔ ∀ p : Primitive, word ≠ p.keyword.toList := by
  rw [Option.eq_none_iff_forall_ne_some]
  exact forall_congr' fun p => not_congr Primitive.ofKeyword?_eq_some

/-- **A text is the type of a class exactly when it is the text of that
class and no keyword.** -/
theorem ofText_eq_named_iff {s : String} : ofText s = .ok (named c) ↔
    ClassName.ofText s = .ok c ∧ ∀ p : Primitive, trim s.toList ≠ p.keyword.toList := by
  rw [ofText_eq_ok_iff, ClassName.ofText, mapError_eq_ok_iff, ← ofKeyword?_eq_none_iff]
  constructor
  · rintro ⟨text, behind, htext, hnamed, hbehind⟩
    cases hnamed with
    | @name blanks word c hblanks hword =>
      have htrim : trim s.toList = word := by
        rw [htext]
        exact trim_append hblanks hbehind hword.ne_nil
          fun x hx => isBlank_of_isTypeNameChar (hword.chars x hx)
      rw [htrim]
      exact ⟨hword.read, hword.not_keyword⟩
  · rintro ⟨hread, hkeyword⟩
    obtain ⟨blanks, behind, hblanks, hbehind, htext⟩ := exists_trim s.toList
    have hword : ClassWord (trim s.toList) c := ⟨isTypeNameChar_of_read hread, hkeyword, hread⟩
    exact ⟨_, behind, htext, .name hblanks hword, hbehind⟩

/-- A keyword with blanks around it is the primitive type. -/
theorem ofText_of_trim_eq_keyword {s : String} (h : trim s.toList = p.keyword.toList) :
    ofText s = .ok (primitive p) := by
  obtain ⟨blanks, behind, hblanks, hbehind, htext⟩ := exists_trim s.toList
  exact ofText_eq_ok_iff.2 ⟨_, behind, htext,
    .keyword hblanks (Primitive.ofKeyword?_eq_some.2 h), hbehind⟩

end TypeRef

/-- And read as a class it is the one that is named like it. -/
theorem ClassName.ofText_of_trim_eq_keyword {s : String} {p : Primitive}
    (h : trim s.toList = p.keyword.toList) : ofText s = .ok (ofPrimitive p) := by
  rw [ofText, h, read_keyword]
  rfl

/-! ## Where the text is given -/

/-- The type of a field is that of its member, which is read as a type. -/
theorem Field.isMember_type :
    record.IsMember "type" Field.type (Value.toMeaning TypeRef.ofText) where
  mem := by decide
  put := by
    intro m hm f v f' hput
    simp only [record, List.mem_cons, List.not_mem_nil, or_false] at hm
    rcases hm with rfl | rfl | rfl | rfl
    all_goals
      obtain ⟨x, hx, hf'⟩ := exists_of_bind_eq_ok hput
      cases hf'
      simp [hx]

namespace Settings

/-- The members of the settings that are classes, each with the class it
gives. -/
def classMembers : List (String × (Settings → ClassName)) :=
  [("base_class", baseClass), ("primary_key_marker", primaryKeyMarker),
    ("ignore_marker", ignoreMarker), ("entity_marker", entityMarker),
    ("transient_marker", transientMarker)]

/-- Putting a member sets its own class, if it has one, and no other. -/
theorem put_classMembers {m : Member Settings} (hm : m ∈ record.members) {s s' : Settings}
    {v : Value} (hput : m.put s v = .ok s') : ∀ member ∈ classMembers,
      if m.name = member.1 then v.toMeaning ClassName.ofText = .ok (member.2 s')
      else member.2 s' = member.2 s := by
  simp only [record, List.mem_cons, List.not_mem_nil, or_false] at hm
  rcases hm with rfl | rfl | rfl | rfl | rfl | rfl | rfl
  all_goals
    obtain ⟨x, hx, hs'⟩ := exists_of_bind_eq_ok hput
    cases hs'
    simp [classMembers, hx]

/-- So each of these classes is that of its member, read as a class. -/
theorem isMember_of_mem {member : String × (Settings → ClassName)} (h : member ∈ classMembers) :
    record.IsMember member.1 member.2 (Value.toMeaning ClassName.ofText) where
  mem := by
    have hnames : ∀ name ∈ classMembers.map (·.1), name ∈ record.members.map (·.name) := by decide
    exact hnames _ (List.mem_map_of_mem h)
  put _ hm _ _ _ hput := put_classMembers hm hput member h

end Settings

/-- **The two readers of class texts agree.** A text is read as the type of
a class exactly when it is read as that class and is, without the blanks
around it, no keyword of a primitive type. So a text that is given for the
type of a field and for a class of the settings, however both are written,
names the same class in both places. Only a keyword is the primitive type
in one place, and in the other the class of the default package that is
named like it. -/
theorem class_texts_agree (text : String) :
    (∀ c, TypeRef.ofText text = .ok (.named c) ↔
      ClassName.ofText text = .ok c ∧ ∀ p : Primitive, trim text.toList ≠ p.keyword.toList) ∧
    ∀ v f, Field.record.Gives "type" (.string text) v → Field.record.decode v = .ok f →
      ∀ member ∈ Settings.classMembers, ∀ w s, Settings.record.Gives member.1 (.string text) w →
        Settings.record.decode w = .ok s →
        ((∀ p : Primitive, trim text.toList ≠ p.keyword.toList) → f.type = .named (member.2 s)) ∧
        ∀ p : Primitive, trim text.toList = p.keyword.toList →
          f.type = .primitive p ∧ member.2 s = ⟨"", p.keyword, []⟩ := by
  refine ⟨fun c => TypeRef.ofText_eq_named_iff, ?_⟩
  intro v f hv hf member hmember w s hw hs
  have htype : TypeRef.ofText text = .ok f.type := Value.toMeaning_string_eq_ok_iff.1 <|
    Record.read_of_decode Field.isMember_type (by decide) hv hf
  have hclass : ClassName.ofText text = .ok (member.2 s) := Value.toMeaning_string_eq_ok_iff.1 <|
    Record.read_of_decode (Settings.isMember_of_mem hmember) (by decide) hw hs
  constructor
  · intro hkeyword
    have hnamed := TypeRef.ofText_eq_named_iff.2 ⟨hclass, hkeyword⟩
    exact Except.ok.inj (htype.symm.trans hnamed)
  · intro p hkeyword
    have hprimitive := TypeRef.ofText_of_trim_eq_keyword hkeyword
    have hlike := ClassName.ofText_of_trim_eq_keyword hkeyword
    exact ⟨Except.ok.inj (htype.symm.trans hprimitive), Except.ok.inj (hclass.symm.trans hlike)⟩

/-- A class that is given with a blank in front, for the type of a field and
in the place of the base class, and a keyword that is given for a marker. -/
theorem class_texts_agree_base :
    (∃ f s,
      Field.record.decode
        (.ofMembers [("name", .string "kind"), ("type", .string " com.acme.Base")]) = .ok f ∧
      Settings.record.decode (.ofList [.string "Realm", .string " com.acme.Base"]) = .ok s ∧
      s.baseClass = ⟨"com.acme", "Base", []⟩ ∧ f.type = .named s.baseClass) ∧
    ∃ f s,
      Field.record.decode
        (.ofMembers [("name", .string "kind"), ("type", .string "int ")]) = .ok f ∧
      Settings.record.decode (.ofMembers [("ignore_marker", .string "int ")]) = .ok s ∧
      f.type = .primitive .int ∧ s.ignoreMarker = ⟨"", "int", []⟩ := by
  obtain ⟨hbase, hgiven⟩ := class_texts_agree " com.acme.Base"
  obtain ⟨-, hgiven'⟩ := class_texts_agree "int "
  have hclass : ClassName.ofText " com.acme.Base" = .ok ⟨"com.acme", "Base", []⟩ := by
    decide +kernel
  have hno : ∀ p : Primitive, trim " com.acme.Base".toList ≠ p.keyword.toList := by
    intro p
    cases p <;> decide +kernel
  have hint : trim "int ".toList = Primitive.int.keyword.toList := by decide +kernel
  have htype := Value.toMeaning_string_eq_ok_iff.2 ((hbase _).2 ⟨hclass, hno⟩)
  have htype' := Value.toMeaning_string_eq_ok_iff.2 (TypeRef.ofText_of_trim_eq_keyword hint)
  have hfield {text : String} {t : TypeRef}
      (h : (Value.string text).toMeaning TypeRef.ofText = .ok t) :
      Field.record.decode (.ofMembers [("name", .string "kind"), ("type", .string text)])
        = .ok ⟨"kind", t, false, false⟩ := by
    simp [Field.record, Record.decode, Value.ofMembers, Members.ofList, Record.fromMembers,
      Value.toText, bind, Except.bind, h]
  have hsettings : Settings.record.decode (.ofList [.string "Realm", .string " com.acme.Base"])
      = .ok { baseClass := ⟨"com.acme", "Base", []⟩ } := by decide +kernel
  have hsettings' : Settings.record.decode (.ofMembers [("ignore_marker", .string "int ")])
      = .ok { ignoreMarker := ⟨"", "int", []⟩ } := by decide +kernel
  have hagree := hgiven _ _ (.key (.there .here)) (hfield htype) ("base_class", Settings.baseClass)
    (by simp [Settings.classMembers]) _ _ (.place rfl (.there .here)) hsettings
  have hagree' := hgiven' _ _ (.key (.there .here)) (hfield htype')
    ("ignore_marker", Settings.ignoreMarker) (by simp [Settings.classMembers]) _ _
    (.key .here) hsettings'
  exact ⟨⟨_, _, hfield htype, hsettings, rfl, hagree.1 hno⟩,
    _, _, hfield htype', hsettings', hagree'.2 .int hint⟩

end Companion
