import Companion.Proofs.Json.Record
import Companion.Proofs.Type.Spelled
import Companion.Proofs.Type.Word
import Companion.Round.Json

/-!
# Writing a type and reading it back

The text of a class is read as that class, but a type text knows one
more kind of word, the keywords. So a type is read back from its text
exactly when it mentions no class named like a primitive type, and a
field is decoded from its object in the same case (`reads_back_iff`).
-/

namespace Companion

open Text

namespace TypeRef

/-! ## Types without such classes are read back -/

/-- A type that mentions no class named like a primitive type is read back. -/
theorem ofText_text_of_forall {t : TypeRef} (hshape : t.declarable false = true)
    (hwf : ∀ c ∈ t.classes, c.WellFormed) (hprim : ∀ c ∈ t.classes, c.isPrimitiveName = false) :
    ofText t.text = .ok t := by
  have hword : ∀ c ∈ t.classes, ClassWord c.text.toList (id c) := fun c hc =>
    (hwf c hc).classWord_text (hprim c hc)
  have hread := ofText_spelled hshape hword
  rwa [mapClasses_id] at hread

/-! ## And no others are -/

/-- The type an array is made of, through all its brackets. -/
def element : TypeRef → TypeRef
  | array t => element t
  | t => t

/-- Brackets leave the element of an array alone. -/
theorem element_of_bracketsAt {t u : TypeRef} {cs rest : List Char}
    (h : bracketsAt t cs = .ok (u, rest)) : u.element = t.element := by
  induction hn : cs.length using Nat.strongRecOn generalizing t cs with
  | ind n ih =>
    rw [bracketsAt_eq] at h
    split at h
    · cases h
      rfl
    · next inner hopen =>
      split at h
      · cases h
      · next after hclose =>
        have hinner := length_eat?_lt hopen
        have hafter := length_eat?_lt hclose
        have helement := ih after.length (by omega) h rfl
        exact helement

/-- Blanks in front of arguments are skipped. -/
theorem argsAt_blanks_append {b : List Char} (hb : Blanks b) (cs : List Char) :
    argsAt (b ++ cs) = argsAt cs := by
  have harg : argAt (b ++ cs) = argAt cs := by
    rw [argAt_eq, argAt_eq cs, eat?, eat?, skipBlanks_append hb, typeAt_blanks_append hb]
  rw [argsAt_eq, argsAt_eq cs, harg]

/-- What is read from the text of a class where a type has to begin. -/
theorem exists_of_typeAt_text {c : ClassName} {rest : List Char} {r : TypeRef × List Char}
    (h : c.WellFormed) (hrest : Stops rest) (hread : typeAt (c.text.toList ++ rest) = .ok r) :
    (∃ p, bracketsAt (primitive p) rest = .ok r) ∨
      c.isPrimitiveName = false ∧ ((eat? '<' rest = none ∧ bracketsAt (named c) rest = .ok r) ∨
        ∃ inner args after close, eat? '<' rest = some inner ∧ argsAt inner = .ok (args, after) ∧
          bracketsAt (parameterized c args) close = .ok r) := by
  obtain ⟨hname, hbehind⟩ := nameOf_append blanks_nil
    (fun x hx => h.isTypeNameChar_of_mem_text hx) h.text_ne_nil hrest
  rw [List.nil_append] at hname hbehind
  obtain ⟨-, hcases⟩ := cases_of_typeAt hread
  rw [hname, hbehind] at hcases
  rcases hcases with ⟨p, -, hr⟩ | ⟨raw, hkey, hraw, hcases⟩
  · exact Or.inl ⟨p, hr⟩
  have hprim : c.isPrimitiveName = false := by
    by_contra hprim
    simp only [Bool.not_eq_false] at hprim
    obtain ⟨p, hp⟩ := ClassName.isPrimitiveName_iff.1 hprim
    rw [h.ofKeyword?_text_eq_some.2 hp] at hkey
    cases hkey
  rw [h.read_text] at hraw
  cases hraw
  rcases hcases with hr | ⟨inner, args, after, close, hopen, hargs, -, hr⟩
  · exact Or.inr ⟨hprim, Or.inl hr⟩
  · exact Or.inr ⟨hprim, Or.inr ⟨inner, args, after, close, hopen, hargs, hr⟩⟩

/-- Reading the tree from its own text as a type with the same element
shows that it mentions no class named like a primitive type. -/
def Rereads (t : TypeRef) : Prop :=
  ∀ u rest last, Stops rest → typeAt (t.text.toList ++ rest) = .ok (u, last) →
    u.element = t.element → ∀ c ∈ t.classes, c.isPrimitiveName = false

/-- The same for a type argument that is read from its own text. -/
def ArgRereads (t : TypeRef) : Prop :=
  ∀ rest last, Stops rest → argAt (t.text.toList ++ rest) = .ok (t, last) →
    ∀ c ∈ t.classes, c.isPrimitiveName = false

theorem rereads_named {c : ClassName} (hwf : c.WellFormed) : Rereads (named c) := by
  intro u rest last hrest h helement d hd
  rw [classes, List.mem_singleton] at hd
  subst hd
  rcases exists_of_typeAt_text hwf hrest h with ⟨p, hr⟩ | ⟨hprim, -⟩
  · rw [element_of_bracketsAt hr] at helement
    cases helement
  · exact hprim

theorem rereads_array {t : TypeRef} (ht : Rereads t) : Rereads (array t) := by
  intro u rest last hrest h helement
  have htext : (array t).text.toList ++ rest = t.text.toList ++ ([] ++ '[' :: (']' :: rest)) := by
    simp [text, spelled]
  rw [htext] at h
  have hstops : Stops ([] ++ '[' :: (']' :: rest)) :=
    stops_append blanks_nil (punctuation '[' (by decide)).1 _
  exact ht u _ last hstops h helement

theorem argRereads_bounded {side : Bound} {t : TypeRef} (ht : Rereads t) :
    ArgRereads (bounded side t) := by
  intro rest last hrest h
  have htext : (bounded side t).text.toList ++ rest
      = [] ++ '?' :: ([' '] ++ side.keyword.toList ++ ([' '] ++ (t.text.toList ++ rest))) := by
    simp [text, spelled]
  have hhead : ∀ x ∈ ([' '] ++ (t.text.toList ++ rest)).head?, isNameChar x = false := by
    rintro x ⟨⟩
    decide +kernel
  rw [htext, argAt_bounded side blanks_nil blanks_space hhead, map_pair_readBound,
    typeAt_blanks_append blanks_space] at h
  obtain ⟨⟨u, rest'⟩, htype, h⟩ := exists_of_bind_eq_ok h
  dsimp only at h
  split at h
  · cases h
  · cases h
    exact ht t rest last hrest htype rfl

theorem argRereads_of_rereads {t : TypeRef} (ht : Rereads t)
    (hbounded : ∀ side u, t ≠ bounded side u) : ArgRereads t := by
  intro rest last hrest h
  rcases cases_of_argAt h with ⟨-, htype⟩ | ⟨after, -, hcases⟩
  · exact ht t rest last hrest htype rfl
  rcases hcases with ⟨side, bound, u, rest', -, -, -, hr⟩ | hr
  · exact absurd (congrArg Prod.fst hr) (hbounded side u)
  · cases hr
    simp [classes]

/-- Arguments that are read from their own text: as long as an argument
is read back, the next one begins where its text does. -/
theorem isPrimitiveName_of_argsAt {args : List TypeRef} (hne : args ≠ [])
    (hshape : declarableArgs args = true) (hwf : ∀ c ∈ classesOfArgs args, c.WellFormed)
    (hargs : ∀ a ∈ args, ArgRereads a) {rest last : List Char}
    (h : argsAt ((", ".intercalate (spelledArgs ClassName.text args)).toList ++ '>' :: rest)
      = .ok (args, last)) :
    ∀ c ∈ classesOfArgs args, c.isPrimitiveName = false := by
  induction args with
  | nil => exact absurd rfl hne
  | cons arg args ih =>
    rw [declarableArgs, Bool.and_eq_true] at hshape
    obtain ⟨arg', after, harg, hcases⟩ := cases_of_argsAt h
    -- the list that is read is the list that was written, so its first argument is too
    have hsame : arg' = arg := by
      rcases hcases with ⟨-, hr⟩ | ⟨more, args', rest', -, -, hr⟩
      · exact (List.cons.inj (congrArg Prod.fst hr)).1.symm
      · exact (List.cons.inj (congrArg Prod.fst hr)).1.symm
    rw [hsame] at harg
    rcases args with - | ⟨next, args⟩
    · have hclose : Stops ([] ++ '>' :: rest) :=
        stops_append blanks_nil (punctuation '>' (by decide)).1 _
      have hclasses := hargs arg (by simp) _ _ hclose (by simpa [spelledArgs, text] using harg)
      simpa [classesOfArgs] using hclasses
    · let tail := (", ".intercalate (spelledArgs ClassName.text (next :: args))).toList ++ '>' :: rest
      have htext : (", ".intercalate (spelledArgs ClassName.text (arg :: next :: args))).toList
          ++ '>' :: rest = arg.text.toList ++ ([] ++ ',' :: ([' '] ++ tail)) := by
        simp [spelledArgs, text, tail]
      rw [htext] at harg
      have hcomma := punctuation ',' (by decide)
      have hfirst := hargs arg (by simp) _ _ (stops_append blanks_nil hcomma.1 _) harg
      -- the first argument is read back, so what is left is the text of the others
      have hback : argAt (arg.text.toList ++ ([] ++ ',' :: ([' '] ++ tail)))
          = .ok (arg, [] ++ ',' :: ([' '] ++ tail)) := by
        have hword : ∀ c ∈ arg.classes, ClassWord c.text.toList (id c) := fun c hc =>
          (hwf c (List.mem_append_left _ hc)).classWord_text (hfirst c hc)
        have htaken := argText_spelled arg hshape.1 hword
        rw [mapClasses_id] at htaken
        exact htaken.argAt_append (.comma _ blanks_nil)
      rw [hback] at harg
      cases harg
      rw [eat?_append blanks_nil hcomma.2] at hcases
      rcases hcases with ⟨hnone, -⟩ | ⟨more, args', rest', hmore, hread, hr⟩
      · cases hnone
      · cases hmore
        cases hr
        rw [argsAt_blanks_append blanks_space] at hread
        have hothers := ih (by simp) hshape.2 (fun c hc => hwf c (List.mem_append_right _ hc))
          (fun a ha => hargs a (List.mem_cons_of_mem arg ha)) hread
        intro c hc
        rcases List.mem_append.1 hc with hc | hc
        · exact hfirst c hc
        · exact hothers c hc

theorem rereads_parameterized {raw : ClassName} {args : List TypeRef}
    (hshape : (parameterized raw args).declarable false = true)
    (hwf : ∀ c ∈ (parameterized raw args).classes, c.WellFormed)
    (hargs : ∀ a ∈ args, ArgRereads a) : Rereads (parameterized raw args) := by
  intro u rest last hrest h helement
  simp only [declarable, Bool.and_eq_true, Bool.not_eq_true', List.isEmpty_eq_false_iff] at hshape
  have htext : (parameterized raw args).text.toList ++ rest = raw.text.toList ++ ([] ++ '<' ::
      ((", ".intercalate (spelledArgs ClassName.text args)).toList ++ '>' :: rest)) := by
    simp [text, spelled]
  rw [htext] at h
  have hopen := punctuation '<' (by decide)
  rcases exists_of_typeAt_text (hwf raw (by simp [classes])) (stops_append blanks_nil hopen.1 _) h
    with ⟨p, hr⟩ | ⟨hprim, hcases⟩
  · rw [element_of_bracketsAt hr] at helement
    cases helement
  rw [eat?_append blanks_nil hopen.2] at hcases
  rcases hcases with ⟨hnone, -⟩ | ⟨inner, args', after, close, hinner, hread, hr⟩
  · cases hnone
  · cases hinner
    rw [element_of_bracketsAt hr] at helement
    cases helement
    have hothers := isPrimitiveName_of_argsAt hshape.1 hshape.2
      (fun c hc => hwf c (List.mem_cons_of_mem raw hc)) hargs hread
    intro c hc
    rcases List.mem_cons.1 hc with rfl | hc
    · exact hprim
    · exact hothers c hc

/-- Every argument of a list has the shape of one. -/
theorem declarable_of_mem {arg : TypeRef} {args : List TypeRef} (hmem : arg ∈ args)
    (h : declarableArgs args = true) : arg.declarable true = true := by
  induction hmem with
  | head args =>
    rw [declarableArgs, Bool.and_eq_true] at h
    exact h.1
  | tail first _ ih =>
    rw [declarableArgs, Bool.and_eq_true] at h
    exact ih h.2

/-- And its classes are among those of the list. -/
theorem mem_classesOfArgs {arg : TypeRef} {args : List TypeRef} {c : ClassName} (hmem : arg ∈ args)
    (hc : c ∈ arg.classes) : c ∈ classesOfArgs args := by
  induction hmem with
  | head args => exact List.mem_append_left _ hc
  | tail first _ ih => exact List.mem_append_right _ ih

/-- **A type that is read from its own text mentions no class named like
a primitive type**, by induction on the tree: as long as no such class
is met, reading keeps to the tree. -/
theorem rereads (t : TypeRef) (hshape : t.declarable false = true)
    (hwf : ∀ c ∈ t.classes, c.WellFormed) : Rereads t := by
  induction hn : sizeOf t using Nat.strongRecOn generalizing t with
  | ind n ih =>
    cases t with
    | primitive p => exact fun _ _ _ _ _ _ => by simp [classes]
    | named c => exact rereads_named (hwf c (by simp [classes]))
    | array t => exact rereads_array (ih (sizeOf t) (by simp [← hn]) t hshape hwf rfl)
    | wildcard => cases hshape
    | bounded side t => cases hshape
    | parameterized raw args =>
      refine rereads_parameterized hshape hwf fun arg hmem => ?_
      simp only [declarable, Bool.and_eq_true] at hshape
      have harg := declarable_of_mem hmem hshape.2
      have hclasses : ∀ c ∈ arg.classes, c.WellFormed := fun c hc =>
        hwf c (List.mem_cons_of_mem raw (mem_classesOfArgs hmem hc))
      have hsize := List.sizeOf_lt_of_mem hmem
      simp only [parameterized.sizeOf_spec] at hn
      -- only the bound of a wildcard is smaller than the argument that is read
      cases arg with
      | bounded side t =>
        simp only [declarable, Bool.true_and, Bool.and_eq_true] at harg
        simp only [bounded.sizeOf_spec] at hsize
        exact argRereads_bounded (ih (sizeOf t) (by omega) t harg.1 hclasses rfl)
      | wildcard => exact fun _ _ _ _ => by simp [classes]
      | primitive p => exact argRereads_of_rereads (ih _ (by omega) _ harg hclasses rfl) (by simp)
      | named c => exact argRereads_of_rereads (ih _ (by omega) _ harg hclasses rfl) (by simp)
      | array t => exact argRereads_of_rereads (ih _ (by omega) _ harg hclasses rfl) (by simp)
      | parameterized raw args =>
        exact argRereads_of_rereads (ih _ (by omega) _ harg hclasses rfl) (by simp)

/-- **What was read is read back** exactly when it mentions no class named
like a primitive type. -/
theorem ofText_text_iff {s : String} {t : TypeRef} (h : ofText s = .ok t) :
    ofText t.text = .ok t ↔ ∀ c ∈ t.classes, c.isPrimitiveName = false := by
  obtain ⟨hshape, hwf⟩ := declarable_of_ofText h
  constructor
  · intro hback
    obtain ⟨blanks, -, htype⟩ := (ofText_eq_ok_iff.1 hback).exists_typeAt
    rw [← List.append_nil t.text.toList] at htype
    exact rereads t hshape hwf t [] blanks (stops_blanks blanks_nil) htype rfl
  · exact ofText_text_of_forall hshape hwf

end TypeRef

/-! ## Fields -/

namespace Field

open Json

/-- The type of a decoded field was read from a text. -/
theorem exists_ofText_of_decode {v : Value} {f : Field} (h : record.decode v = .ok f) :
    ∃ s, TypeRef.ofText s = .ok f.type := by
  have hput : record.Keeps fun seen f => "type" ∈ seen → ∃ s, TypeRef.ofText s = .ok f.type := by
    intro m hm seen f v f' hf hv
    simp only [record, List.mem_cons, List.not_mem_nil, or_false] at hm
    rcases hm with rfl | rfl | rfl | rfl
    · obtain ⟨name, -, hf'⟩ := exists_of_bind_eq_ok hv
      cases hf'
      simpa using hf
    · obtain ⟨t, ht, hf'⟩ := exists_of_bind_eq_ok hv
      cases hf'
      obtain ⟨s, -, hs⟩ := exists_of_bind_eq_ok ht
      exact fun _ => ⟨s, mapError_eq_ok_iff.1 hs⟩
    · obtain ⟨flag, -, hf'⟩ := exists_of_bind_eq_ok hv
      cases hf'
      simpa using hf
    · obtain ⟨flag, -, hf'⟩ := exists_of_bind_eq_ok hv
      cases hf'
      simpa using hf
  obtain ⟨seen, hinv, hall⟩ := Record.invariant_of_decode (by simp) hput h
  have htype : "type" ∈ seen := hall _ (List.mem_cons_of_mem _ List.mem_cons_self) rfl
  exact hinv htype

/-- Decoding the object of a field reads the text of its type. -/
theorem decode_toJson (f : Field) : record.decode f.toJson =
    ((Value.string f.type.text).toMeaning TypeRef.ofText).map fun t => { f with type := t } := by
  cases hread : (Value.string f.type.text).toMeaning TypeRef.ofText <;>
    simp [record, toJson, Record.decode, Value.ofMembers, Members.ofList, Record.fromMembers,
      Value.toText, Value.toBool, bind, Except.bind, Except.map, hread]

/-- A field is decoded from its object exactly when its type is read back. -/
theorem decode_toJson_eq_ok_iff {f : Field} :
    record.decode f.toJson = .ok f ↔ TypeRef.ofText f.type.text = .ok f.type := by
  rw [decode_toJson, ← Value.toMeaning_string_eq_ok_iff]
  cases (Value.string f.type.text).toMeaning TypeRef.ofText with
  | error e => constructor <;> intro h <;> cases h
  | ok t =>
    constructor
    · intro h
      exact congrArg (Except.ok ∘ Field.type) (Except.ok.inj h)
    · intro h
      cases h
      rfl

end Field

/-- **Types and fields are read back** exactly when they mention no class
named like a primitive type: a type that was read from its text, and a
field that was decoded from its object. -/
theorem reads_back_iff (s : String) (t : TypeRef) (v : Json.Value) (f : Field) :
    (TypeRef.ofText s = .ok t →
      (TypeRef.ofText t.text = .ok t ↔ ∀ c ∈ t.classes, c.isPrimitiveName = false)) ∧
    (Field.record.decode v = .ok f →
      (Field.record.decode f.toJson = .ok f ↔
        ∀ c ∈ f.type.classes, c.isPrimitiveName = false)) := by
  refine ⟨fun ht => TypeRef.ofText_text_iff ht, fun hf => ?_⟩
  obtain ⟨s', hs'⟩ := Field.exists_ofText_of_decode hf
  rw [Field.decode_toJson_eq_ok_iff, TypeRef.ofText_text_iff hs']

/-- The text `/int` is read as the class `int` of the default package. -/
theorem ofText_slash_int : TypeRef.ofText "/int" = .ok (.named ⟨"", "int", []⟩) :=
  TypeRef.ofText_eq_ok_iff.2 ⟨"/int".toList, [], by decide,
    .name TypeRef.blanks_nil
      ⟨List.all_eq_true.1 (by decide +kernel), by decide +kernel, by decide +kernel⟩,
    TypeRef.blanks_nil⟩

/-- A field of that type can be decoded. -/
theorem decode_slash_int : Field.record.decode
    (.ofMembers [("name", .string "count"), ("type", .string "/int")])
      = .ok ⟨"count", .named ⟨"", "int", []⟩, false, false⟩ := by
  have hmeaning := Json.Value.toMeaning_string_eq_ok_iff.2 ofText_slash_int
  simp [Field.record, Json.Record.decode, Json.Value.ofMembers, Json.Members.ofList,
    Json.Record.fromMembers, Json.Value.toText, bind, Except.bind, hmeaning]

/-- The text `java.util.List<int[]>` is read as a list of arrays. -/
theorem ofText_list_of_arrays : TypeRef.ofText "java.util.List<int[]>"
    = .ok (.parameterized ⟨"java.util", "List", []⟩ [.array (.primitive .int)]) := by
  have hwf : ClassName.WellFormed ⟨"java.util", "List", []⟩ :=
    ClassName.wellFormed_of_read (by decide +kernel : ClassName.read "java.util.List".toList = _)
  have htext : "java.util.List<int[]>"
      = TypeRef.text (.parameterized ⟨"java.util", "List", []⟩ [.array (.primitive .int)]) := by
    decide +kernel
  rw [htext]
  refine TypeRef.ofText_text_of_forall (by decide +kernel) ?_ (by decide +kernel)
  simpa [TypeRef.classes, TypeRef.classesOfArgs] using hwf

/-- A list of arrays is read back, and a field of a class named like a
primitive type is not. -/
theorem reads_back_list_of_arrays :
    (∃ t, TypeRef.ofText "java.util.List<int[]>" = .ok t ∧ TypeRef.ofText t.text = .ok t) ∧
      ∃ f, Field.record.decode
          (.ofMembers [("name", .string "count"), ("type", .string "/int")]) = .ok f ∧
        Field.record.decode f.toJson ≠ .ok f := by
  obtain ⟨htype, hfield⟩ := reads_back_iff _ _ _ _
  refine ⟨⟨_, ofText_list_of_arrays, (htype ofText_list_of_arrays).2 (by decide +kernel)⟩,
    _, decode_slash_int, ?_⟩
  rw [ne_eq, hfield decode_slash_int]
  decide +kernel

/-- The class that is read from `/int` is written `int`, which is not read
as the class. -/
theorem not_reads_back_slash_int :
    ∃ t, TypeRef.ofText "/int" = .ok t ∧ t.text = "int" ∧ TypeRef.ofText t.text ≠ .ok t := by
  refine ⟨_, ofText_slash_int, by decide +kernel, ?_⟩
  rw [ne_eq, TypeRef.ofText_text_iff ofText_slash_int]
  decide +kernel

end Companion
