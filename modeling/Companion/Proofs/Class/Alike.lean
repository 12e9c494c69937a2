import Companion.Proofs.Class.Meaning
import Companion.Proofs.Type.RoundTrip
import Companion.Proofs.Type.WordTree

/-!
# Which types are spelled alike in one source file

A source file can only write a class short or in full, so two classes are
spelled alike when the dots of both texts stand between the same names:
`com.Example.Foo` is the class `Foo` of the package `com.Example`, and
also the class `Foo` in `Example` of the package `com`. Nothing else makes
types alike: `spellType_eq_iff` tells which types and classes are. Classes
that keep to the convention on capitals are never spelled alike, unless
the default package is spoken of from another one.
-/

namespace Companion

open Text TypeRef

namespace CompanionClass

variable {c : CompanionClass} {d e : ClassName}

/-- The classes of the types of the fields. -/
def fieldClasses (c : CompanionClass) : List ClassName := c.fields.flatMap fun f => f.type.classes

/-- The names between the dots of the text of a class: those below the
package when it is written short, and else those of the package too. -/
def written (c : CompanionClass) (d : ClassName) : List (List Char) :=
  if c.isShort d then d.names.map String.toList
  else segments d.package.toList ++ d.names.map String.toList

/-! ## Classes -/

/-- **The text of a class is what is written, joined with dots.** -/
theorem toList_spellClass (h : d.WellFormed) :
    (c.spellClass d).toList = ['.'].intercalate (c.written d) := by
  unfold spellClass written
  split
  · rw [ClassName.path, String.toList_intercalate]
    rfl
  · exact h.toList_canonical

/-- Identifiers are written, and at least one. -/
theorem written_identifiers (h : d.WellFormed) :
    c.written d ≠ [] ∧ ∀ s ∈ c.written d, isIdentifier s = true := by
  unfold written
  split
  · exact ⟨by simp [ClassName.names], fun s hs => h.isIdentifier_of_mem_names hs⟩
  · exact ⟨by simp [ClassName.names], fun s hs => h.isIdentifier_of_mem_canonical hs⟩

/-- So the text tells what is written. -/
theorem spellClass_eq_iff_written (hd : d.WellFormed) (he : e.WellFormed) :
    c.spellClass d = c.spellClass e ↔ c.written d = c.written e := by
  have hsplit : ∀ {a : ClassName}, a.WellFormed →
      (c.spellClass a).toList.splitOn '.' = c.written a := by
    intro a ha
    obtain ⟨hne, hids⟩ := written_identifiers (c := c) ha
    rw [toList_spellClass ha, splitOn_intercalate_of_isIdentifier hne hids]
  constructor
  · intro h
    rw [← hsplit hd, ← hsplit he, h]
  · intro h
    rw [← String.toList_inj, toList_spellClass hd, toList_spellClass he, h]

/-- **Short names tell their classes.** -/
theorem eq_of_isShort (hd : c.isShort d = true) (he : c.isShort e = true)
    (h : c.written d = c.written e) : d = e := by
  have hnames : d.names = e.names := by
    rw [written, written, if_pos hd, if_pos he] at h
    exact (List.map_injective_iff.2 fun _ _ => String.toList_inj.1) h
  obtain ⟨houter, hnested⟩ := List.cons.inj hnames
  have hpackage : d.package = e.package := package_eq_of_isShort hd he houter
  cases d
  cases e
  simp_all

/-- **Two classes are spelled alike** when the same names are written for
both, and not both are written short. -/
theorem spellClass_eq_iff (hd : d.WellFormed) (he : e.WellFormed) :
    c.spellClass d = c.spellClass e ↔
      d = e ∨ ¬ (c.isShort d = true ∧ c.isShort e = true) ∧ c.written d = c.written e := by
  rw [spellClass_eq_iff_written hd he]
  constructor
  · intro h
    by_cases hshort : c.isShort d = true ∧ c.isShort e = true
    · exact Or.inl (eq_of_isShort hshort.1 hshort.2 h)
    · exact Or.inr ⟨hshort, h⟩
  · rintro (rfl | ⟨-, h⟩)
    · rfl
    · exact h

/-- The text of a class is a word. -/
theorem isWord_spellClass (h : d.WellFormed) : WordTree.IsWord (c.spellClass d) := by
  obtain ⟨hne, hids⟩ := written_identifiers (c := c) h
  refine ⟨fun hnil => ?_, fun x hx => ?_⟩
  · rw [toList_spellClass h] at hnil
    have hsplit := splitOn_intercalate_of_isIdentifier hne hids
    rw [hnil] at hsplit
    have hempty : isIdentifier [] = true := hids [] (by rw [← hsplit]; simp)
    cases hempty
  · rw [toList_spellClass h] at hx
    rcases mem_of_mem_intercalate hx with ⟨s, hs, hin⟩ | hdot
    · exact isTypeNameChar_of_isNameChar (Or.inl (isNameChar_of_mem (hids s hs) x hin))
    · exact isTypeNameChar_of_isNameChar (Or.inr (List.mem_singleton.1 hdot))

/-! ## Classes that keep to the convention -/

/-- The full name of a conventional class tells the class. -/
theorem eq_of_canonical (hd : d.Conventional) (he : e.Conventional)
    (h : d.canonical = e.canonical) : d = e := by
  have hread := hd.read_canonical
  rw [h, he.read_canonical] at hread
  exact (Except.ok.inj hread).symm

/-- A conventional class that is written in full is not taken for one that
is written short: its package comes first, and if it has none, it would
be written short itself. -/
theorem written_ne (hd : d.Conventional) (he : e.Conventional) (hmem : e ∈ c.references)
    (hdefault : e.package = "" → c.name.package = "") (hshort : c.isShort d = true)
    (hlong : ¬ c.isShort e = true) : c.written d ≠ c.written e := by
  intro h
  rw [written, written, if_pos hshort, if_neg hlong] at h
  by_cases hpackage : e.package = ""
  · -- both have one simple name in front, and it is not that of the companion
    have hnames : d.names = e.names := by
      rw [hpackage] at h
      exact (List.map_injective_iff.2 fun _ _ => String.toList_inj.1) h
    have houter : d.outer = e.outer := (List.cons.inj hnames).1
    have hother : e.outer ≠ c.name.simpleName := houter ▸ (isShort_iff.1 hshort).1
    exact hlong (isShort_of_near hmem (by rw [hpackage, hdefault hpackage]) hother)
  · have hsegments : segments e.package.toList ≠ [] := by simp [segments, hpackage]
    obtain ⟨s, ss, hcons⟩ := List.exists_cons_of_ne_nil hsegments
    rw [hcons, ClassName.names, List.map_cons, List.cons_append, List.cons.injEq] at h
    have hlower : startsUpper s = false := he.segments_lower s (by simp [hcons])
    rw [← h.1, hd.outer_upper] at hlower
    cases hlower

/-- **Conventional classes are spelled differently.** -/
theorem eq_of_spellClass (hd : d.Conventional) (he : e.Conventional)
    (hdmem : d ∈ c.references) (hemem : e ∈ c.references)
    (hddefault : d.package = "" → c.name.package = "")
    (hedefault : e.package = "" → c.name.package = "")
    (h : c.spellClass d = c.spellClass e) : d = e := by
  have hwritten := (spellClass_eq_iff_written hd.toWellFormed he.toWellFormed).1 h
  by_cases hdshort : c.isShort d = true <;> by_cases heshort : c.isShort e = true
  · exact eq_of_isShort hdshort heshort hwritten
  · exact absurd hwritten (written_ne hd he hemem hedefault hdshort heshort)
  · exact absurd hwritten.symm (written_ne he hd hdmem hddefault heshort hdshort)
  · rw [spellClass, spellClass, if_neg hdshort, if_neg heshort] at h
    exact eq_of_canonical hd he h

/-! ## Types -/

section Types

variable (htypes : ∀ f ∈ c.fields, ∃ s, TypeRef.ofText s = .ok f.type)
variable {f g : CompanionField}
include htypes

/-- The classes of the types of the fields are well-formed. -/
theorem wellFormed_of_mem_fieldClasses (hd : d ∈ c.fieldClasses) : d.WellFormed := by
  obtain ⟨f, hf, hd⟩ := List.mem_flatMap.1 hd
  obtain ⟨s, hs⟩ := htypes f hf
  exact (declarable_of_ofText hs).2 d hd

/-- **Types are spelled alike** when they are the same up to the words
their classes are spelled with. -/
theorem spellType_eq_iff_wordTree (hf : f ∈ c.fields) (hg : g ∈ c.fields) :
    c.spellType f.type = c.spellType g.type ↔
      f.type.wordTree c.spellClass = g.type.wordTree c.spellClass := by
  have hshape : ∀ {a : CompanionField}, a ∈ c.fields → a.type.declarable false = true ∧
      ∀ d ∈ a.type.classes, WordTree.IsWord (c.spellClass d) := by
    intro a ha
    obtain ⟨s, hs⟩ := htypes a ha
    obtain ⟨hdeclarable, hwf⟩ := declarable_of_ofText hs
    exact ⟨hdeclarable, fun d hd => isWord_spellClass (hwf d hd)⟩
  obtain ⟨hshapef, hwordf⟩ := hshape hf
  obtain ⟨hshapeg, hwordg⟩ := hshape hg
  exact spelled_eq_iff hshapef hshapeg hwordf hwordg

/-- **Classes that are told by their words make types that are told by
their texts**, when no class is spelled like a primitive type. -/
theorem eq_of_spellType
    (hinj : ∀ d ∈ c.fieldClasses, ∀ e ∈ c.fieldClasses, c.spellClass d = c.spellClass e → d = e)
    (hkey : ∀ d ∈ c.fieldClasses, Primitive.ofKeyword? (c.spellClass d).toList = none)
    (hf : f ∈ c.fields) (hg : g ∈ c.fields) (h : c.spellType f.type = c.spellType g.type) :
    f.type = g.type := by
  -- the class of a word is the one that is found to be spelled like that
  let back (text : String) : ClassName :=
    (c.fieldClasses.find? (c.spellClass · == text)).getD ⟨"", "", []⟩
  have hback : ∀ d ∈ c.fieldClasses, back (c.spellClass d) = d := by
    intro d hd
    have hsome : (c.fieldClasses.find? (c.spellClass · == c.spellClass d)).isSome = true :=
      List.find?_isSome.2 ⟨d, hd, by simp⟩
    obtain ⟨e, he⟩ := Option.isSome_iff_exists.1 hsome
    have halike : c.spellClass e = c.spellClass d := by simpa using List.find?_some he
    have heq : e = d := hinj e (List.mem_of_find?_eq_some he) d hd halike
    rw [← heq] at he ⊢
    simp only [back, he, Option.getD_some]
  have hof : ∀ {a : CompanionField}, a ∈ c.fields →
      ofTree back (a.type.wordTree c.spellClass) = a.type := by
    intro a ha
    obtain ⟨s, hs⟩ := htypes a ha
    refine ofTree_tree a.type 0 (declarable_of_ofText hs).1 fun d hd => ?_
    have hmem : d ∈ c.fieldClasses := List.mem_flatMap.2 ⟨a, ha, hd⟩
    exact ⟨hback d hmem, hkey d hmem⟩
  rw [← hof hf, ← hof hg, (spellType_eq_iff_wordTree htypes hf hg).1 h]

end Types

/-- **Which types are spelled alike in one source file**: those with the
same words, where two classes have the same word exactly when the same
names are written for both and not both are written short. Otherwise
different types have different texts, so long as no class is spelled like
a primitive type; in particular when all classes keep to the convention
on capitals and those of the default package are neighbours of the
companion. -/
theorem spellType_eq_iff (c : CompanionClass)
    (htypes : ∀ f ∈ c.fields, ∃ s, TypeRef.ofText s = .ok f.type) :
    (∀ f ∈ c.fields, ∀ g ∈ c.fields, c.spellType f.type = c.spellType g.type ↔
      f.type.wordTree c.spellClass = g.type.wordTree c.spellClass) ∧
    (∀ d ∈ c.fieldClasses, ∀ e ∈ c.fieldClasses, c.spellClass d = c.spellClass e ↔
      d = e ∨ ¬ (c.isShort d = true ∧ c.isShort e = true) ∧ c.written d = c.written e) ∧
    ((∀ d ∈ c.fieldClasses, ∀ e ∈ c.fieldClasses, c.spellClass d = c.spellClass e → d = e) →
      (∀ d ∈ c.fieldClasses, Primitive.ofKeyword? (c.spellClass d).toList = none) →
      ∀ f ∈ c.fields, ∀ g ∈ c.fields, f.type ≠ g.type →
        c.spellType f.type ≠ c.spellType g.type) ∧
    ((∀ d ∈ c.fieldClasses, d.Conventional ∧ (d.package = "" → c.name.package = "")) →
      ∀ f ∈ c.fields, ∀ g ∈ c.fields, f.type ≠ g.type →
        c.spellType f.type ≠ c.spellType g.type) := by
  refine ⟨fun f hf g hg => spellType_eq_iff_wordTree htypes hf hg, fun d hd e he => ?_,
    fun hinj hkey f hf g hg hne h => hne (eq_of_spellType htypes hinj hkey hf hg h),
    fun hconv f hf g hg hne h => hne ?_⟩
  · exact spellClass_eq_iff (wellFormed_of_mem_fieldClasses htypes hd)
      (wellFormed_of_mem_fieldClasses htypes he)
  have hreferences : ∀ d ∈ c.fieldClasses, d ∈ c.references := by
    intro d hd
    obtain ⟨a, ha, hd⟩ := List.mem_flatMap.1 hd
    exact List.mem_cons_of_mem _ (List.mem_flatMap.2 ⟨a, ha, List.mem_append_right _ hd⟩)
  refine eq_of_spellType htypes (fun d hd e he halike => ?_) (fun d hd => ?_) hf hg h
  · exact eq_of_spellClass (hconv d hd).1 (hconv e he).1 (hreferences d hd) (hreferences e he)
      (hconv d hd).2 (hconv e he).2 halike
  · exact (classWord_spellClass (hconv d hd).1).not_keyword

/-- The types of fields are read from their texts when they have the shape
of types and their classes are well-formed and not named like primitive types. -/
theorem exists_ofText_of_forall (h : ∀ f ∈ c.fields, f.type.declarable false = true ∧
    ∀ d ∈ f.type.classes, d.WellFormed ∧ d.isPrimitiveName = false) :
    ∀ f ∈ c.fields, ∃ s, TypeRef.ofText s = .ok f.type := by
  intro f hf
  obtain ⟨hshape, hclasses⟩ := h f hf
  exact ⟨f.type.text, ofText_text_of_forall hshape (fun d hd => (hclasses d hd).1)
    fun d hd => (hclasses d hd).2⟩

/-- Two classes of one simple name are told apart by their texts. -/
theorem spellType_ne_namesakes : namesakes.spellType (.named ⟨"java.lang", "String", []⟩)
    ≠ namesakes.spellType (.array (.named ⟨"com.acme", "String", []⟩)) := by
  have htypes := exists_ofText_of_forall (c := namesakes) (by decide +kernel)
  exact (spellType_eq_iff namesakes htypes).2.2.2 (by decide +kernel)
    ⟨"title", .named ⟨"java.lang", "String", []⟩, .primaryKey⟩ (by decide +kernel)
    ⟨"lines", .array (.named ⟨"com.acme", "String", []⟩), .plain⟩ (by decide +kernel)
    (by decide)

/-- A companion that refers to a class `Foo` of the package `com.Example`
and to one in the class `Example` of the package `com`, while other
classes own both simple names. -/
def lookalikes : CompanionClass where
  name := ⟨"p", "RealmA"⟩
  baseClass := ⟨"io.realm", "RealmObject", []⟩
  primaryKeyMarker := ⟨"io.realm.annotations", "PrimaryKey", []⟩
  ignoreMarker := ⟨"io.realm.annotations", "Ignore", []⟩
  fields := [⟨"first", .parameterized ⟨"a", "Foo", []⟩ [.named ⟨"b", "Example", []⟩], .plain⟩,
    ⟨"second", .named ⟨"com.Example", "Foo", []⟩, .plain⟩,
    ⟨"third", .named ⟨"com", "Example", ["Foo"]⟩, .plain⟩]
  originating := ⟨"Source"⟩

/-- Both are written in full, and with one text. -/
theorem spellType_lookalikes :
    (∀ d ∈ [lookalikes.baseClass, lookalikes.primaryKeyMarker, lookalikes.ignoreMarker]
      ++ lookalikes.fieldClasses, ∃ s, ClassName.ofText s = .ok d) ∧
    (∀ f ∈ lookalikes.fields, ∃ s, TypeRef.ofText s = .ok f.type) ∧
    ∃ f ∈ lookalikes.fields, ∃ g ∈ lookalikes.fields, f.type ≠ g.type ∧
      lookalikes.spellType f.type = "com.Example.Foo" ∧
      lookalikes.spellType g.type = "com.Example.Foo" := by
  refine ⟨fun d hd => ⟨d.text, ?_⟩, exists_ofText_of_forall (by decide +kernel), ?_⟩
  · revert d
    decide +kernel
  · exact ⟨⟨"second", .named ⟨"com.Example", "Foo", []⟩, .plain⟩, by decide +kernel,
      ⟨"third", .named ⟨"com", "Example", ["Foo"]⟩, .plain⟩, by decide +kernel, by decide,
      by decide +kernel, by decide +kernel⟩

end CompanionClass

end Companion
