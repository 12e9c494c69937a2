import Companion.Proofs.Type.Grammar

/-!
# Words of types — keywords and the names of classes

A word of a type is a keyword or the name of a class. A class of the
default package may be named like a primitive type: it can be read as
`/int`, and is written `int`. The text of any other well-formed class is
a word that is read as the class (`classWord_text`), and so is every
word that is read as a class with a capital (`classWord_of_read`).
-/

namespace Companion

open Text

/-- Characters of names and dots are part of the words of types. -/
theorem TypeRef.isTypeNameChar_of_isNameChar {x : Char} (h : isNameChar x = true ∨ x = '.') :
    isTypeNameChar x = true := by
  rcases h with hname | rfl
  · simp [isTypeNameChar, hname]
  · decide +kernel

namespace ClassName

/-- A class of the default package that is named like a primitive type. -/
def isPrimitiveName (c : ClassName) : Bool :=
  c.package.isEmpty && c.nested.isEmpty && (Primitive.ofKeyword? c.outer.toList).isSome

/-- The class that is named like a primitive type. -/
def ofPrimitive (p : Primitive) : ClassName := ⟨"", p.keyword, []⟩

/-- There is one such class for each primitive type. -/
theorem isPrimitiveName_iff {c : ClassName} :
    c.isPrimitiveName = true ↔ ∃ p, c = ofPrimitive p := by
  obtain ⟨package, outer, nested⟩ := c
  simp only [isPrimitiveName, ofPrimitive, Bool.and_eq_true, String.isEmpty_iff, List.isEmpty_iff,
    Option.isSome_iff_exists, Primitive.ofKeyword?_eq_some, String.toList_inj, ClassName.mk.injEq]
  constructor
  · rintro ⟨⟨hpackage, hnested⟩, p, houter⟩
    exact ⟨p, hpackage, houter, hnested⟩
  · rintro ⟨p, hpackage, houter, hnested⟩
    exact ⟨⟨hpackage, hnested⟩, p, houter⟩

/-- It is written like the primitive type. -/
theorem text_ofPrimitive (p : Primitive) : (ofPrimitive p).text = p.keyword := by
  cases p <;> decide +kernel

/-- And a text like that is read as it. -/
theorem read_keyword (p : Primitive) : read p.keyword.toList = .ok (ofPrimitive p) := by
  cases p <;> decide +kernel

namespace WellFormed

variable {c : ClassName} (h : c.WellFormed)
include h

/-- The full name of a class is made of characters of type names. -/
theorem isTypeNameChar_of_mem_canonical {x : Char} (hx : x ∈ c.canonical.toList) :
    TypeRef.isTypeNameChar x = true :=
  TypeRef.isTypeNameChar_of_isNameChar (h.isNameChar_of_mem_canonical hx)

/-- So is the form with a slash. -/
theorem isTypeNameChar_of_mem_packagedText {x : Char} (hx : x ∈ c.packagedText.toList) :
    TypeRef.isTypeNameChar x = true := by
  simp only [packagedText, String.toList_append, List.mem_append] at hx
  rcases hx with (hpackage | hslash) | hpath
  · exact TypeRef.isTypeNameChar_of_isNameChar (isNameChar_of_mem_package h.package hpackage)
  · have hx : x = '/' := by simpa using hslash
    rw [hx]
    decide +kernel
  · exact TypeRef.isTypeNameChar_of_isNameChar (h.isNameChar_of_mem_path hpath)

/-- And so is the text, which is one of the two. -/
theorem isTypeNameChar_of_mem_text {x : Char} (hx : x ∈ c.text.toList) :
    TypeRef.isTypeNameChar x = true := by
  unfold text at hx
  split at hx
  · exact h.isTypeNameChar_of_mem_canonical hx
  · exact h.isTypeNameChar_of_mem_packagedText hx

/-- **The text of a class is a keyword** for the classes named like one only. -/
theorem ofKeyword?_text_eq_some {p : Primitive} :
    Primitive.ofKeyword? c.text.toList = some p ↔ c = ofPrimitive p := by
  constructor
  · intro hkey
    have hread := h.read_text
    rw [Primitive.ofKeyword?_eq_some.1 hkey, read_keyword] at hread
    exact (Except.ok.inj hread).symm
  · rintro rfl
    rw [text_ofPrimitive]
    exact Primitive.ofKeyword?_keyword p

/-- So the text of any other class is a word that is read as the class. -/
theorem classWord_text (hprim : c.isPrimitiveName = false) :
    TypeRef.ClassWord c.text.toList c where
  chars _ hx := h.isTypeNameChar_of_mem_text hx
  not_keyword := by
    cases hkey : Primitive.ofKeyword? c.text.toList with
    | none => rfl
    | some p =>
      rw [isPrimitiveName_iff.2 ⟨p, h.ofKeyword?_text_eq_some.1 hkey⟩] at hprim
      cases hprim
  read := h.read_text

/-- The text of a class has a first character. -/
theorem text_ne_nil : c.text.toList ≠ [] := by
  intro hnil
  have hempty : read [] = .error .notDotted := by decide
  rw [← hnil, h.read_text] at hempty
  cases hempty

end WellFormed

end ClassName

namespace TypeRef

/-- No keyword begins with a capital, so what is read as a class with a
capital is no keyword. -/
theorem classWord_of_read {word : List Char} {c : ClassName}
    (hchars : ∀ x ∈ word, isTypeNameChar x = true) (hread : ClassName.read word = .ok c)
    (hupper : startsUpper c.outer.toList = true) : ClassWord word c where
  chars := hchars
  not_keyword := by
    cases hkey : Primitive.ofKeyword? word with
    | none => rfl
    | some p =>
      rw [Primitive.ofKeyword?_eq_some.1 hkey, ClassName.read_keyword] at hread
      cases hread
      revert hupper
      cases p <;> decide
  read := hread

end TypeRef

end Companion
