import Companion.Class.Spelling
import Companion.Proofs.Type.Spelled
import Companion.Proofs.Type.Word

/-!
# What the names in a source file mean

A reader of a source file takes a name with a package as it stands. A
name without one is found through its first simple name: in the file
itself, then among the imports, then in the package of the file, and
last in the package that is visible everywhere. `meaning` is that rule,
told from what the file says alone, and the names a companion is written
with mean the classes they were written for (`meaning_spelled`).

One name stands for one class: two classes that are written short under
the same simple name are in the same package, because both are there by
right of the owner (`package_eq_of_isShort`).
-/

namespace Companion

open Text

namespace CompanionClass

variable {c : CompanionClass} {d e : ClassName} {name : String}

/-! ## The rule -/

/-- The package of the import that ends in a simple name. -/
def importedPackage? (c : CompanionClass) (name : String) : Option String :=
  ((c.imports.map fun line => line.toList.splitOn '.').find? (·.getLast? == some name.toList)).map
    fun segments => String.ofList (['.'].intercalate segments.dropLast)

/-- The package in which the source finds a simple name: that of the
companion for its own name, that of an import, that of the companion
again for its neighbours, and else the one that is visible everywhere. -/
def packageOf (c : CompanionClass) (name : String) : String :=
  if name = c.name.simpleName then c.name.package
  else match c.importedPackage? name with
    | some package => package
    | none =>
      if c.references.any fun d => d.package == c.name.package && d.outer == name then
        c.name.package
      else universalPackage

/-- The class that a name in the source means. -/
def meaning (c : CompanionClass) (d : ClassName) : ClassName :=
  if d.package = "" then { d with package := c.packageOf d.outer } else d

/-! ## Owners -/

/-- The classes that claim a name are those the source refers to. -/
theorem mem_claimants : d ∈ c.claimants ↔ d ∈ c.references := by
  simp only [claimants, List.partition_eq_filter_filter, List.mem_append, List.mem_filter,
    Function.comp_apply, Bool.not_eq_true']
  cases d.package == c.name.package <;> simp

/-- The owner of a name is the first class that claims it. -/
theorem isShort_iff : c.isShort d = true ↔ d.outer ≠ c.name.simpleName ∧
    ∃ e, c.claimants.find? (·.outer == d.outer) = some e ∧ e.package = d.package := by
  simp only [isShort, owner?, beq_iff_eq]
  split
  · next hown => simp [hown]
  · next hother =>
    simp only [Option.map_eq_some_iff, ne_eq, hother, not_false_eq_true, true_and]
    refine exists_congr fun e => and_congr_right fun hfind => ?_
    have houter : e.outer = d.outer := by simpa using List.find?_some hfind
    simp [ClassName.topLevel, ClassName.ofTopLevel, houter]

/-- **A name stands for one class**: classes that are written short under
the same simple name are in the same package. -/
theorem package_eq_of_isShort (hd : c.isShort d = true) (he : c.isShort e = true)
    (houter : d.outer = e.outer) : d.package = e.package := by
  obtain ⟨-, a, ha, hpackage⟩ := isShort_iff.1 hd
  obtain ⟨-, b, hb, hpackage'⟩ := isShort_iff.1 he
  rw [houter, hb] at ha
  cases ha
  rw [← hpackage, hpackage']

/-- The classes of the companion's package come first: when one of them
claims a name, one of them owns it. -/
theorem package_eq_of_find? (hd : d ∈ c.references) (hnear : d.package = c.name.package)
    (hfind : c.claimants.find? (·.outer == d.outer) = some e) : e.package = c.name.package := by
  rw [claimants, List.partition_eq_filter_filter, List.find?_append] at hfind
  -- the search begins with the classes of the package, and finds one at the latest in `d`
  have hmem : d ∈ c.references.filter (·.package == c.name.package) := by simp [hd, hnear]
  cases hfirst : (c.references.filter (·.package == c.name.package)).find? (·.outer == d.outer) with
  | none => simpa using List.find?_eq_none.1 hfirst d hmem
  | some a =>
    rw [hfirst, Option.some_or] at hfind
    cases hfind
    have ha := List.mem_of_find?_eq_some hfirst
    simpa using (List.mem_filter.1 ha).2

/-- So a class of the companion's package is written short, unless it has
the name of the companion. -/
theorem isShort_of_near (hd : d ∈ c.references) (hnear : d.package = c.name.package)
    (hother : d.outer ≠ c.name.simpleName) : c.isShort d = true := by
  have hclaims : (c.claimants.find? (·.outer == d.outer)).isSome = true :=
    List.find?_isSome.2 ⟨d, mem_claimants.2 hd, by simp⟩
  obtain ⟨e, he⟩ := Option.isSome_iff_exists.1 hclaims
  exact isShort_iff.2 ⟨hother, e, he, by rw [package_eq_of_find? hd hnear he, hnear]⟩

/-! ## Imports -/

/-- An import names the top-level class of a class that is written short. -/
theorem mem_imports {line : String} : line ∈ c.imports ↔
    ∃ d ∈ c.references, c.isShort d = true ∧ c.needsImport d.package = true ∧
      d.topLevel.canonical = line := by
  simp only [imports, mem_sorted, List.mem_map, List.mem_filter, mem_claimants, Bool.and_eq_true]
  constructor
  · rintro ⟨d, ⟨hd, hshort, hneed⟩, rfl⟩
    exact ⟨d, hd, hshort, hneed, rfl⟩
  · rintro ⟨d, hd, hshort, hneed, rfl⟩
    exact ⟨d, ⟨hd, hshort, hneed⟩, rfl⟩

/-- The dots of an import tell its package from its simple name. -/
theorem splitOn_import (h : d.WellFormed) :
    d.topLevel.canonical.toList.splitOn '.' = segments d.package.toList ++ [d.outer.toList] :=
  splitOn_dotted (by simp [ClassName.topLevel, ClassName.ofTopLevel, ClassName.names]) h.package
    fun n hn => h.names n (by simp_all [ClassName.topLevel, ClassName.ofTopLevel, ClassName.names])

section WellFormed

variable (hwf : ∀ d ∈ c.references, d.WellFormed)
include hwf

/-- What an import tells of a name is the package of a class that is
written short under it. -/
theorem exists_of_importedPackage? {package : String}
    (h : c.importedPackage? name = some package) :
    ∃ d ∈ c.references, c.isShort d = true ∧ c.needsImport d.package = true ∧
      d.outer = name ∧ d.package = package := by
  obtain ⟨cut, hfind, rfl⟩ := Option.map_eq_some_iff.1 h
  have hlast : cut.getLast? = some name.toList := by simpa using List.find?_some hfind
  obtain ⟨line, hline, rfl⟩ := List.mem_map.1 (List.mem_of_find?_eq_some hfind)
  obtain ⟨d, hd, hshort, hneed, rfl⟩ := mem_imports.1 hline
  rw [splitOn_import (hwf d hd)] at hlast ⊢
  simp only [List.getLast?_append, List.getLast?_singleton, Option.some_or,
    Option.some_inj, String.toList_inj] at hlast
  refine ⟨d, hd, hshort, hneed, hlast, ?_⟩
  rw [List.dropLast_concat, intercalate_segments, String.ofList_toList]

/-- And it tells something of every name of a class that needs its import. -/
theorem importedPackage?_ne_none (hd : d ∈ c.references) (hshort : c.isShort d = true)
    (hneed : c.needsImport d.package = true) : c.importedPackage? d.outer ≠ none := by
  intro hnone
  have hline := List.mem_map_of_mem (f := fun line : String => line.toList.splitOn '.')
    (mem_imports.2 ⟨d, hd, hshort, hneed, rfl⟩)
  have hno := List.find?_eq_none.1 (Option.map_eq_none_iff.1 hnone) _ hline
  rw [splitOn_import (hwf d hd)] at hno
  simp at hno

/-- **Imports hide nothing**: none has the name of the companion or that of
a class of its package that the source refers to. -/
theorem importedPackage?_eq_none (h : name = c.name.simpleName ∨
    ∃ d ∈ c.references, d.package = c.name.package ∧ d.outer = name) :
    c.importedPackage? name = none := by
  by_contra hsome
  obtain ⟨package, himport⟩ := Option.ne_none_iff_exists'.1 hsome
  obtain ⟨e, -, hshort, hneed, rfl, -⟩ := exists_of_importedPackage? hwf himport
  obtain ⟨hother, owner, howner, hpackage⟩ := isShort_iff.1 hshort
  rcases h with hown | ⟨d, hd, hnear, houter⟩
  · exact hother hown
  · rw [← houter] at howner
    have hhere : e.package = c.name.package := by
      rw [← hpackage, package_eq_of_find? hd hnear howner]
    simp [needsImport, hhere] at hneed

/-- A class of the companion's package is found there, for no import hides it. -/
theorem packageOf_of_near (hd : d ∈ c.references) (hnear : d.package = c.name.package) :
    c.packageOf d.outer = c.name.package := by
  have hnone : c.importedPackage? d.outer = none :=
    importedPackage?_eq_none hwf (.inr ⟨d, hd, hnear, rfl⟩)
  have hany : (c.references.any fun a => a.package == c.name.package && a.outer == d.outer)
      = true := List.any_eq_true.2 ⟨d, hd, by simp [hnear]⟩
  simp only [packageOf, hnone, hany, if_true, ite_self]

/-- **A short name is found in the package of its class.** -/
theorem packageOf_of_isShort (hdefault : d.package = "" → c.name.package = "")
    (hd : d ∈ c.references) (hshort : c.isShort d = true) : c.packageOf d.outer = d.package := by
  obtain ⟨hother, owner, howner, hpackage⟩ := isShort_iff.1 hshort
  by_cases hnear : d.package = c.name.package
  · rw [packageOf_of_near hwf hd hnear, hnear]
  · rw [packageOf, if_neg hother]
    cases himport : c.importedPackage? d.outer with
    | some package =>
      obtain ⟨a, -, ha, -, houter, rfl⟩ := exists_of_importedPackage? hwf himport
      exact package_eq_of_isShort ha hshort houter
    | none =>
      -- a neighbour of that name would own it
      have hnone : (c.references.any fun a => a.package == c.name.package && a.outer == d.outer)
          = false := by
        rw [List.any_eq_false]
        intro a ha hboth
        simp only [Bool.and_eq_true, beq_iff_eq] at hboth
        rw [← hboth.2] at howner
        exact hnear (by rw [← hpackage, package_eq_of_find? ha hboth.1 howner])
      have hnamed : d.package ≠ "" := fun hempty => hnear (by rw [hempty, hdefault hempty])
      have hvisible : ¬ c.needsImport d.package = true :=
        fun hneed => importedPackage?_ne_none hwf hd hshort hneed himport
      simp only [needsImport, Bool.and_eq_true, Bool.not_eq_true', bne_iff_ne, ne_eq, hnear,
        not_false_eq_true, and_true, String.isEmpty_eq_false_iff, hnamed, true_and,
        Decidable.not_not] at hvisible
      simp only [hnone, Bool.false_eq_true, if_false, hvisible]

end WellFormed

/-! ## Names that are written -/

/-- What the text of a class in the source is read as. -/
def reread (c : CompanionClass) (d : ClassName) : ClassName :=
  if c.isShort d then ⟨"", d.outer, d.nested⟩ else d

/-- Either spelling of a conventional class is a text of name characters
and dots, and is read as a class with the same simple names. -/
theorem read_spellClass (h : d.Conventional) :
    (∀ x ∈ (c.spellClass d).toList, isNameChar x = true ∨ x = '.') ∧
      ClassName.read (c.spellClass d).toList = .ok (c.reread d) := by
  unfold spellClass reread
  split
  · exact ⟨fun x hx => h.isNameChar_of_mem_path hx, h.read_path⟩
  · exact ⟨fun x hx => h.isNameChar_of_mem_canonical hx, h.read_canonical⟩

/-- In a type the spelling is a word, for it begins with no keyword. -/
theorem classWord_spellClass (h : d.Conventional) :
    TypeRef.ClassWord (c.spellClass d).toList (c.reread d) := by
  obtain ⟨hchars, hread⟩ := read_spellClass (c := c) h
  refine TypeRef.classWord_of_read (fun x hx => TypeRef.isTypeNameChar_of_isNameChar (hchars x hx))
    hread ?_
  unfold reread
  split <;> exact h.outer_upper

/-- **A class that is written and read again means itself.** -/
theorem meaning_reread (hwf : ∀ d ∈ c.references, d.WellFormed)
    (hdefault : d.package = "" → c.name.package = "") (hd : d ∈ c.references) :
    c.meaning (c.reread d) = d := by
  unfold reread
  split
  · next hshort => rw [meaning, if_pos rfl, packageOf_of_isShort hwf hdefault hd hshort]
  · next hlong =>
    rw [meaning]
    split
    · next hempty =>
      -- a neighbour is written in full for having the companion's own name
      have hnear : d.package = c.name.package := by rw [hempty, hdefault hempty]
      have hown : d.outer = c.name.simpleName := by
        by_contra hother
        exact hlong (isShort_of_near hd hnear hother)
      rw [packageOf, if_pos hown, ← hnear]
    · rfl

/-- **The names in the source of a companion mean what they were written
for**: each type of a field is read back from its spelling when every
name in it is replaced by its meaning, and so is each class. -/
theorem meaning_spelled (c : CompanionClass)
    (htypes : ∀ f ∈ c.fields, ∃ s, TypeRef.ofText s = .ok f.type)
    (hconv : ∀ d ∈ c.references, d.Conventional ∧ (d.package = "" → c.name.package = "")) :
    (∀ f ∈ c.fields, ∃ t, TypeRef.ofText (c.spellType f.type) = .ok t ∧
      t.mapClasses c.meaning = f.type) ∧
    ∀ d ∈ c.references, ∃ e, ClassName.ofText (c.spellClass d) = .ok e ∧ c.meaning e = d := by
  have hback : ∀ d ∈ c.references, c.meaning (c.reread d) = d := fun d hd =>
    meaning_reread (fun a ha => (hconv a ha).1.toWellFormed) (hconv d hd).2 hd
  constructor
  · intro f hf
    have hmem : ∀ d ∈ f.type.classes, d ∈ c.references := fun d hd =>
      List.mem_cons_of_mem _ (List.mem_flatMap.2 ⟨f, hf, List.mem_append_right _ hd⟩)
    obtain ⟨s, hs⟩ := htypes f hf
    have hshape := (TypeRef.declarable_of_ofText hs).1
    refine ⟨f.type.mapClasses c.reread, TypeRef.ofText_spelled hshape fun d hd => ?_, ?_⟩
    · exact classWord_spellClass (hconv d (hmem d hd)).1
    · exact TypeRef.mapClasses_mapClasses f.type fun d hd => hback d (hmem d hd)
  · intro d hd
    obtain ⟨hchars, hread⟩ := read_spellClass (c := c) (hconv d hd).1
    exact ⟨c.reread d, (ClassName.ofText_eq_ok_iff hchars).2 hread, hback d hd⟩

/-- A companion whose fields have two classes of the same simple name. -/
def namesakes : CompanionClass where
  name := ⟨"com.acme", "RealmNote"⟩
  baseClass := ⟨"io.realm", "RealmObject", []⟩
  primaryKeyMarker := ⟨"io.realm.annotations", "PrimaryKey", []⟩
  ignoreMarker := ⟨"io.realm.annotations", "Ignore", []⟩
  fields := [⟨"title", .named ⟨"java.lang", "String", []⟩, .primaryKey⟩,
    ⟨"lines", .array (.named ⟨"com.acme", "String", []⟩), .plain⟩]
  originating := ⟨"com.acme.Note"⟩

/-- The class of the companion's package takes the short name, the other
one is written in full, and both mean what they should. -/
theorem meaning_spelled_namesakes :
    (∀ f ∈ namesakes.fields, ∃ t, TypeRef.ofText (namesakes.spellType f.type) = .ok t ∧
      t.mapClasses namesakes.meaning = f.type) ∧
    ∀ d ∈ namesakes.references, ∃ e, ClassName.ofText (namesakes.spellClass d) = .ok e ∧
      namesakes.meaning e = d := by
  refine meaning_spelled namesakes (fun f hf => ?_) (by decide +kernel)
  have hshape : f.type.declarable false = true := by
    revert f
    decide +kernel
  have hword : ∀ d ∈ f.type.classes, TypeRef.ClassWord d.canonical.toList (id d) := by
    intro d hd
    have hconv : d.Conventional := by
      have hall : ∀ f ∈ namesakes.fields, ∀ d ∈ f.type.classes, d.Conventional := by
        decide +kernel
      exact hall f hf d hd
    exact TypeRef.classWord_of_read
      (fun x hx => TypeRef.isTypeNameChar_of_isNameChar (hconv.isNameChar_of_mem_canonical hx))
      hconv.read_canonical hconv.outer_upper
  have hread := TypeRef.ofText_spelled hshape hword
  rw [TypeRef.mapClasses_id] at hread
  exact ⟨_, hread⟩

end CompanionClass

end Companion
