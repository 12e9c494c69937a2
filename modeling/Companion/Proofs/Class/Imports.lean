import Companion.Proofs.Class.Claims
import Companion.Proofs.Class.Parts
import Companion.Proofs.Name.ShortestText
import Companion.Proofs.Text.Bytes

/-!
# Imports — which classes a source file imports

The imports of a source file are right when a reader who finds a short
name is led to the class it stands for, and they are no more than needed
when each of them leads somewhere. `ImportsFit` says both, of the text:
the last dot of an imported name tells its package from its simple name,
and the class below has the texts of the classes that are imported. The
imports of every companion fit (`importsFit`).

The imported names are in the order of their bytes. The lines they stand
on are too, unless one name goes on from another with a character that
comes before the semicolon at the end of the line: a dollar sign, a digit
or a dot (`pairwise_importBlock_iff`, `importBlock_lookups`).
-/

namespace Companion

open Text

/-! ## Names with and without a package -/

/-- A package without segments is the default one. -/
theorem Text.segments_eq_nil_iff {package : List Char} : segments package = [] ↔ package = [] := by
  unfold segments
  split
  · next hempty => simp [hempty]
  · next hne => simp [hne, List.splitOn_ne_nil]

/-- **The name below the package is the full one** in the default package,
and only there. -/
theorem ClassName.WellFormed.path_eq_canonical_iff {d : ClassName} (h : d.WellFormed) :
    d.path = d.canonical ↔ d.package = "" := by
  have hpath : d.path.toList = ['.'].intercalate (d.names.map String.toList) := by
    rw [ClassName.path, String.toList_intercalate]
    rfl
  rw [← String.toList_inj, ← String.toList_eq_nil_iff, ← segments_eq_nil_iff]
  constructor
  · intro heq
    have hsplit := splitOn_dotted (by simp [ClassName.names]) h.package h.names
    have hshort : (['.'].intercalate (d.names.map String.toList)).splitOn '.' =
        d.names.map String.toList :=
      splitOn_intercalate_of_isIdentifier (by simp [ClassName.names])
        fun s hs => h.isIdentifier_of_mem_names hs
    -- both texts have the same names between their dots
    rw [← hpath, heq, ClassName.canonical, hsplit] at hshort
    exact List.append_left_eq_self.1 hshort
  · intro hempty
    rw [hpath, h.toList_canonical, hempty, List.nil_append]

namespace CompanionClass

variable {c : CompanionClass} {d e : ClassName}

/-! ## What an import line tells -/

/-- The name behind the last dot. -/
def lastName (line : String) : String := String.ofList ((line.toList.splitOn '.').getLastD [])

/-- What stands before it. -/
def packageBefore (line : String) : String :=
  String.ofList (['.'].intercalate (line.toList.splitOn '.').dropLast)

/-- **An import tells its package and its simple name.** -/
theorem names_of_import (h : d.WellFormed) :
    lastName d.topLevel.canonical = d.outer ∧ packageBefore d.topLevel.canonical = d.package := by
  constructor
  · rw [lastName, splitOn_import h, List.getLastD_concat, String.ofList_toList]
  · rw [packageBefore, splitOn_import h, List.dropLast_concat, intercalate_segments,
      String.ofList_toList]

/-! ## The order of the lines -/

/-- A name goes on from another with a character that comes before the semicolon. -/
def GoesOnEarly (a b : String) : Prop := ∃ d rest, b.toList = a.toList ++ d :: rest ∧ d < ';'

/-- Two import lines are in the order of their names, unless the semicolon comes between. -/
theorem importLine_lt_iff {a b : String} (h : a < b) :
    "import " ++ a ++ ";" < "import " ++ b ++ ";" ↔ ¬ GoesOnEarly a b := by
  have hnames : a.toList < b.toList := String.lt_iff_toList_lt.1 h
  have hmark : (";" : String).toList = [';'] := rfl
  rw [String.lt_iff_toList_lt]
  simp only [String.toList_append, List.append_assoc, append_lt_append_iff, hmark,
    concat_lt_concat_iff hnames, GoesOnEarly, not_exists, not_and]

/-- **The import lines are in order** exactly when no imported name goes on
early from another. -/
theorem pairwise_importBlock_iff : c.importBlock.Pairwise (fun a b => bytes a < bytes b) ↔
    c.imports.Pairwise fun a b => ¬ GoesOnEarly a b := by
  have hsorted : c.imports.Pairwise (· < ·) := pairwise_sorted
  simp only [importBlock, List.pairwise_map, bytes_lt_iff]
  constructor
  · exact fun hlines => (hsorted.and hlines).imp fun h => (importLine_lt_iff h.1).1 h.2
  · exact fun hnames => (hsorted.and hnames).imp fun h => (importLine_lt_iff h.1).2 h.2

/-! ## Short names -/

/-- A class is written short when its top-level class owns its top-level name. -/
theorem isShort_iff_owner? : c.isShort d = true ↔ c.owner? d.outer = some d.topLevel :=
  beq_iff_eq

/-- **Which classes are written by the name below their package**: those
whose top-level class owns the name, and those of the default package. -/
theorem spellClass_eq_path_iff (h : d.WellFormed) :
    c.spellClass d = d.path ↔ c.owner? d.outer = some d.topLevel ∨ d.package = "" := by
  rw [← isShort_iff_owner?, spellClass]
  split
  · next hshort => simp [hshort]
  · next hlong => rw [eq_comm, h.path_eq_canonical_iff, or_iff_right hlong]

/-- And which are written by their full name. -/
theorem spellClass_eq_canonical_iff (h : d.WellFormed) :
    c.spellClass d = d.canonical ↔ c.owner? d.outer ≠ some d.topLevel ∨ d.package = "" := by
  rw [Ne, ← isShort_iff_owner?, spellClass]
  split
  · next hshort => simp [hshort, h.path_eq_canonical_iff]
  · next hlong => simp [hlong]

/-- A package whose classes have to be imported is neither the default one
nor visible anyway. -/
theorem needsImport_iff {package : String} : c.needsImport package = true ↔
    package ≠ universalPackage ∧ package ≠ c.name.package ∧ package ≠ "" := by
  simp [needsImport, and_comm, and_assoc]

/-! ## The imports fit -/

/-- **The imports of a source file are right, and no more than needed.** -/
structure ImportsFit (c : CompanionClass) (layout : Layout) : Prop where
  /-- The import lines stand between the package line and the class. -/
  source : c.source layout =
    Page.unlines (c.packageBlock ++ (c.importBlock ++ gapBelow c.importBlock)) ++ c.body layout
  /-- The imported names are in the order of their bytes, and none comes twice. -/
  increasing : c.imports.Pairwise fun a b => bytes a < bytes b
  /-- The lines are in that order too, unless one name goes on from another early. -/
  lines : c.importBlock.Pairwise (fun a b => bytes a < bytes b) ↔
    c.imports.Pairwise fun a b => ¬ GoesOnEarly a b
  /-- No two end in the same simple name. -/
  distinct : ∀ a ∈ c.imports, ∀ b ∈ c.imports, lastName a = lastName b → a = b
  /-- None ends in the name of the companion. -/
  other : ∀ a ∈ c.imports, lastName a ≠ c.name.simpleName
  /-- None names a class that is visible anyway, or one of the default package. -/
  invisible : ∀ a ∈ c.imports, packageBefore a ≠ universalPackage ∧
    packageBefore a ≠ c.name.package ∧ packageBefore a ≠ ""
  /-- The companion's own name is owned by no class that the source refers to. -/
  own : c.owner? c.name.simpleName = none
  /-- Any other is owned by the first class of the companion's package that has it, or else by
  the first of all, in the order of the references. -/
  owners : ∀ name, name ≠ c.name.simpleName → c.owner? name =
    ((c.references.find? fun d => d.package == c.name.package && d.outer == name).or
      (c.references.find? fun d => d.outer == name)).map ClassName.topLevel
  /-- One way through the references, on which each claims its name, finds owners and imports. -/
  settled : c.settle.imports = c.imports ∧ ∀ name, c.settle.owner? name = c.owner? name
  /-- A class is written short when its top-level class owns its name, and in full otherwise; in
  the default package that is the same. -/
  short : ∀ d ∈ c.references,
    (c.spellClass d = d.path ↔ c.owner? d.outer = some d.topLevel ∨ d.package = "") ∧
    (c.spellClass d = d.canonical ↔ c.owner? d.outer ≠ some d.topLevel ∨ d.package = "")
  /-- Every imported class owns its name, and is written short in the class below. -/
  used : ∀ a ∈ c.imports, ∃ d ∈ c.references, d.topLevel.canonical = a ∧
    c.owner? d.outer = some d.topLevel ∧ c.spellClass d = d.path ∧
    d.path.toList <:+: (c.body layout).toList
  /-- Every class that is written short is imported, unless it is visible anyway or of the
  default package. -/
  imported : ∀ d ∈ c.references, c.spellClass d = d.path → d.package ≠ universalPackage →
    d.package ≠ c.name.package → d.package ≠ "" → d.topLevel.canonical ∈ c.imports

/-- **The imports of a companion fit** when its classes were read from
texts. -/
theorem importsFit (c : CompanionClass) (layout : Layout)
    (hread : ∀ d ∈ c.references, ∃ s, ClassName.ofText s = .ok d) : c.ImportsFit layout := by
  have hwf : ∀ d ∈ c.references, d.WellFormed := fun d hd => ClassName.wellFormed_iff.2 (hread d hd)
  have hsorted : c.imports.Pairwise (· < ·) := pairwise_sorted
  constructor
  case source => exact c.source_eq layout
  case increasing => exact hsorted.imp bytes_lt_iff.2
  case lines => exact pairwise_importBlock_iff
  case distinct =>
    intro a ha b hb hname
    obtain ⟨d, hd, hshort, -, rfl⟩ := mem_imports.1 ha
    obtain ⟨e, he, hshort', -, rfl⟩ := mem_imports.1 hb
    rw [(names_of_import (hwf d hd)).1, (names_of_import (hwf e he)).1] at hname
    have hpackage : d.package = e.package := package_eq_of_isShort hshort hshort' hname
    rw [ClassName.topLevel, ClassName.topLevel, hname, hpackage]
  case other =>
    intro a ha
    obtain ⟨d, hd, hshort, -, rfl⟩ := mem_imports.1 ha
    rw [(names_of_import (hwf d hd)).1]
    exact (isShort_iff.1 hshort).1
  case invisible =>
    intro a ha
    obtain ⟨d, hd, -, hneed, rfl⟩ := mem_imports.1 ha
    rw [(names_of_import (hwf d hd)).2]
    exact needsImport_iff.1 hneed
  case own => exact if_pos rfl
  case owners => exact fun name hother => owner?_eq hother
  case settled => exact ⟨c.imports_settle, c.owner?_settle⟩
  case short =>
    exact fun d hd => ⟨spellClass_eq_path_iff (hwf d hd), spellClass_eq_canonical_iff (hwf d hd)⟩
  case used =>
    intro a ha
    obtain ⟨d, hd, hshort, -, rfl⟩ := mem_imports.1 ha
    have hpath : c.spellClass d = d.path := if_pos hshort
    refine ⟨d, hd, rfl, isShort_iff_owner?.1 hshort, hpath, ?_⟩
    rw [← hpath]
    exact spellClass_infix_body hd layout
  case imported =>
    intro d hd hpath hfar hother hnamed
    have howner := ((spellClass_eq_path_iff (hwf d hd)).1 hpath).resolve_right hnamed
    exact mem_imports.2
      ⟨d, hd, isShort_iff_owner?.2 howner, needsImport_iff.2 ⟨hfar, hother, hnamed⟩, rfl⟩

/-- A companion that refers to a class and to one whose name goes on with a
digit, and to a class of the default package whose name is not its own. -/
def lookups : CompanionClass where
  name := ⟨"p", "RealmA"⟩
  baseClass := ⟨"io.realm", "RealmObject", []⟩
  primaryKeyMarker := ⟨"io.realm.annotations", "PrimaryKey", []⟩
  ignoreMarker := ⟨"io.realm.annotations", "Ignore", []⟩
  fields := [⟨"first", .named ⟨"a", "Foo", []⟩, .plain⟩, ⟨"second", .named ⟨"a", "Foo2", []⟩, .plain⟩,
    ⟨"third", .named ⟨"java.util", "Date", []⟩, .plain⟩, ⟨"fourth", .named ⟨"", "Date", []⟩, .plain⟩]
  originating := ⟨"Source"⟩

/-- Its imports fit. -/
theorem importsFit_lookups :
    (∀ d ∈ lookups.references, ClassName.ofText d.text = .ok d) ∧ lookups.ImportsFit {} := by
  have hread : ∀ d ∈ lookups.references, ClassName.ofText d.text = .ok d := by decide +kernel
  exact ⟨hread, importsFit lookups {} fun d hd => ⟨d.text, hread d hd⟩⟩

/-- But its import lines are not in the order of their bytes, though the
names on them are; and a class of the default package is written by the
name below its package without being its owner. -/
theorem importBlock_lookups :
    (∀ d ∈ [lookups.baseClass, lookups.primaryKeyMarker, lookups.ignoreMarker]
      ++ lookups.fields.flatMap (·.type.classes), ∃ s, ClassName.ofText s = .ok d) ∧
    lookups.source {} = Page.unlines (lookups.packageBlock ++
      (lookups.importBlock ++ gapBelow lookups.importBlock)) ++ lookups.body {} ∧
    lookups.importBlock = ["import a.Foo;", "import a.Foo2;", "import io.realm.RealmObject;",
      "import java.util.Date;"] ∧
    ¬ lookups.importBlock.Pairwise (fun a b => bytes a < bytes b) ∧
    ∃ d ∈ lookups.references, lookups.spellClass d = d.path ∧
      lookups.owner? d.outer ≠ some d.topLevel := by
  refine ⟨fun d hd => ⟨d.text, ?_⟩, lookups.source_eq {}, by decide +kernel, ?_,
    ⟨"", "Date", []⟩, by decide +kernel, by decide +kernel, by decide +kernel⟩
  · revert d
    decide +kernel
  · simp only [bytes_lt_iff]
    decide +kernel

end CompanionClass

end Companion
