import Companion.Proofs.Class.Parts
import Companion.Proofs.Generator.Distinct

/-!
# Contents — the source of a companion, told from its declaration

The source of a companion comes about in stages: the declaration is
viewed as an entity, its fields are given roles, and the class is written
step by step on a page. `classLines` is the outcome told from the
declaration alone, line by line and with every margin in place, and the
generator writes just that for every declaration that has a field to
keep (`generate_writes_class`). No line is more than two levels deep, so
the margins have all their spaces when twice the width of a level fits in
a machine word. How a class or a type is spelled is left to the rules of
the source file (`CompanionClass.spellType`), which know of the file only
its own name and the classes it refers to.
-/

namespace Companion

open Page

/-! ## What the declaration says -/

namespace Declaration

/-- The fields that are neither static nor transient, in their order. -/
def eligible (d : Declaration) : List Field :=
  d.fields.filter fun f => !f.isStatic && !f.isTransient

/-- The role of the field of a given name. That it is the primary key
weighs more than that it is ignored. -/
def roleOf (d : Declaration) (name : String) : Role :=
  let mark := d.entity.getD {}
  if name = mark.primaryKey then .primaryKey
  else if name ∈ mark.ignores then .ignored
  else .plain

end Declaration

/-- The package line and an empty line, unless the package is the default one. -/
def Round.packageLines (r : Round) (id : Nat) : List String :=
  if r.outermostPackage id = "" then [] else ["package " ++ r.outermostPackage id ++ ";", ""]

namespace Settings

variable (s : Settings) (r : Round) (id : Nat) (d : Declaration)

/-- The marker above the field of a given name. -/
def markerOf (name : String) : Option ClassName :=
  let mark := d.entity.getD {}
  if name = mark.primaryKey then some s.primaryKeyMarker
  else if name ∈ mark.ignores then some s.ignoreMarker
  else none

/-- The companion of the declaration at a position. -/
def companionOf : CompanionClass where
  name := s.nameOf r id
  baseClass := s.baseClass
  primaryKeyMarker := s.primaryKeyMarker
  ignoreMarker := s.ignoreMarker
  fields := d.eligible.map fun f => ⟨f.name, f.type, d.roleOf f.name⟩
  originating := r.qualifiedName id

/-! ## The lines -/

/-- The margin of a line so many levels deep, counted in a machine word. -/
def marginOf (level : Nat) : String := spaces (level * s.layout.indentWidth % wordSize)

/-- The empty lines between two members. -/
def gapLines : List String := List.replicate s.layout.memberGap ""

/-- The text of a field and of a parameter: its type and its name. -/
def fieldText (f : Field) : String := (s.companionOf r id d).spellType f.type ++ " " ++ f.name

/-- A field below its marker, and the gap behind it. -/
def memberLines (f : Field) : List String :=
  (s.markerOf d f.name).toList.map
      (fun marker => s.marginOf 1 ++ ("@" ++ (s.companionOf r id d).spellClass marker))
    ++ [s.marginOf 1 ++ ("public " ++ s.fieldText r id d f ++ ";")] ++ s.gapLines

/-- The imports and an empty line, if there are any. -/
def importLines : List String :=
  if (s.companionOf r id d).imports = [] then []
  else (s.companionOf r id d).imports.map (fun line => "import " ++ line ++ ";") ++ [""]

/-- The empty constructor, and the one that takes a value for each field. -/
def constructorLines : List String :=
  let name := (s.nameOf r id).simpleName
  let parameters := ", ".intercalate (d.eligible.map (s.fieldText r id d))
  [s.marginOf 1 ++ ("public " ++ name ++ "()") ++ " \x7b", s.marginOf 1 ++ "\x7d"] ++ s.gapLines
    ++ [s.marginOf 1 ++ ("public " ++ name ++ "(" ++ parameters ++ ")") ++ " \x7b"]
    ++ d.eligible.map (fun f => s.marginOf 2 ++ ("this." ++ f.name ++ " = " ++ f.name ++ ";"))
    ++ [s.marginOf 1 ++ "\x7d"]

/-- **The lines of the source of a companion**: the package and the
imports when there are any, and the class with its fields and its
constructors. -/
def classLines : List String :=
  r.packageLines id ++ s.importLines r id d
    ++ ["public class " ++ (s.nameOf r id).simpleName ++ " extends "
      ++ (s.companionOf r id d).spellClass s.baseClass ++ " \x7b"]
    ++ d.eligible.flatMap (s.memberLines r id d) ++ s.constructorLines r id d ++ ["\x7d"]

/-! ## The companion that is generated -/

variable {s r id d}

@[simp]
theorem name_companionOf : (s.companionOf r id d).name = s.nameOf r id := rfl

@[simp]
theorem baseClass_companionOf : (s.companionOf r id d).baseClass = s.baseClass := rfl

/-- The companion has the eligible fields, each with its role. -/
theorem fields_companionOf : (s.companionOf r id d).fields
    = d.eligible.map fun f => ⟨f.name, f.type, d.roleOf f.name⟩ := rfl

/-- The view of a declaration keeps its eligible fields. -/
theorem eligible_ofDeclaration (source : QualifiedName) :
    (Entity.ofDeclaration source d).eligible = d.eligible.map Field.classify := by
  have hexclusion : ∀ f : Field, f.classify.exclusion.isNone = (!f.isStatic && !f.isTransient) := by
    intro f
    cases hstatic : f.isStatic <;> cases htransient : f.isTransient <;>
      simp [Field.classify, Field.exclusion?, hstatic, htransient]
  rw [Entity.eligible, Entity.ofDeclaration, Declaration.eligible, List.filter_map]
  congr 1
  exact List.filter_congr fun f _ => hexclusion f

/-- And it gives each field the role that the declaration gives it. -/
theorem ofName_ofDeclaration (source : QualifiedName) (name : String) :
    Role.ofName (Entity.ofDeclaration source d) name = d.roleOf name := by
  have hignored : (Entity.ofDeclaration source d).ignores.contains name
      = decide (name ∈ (d.entity.getD {}).ignores) := by
    rw [Bool.eq_iff_iff, decide_eq_true_eq, List.contains_iff_mem]
    exact Text.mem_sorted
  simp only [Role.ofName, Declaration.roleOf, hignored, decide_eq_true_eq]
  rfl

/-- The role of a field decides on its marker. -/
theorem marker?_companionOf (name : String) :
    (s.companionOf r id d).marker? (d.roleOf name) = s.markerOf d name := by
  simp only [Declaration.roleOf, markerOf]
  split
  · rfl
  · split <;> rfl

/-- **A declaration with an eligible field has a companion**, the one told
from the declaration, and a warning when its view asks for one. -/
theorem generate_of_eligible (hget : r.get? id = some d) (hfields : d.eligible ≠ []) :
    let e := Entity.ofDeclaration (r.qualifiedName id) d
    s.generate r id = .ok ((s.companionOf r id d).artifact s.layout,
      if e.ignoresPrimaryKey then [.primaryKeyIgnored e] else []) := by
  intro e
  have hentity : r.entity id = .ok e := by
    have hsome : e.eligible.isEmpty = false := by
      rw [eligible_ofDeclaration]
      simpa using hfields
    simp [Round.entity, hget, hsome, e]
  have hcompanion : CompanionClass.ofEntity s (s.nameOf r id) e = s.companionOf r id d := by
    rw [CompanionClass.ofEntity, companionOf, eligible_ofDeclaration, List.map_map]
    congr 1
    refine List.map_congr_left fun f _ => ?_
    simp only [Function.comp_apply, Field.classify, ofName_ofDeclaration, e]
  have hname : r.companionName id s.leading = .ok (s.nameOf r id) := Round.companionName_eq hget _
  rw [generate, companion, hentity, hname]
  simp only [bind, Except.bind, hcompanion]

/-- Whatever the warnings are, there is a companion. -/
theorem exists_of_eligible (hget : r.get? id = some d) (hfields : d.eligible ≠ []) :
    ∃ warnings, s.generate r id = .ok ((s.companionOf r id d).artifact s.layout, warnings) :=
  ⟨_, generate_of_eligible hget hfields⟩

/-- A declaration without an eligible field has none. -/
theorem generate_of_not_eligible (hget : r.get? id = some d) (hfields : d.eligible = []) :
    s.generate r id = .error (.noEligibleFields (r.qualifiedName id)) := by
  have hnone : (Entity.ofDeclaration (r.qualifiedName id) d).eligible.isEmpty = true := by
    rw [eligible_ofDeclaration, hfields]
    rfl
  have hentity : r.entity id = .error (.noEligibleFields (r.qualifiedName id)) := by
    simp only [Round.entity, hget, hnone, if_true]
    rfl
  rw [generate, hentity]
  rfl

/-! ## The lines that are written -/

section Written

variable (s r id d)

/-- The package line is that of the outermost package. -/
theorem writes_packageLines :
    Writes s.layout 0 (s.companionOf r id d).packageLines (r.packageLines id) 0 :=
  (s.companionOf r id d).writes_packageBlock s.layout

/-- And the imports are those of the companion. -/
theorem writes_importLines :
    Writes s.layout 0 (s.companionOf r id d).importLines (s.importLines r id d) 0 := by
  have hlines : s.importLines r id d = (s.companionOf r id d).importBlock
      ++ CompanionClass.gapBelow (s.companionOf r id d).importBlock := by
    rw [importLines, CompanionClass.importBlock, CompanionClass.gapBelow]
    split
    · next hnone => simp [hnone]
    · next hsome => simp [hsome]
  rw [hlines]
  exact (s.companionOf r id d).writes_importBlock s.layout

/-- A field is written below its marker. -/
theorem writes_fieldLines (f : Field) : Writes s.layout 1
    ((s.companionOf r id d).fieldLines ⟨f.name, f.type, d.roleOf f.name⟩)
    (s.memberLines r id d f) 1 := by
  have hmarker : Writes s.layout 1
      ((s.markerOf d f.name).toList.map fun marker =>
        .line ("@" ++ (s.companionOf r id d).spellClass marker))
      ((s.markerOf d f.name).toList.map fun marker =>
        margin s.layout 1 ++ ("@" ++ (s.companionOf r id d).spellClass marker)) 1 :=
    writes_map (by simp)
  have hfield : Writes s.layout 1 [.line ("public " ++ s.fieldText r id d f ++ ";")]
      [margin s.layout 1 ++ ("public " ++ s.fieldText r id d f ++ ";")] 1 :=
    writes_line (by simp)
  have hlines := hmarker.append (hfield.append writes_gap)
  rw [CompanionClass.fieldLines, marker?_companionOf, memberLines]
  simpa [fieldText, marginOf, gapLines, margin, String.append_assoc] using hlines

/-- Both constructors are written, with a gap between them. -/
theorem writes_constructorLines :
    Writes s.layout 1 (s.companionOf r id d).constructorLines (s.constructorLines r id d) 1 := by
  have hempty : Writes s.layout 1
      [.openBlock ("public " ++ (s.nameOf r id).simpleName ++ "()")]
      [margin s.layout 1 ++ ("public " ++ (s.nameOf r id).simpleName ++ "()") ++ " \x7b"] 2 :=
    writes_openBlock (by simp)
  have hheader : Writes s.layout 1
      [.openBlock ("public " ++ (s.nameOf r id).simpleName ++ "("
        ++ (s.companionOf r id d).parameters ++ ")")]
      [margin s.layout 1 ++ ("public " ++ (s.nameOf r id).simpleName ++ "("
        ++ (s.companionOf r id d).parameters ++ ")") ++ " \x7b"] 2 :=
    writes_openBlock (by simp)
  have hbody : Writes s.layout 2
      (d.eligible.map fun f => .line ("this." ++ f.name ++ " = " ++ f.name ++ ";"))
      (d.eligible.map fun f =>
        margin s.layout 2 ++ ("this." ++ f.name ++ " = " ++ f.name ++ ";")) 2 :=
    writes_map (by simp)
  have hparameters : (s.companionOf r id d).parameters
      = ", ".intercalate (d.eligible.map (s.fieldText r id d)) := by
    rw [CompanionClass.parameters, fields_companionOf, List.map_map]
    rfl
  have hlines := hempty.append (writes_closeBlock.append (writes_gap.append
    (hheader.append (hbody.append writes_closeBlock))))
  rw [hparameters] at hlines
  rw [CompanionClass.constructorLines, hparameters, fields_companionOf, List.map_map]
  simpa [constructorLines, marginOf, gapLines, margin, Function.comp_def] using hlines

/-- **All lines of the source are written**, at the level they stand on. -/
theorem writes_sourceLines :
    Writes s.layout 0 (s.companionOf r id d).sourceLines (s.classLines r id d) 0 := by
  have hheader : Writes s.layout 0
      [.openBlock ("public class " ++ (s.nameOf r id).simpleName ++ " extends "
        ++ (s.companionOf r id d).spellClass s.baseClass)]
      [margin s.layout 0 ++ ("public class " ++ (s.nameOf r id).simpleName ++ " extends "
        ++ (s.companionOf r id d).spellClass s.baseClass) ++ " \x7b"] 1 :=
    writes_openBlock (by simp)
  have hfields : Writes s.layout 1
      ((s.companionOf r id d).fields.flatMap (s.companionOf r id d).fieldLines)
      (d.eligible.flatMap (s.memberLines r id d)) 1 := by
    rw [fields_companionOf, List.flatMap_map]
    exact writes_flatMap fun f _ => writes_fieldLines s r id d f
  have hclose : Writes s.layout 1 [.closeBlock] [margin s.layout 0 ++ "\x7d"] 0 :=
    writes_closeBlock
  have hlines := (writes_packageLines s r id d).append ((writes_importLines s r id d).append
    (hheader.append (hfields.append ((writes_constructorLines s r id d).append hclose))))
  simpa [CompanionClass.sourceLines, classLines, margin_zero] using hlines

end Written

/-- **The generated source is the documented class**: a declaration with a
field that is neither static nor transient has a companion, and its
source is `classLines`, each line with a line end. When twice the width
of a level fits in a machine word, the margins in it are as wide as their
levels ask for. -/
theorem generate_writes_class (s : Settings) (r : Round) (id : Nat) (d : Declaration)
    (hget : r.get? id = some d)
    (hfield : ∃ f ∈ d.fields, f.isStatic = false ∧ f.isTransient = false) :
    (∃ a warnings, s.generate r id = .ok (a, warnings) ∧
      a.contents = unlines (s.classLines r id d)) ∧
    (2 * s.layout.indentWidth < wordSize →
      ∀ level ≤ 2, s.marginOf level = spaces (level * s.layout.indentWidth)) := by
  have hfields : d.eligible ≠ [] := by
    obtain ⟨f, hf, hstatic, htransient⟩ := hfield
    have hkept : f ∈ d.eligible := List.mem_filter.2 ⟨hf, by rw [hstatic, htransient]; rfl⟩
    exact List.ne_nil_of_mem hkept
  obtain ⟨warnings, hgenerate⟩ := exists_of_eligible (s := s) hget hfields
  have hwritten : (s.companionOf r id d).source s.layout = unlines (s.classLines r id d) :=
    (writes_sourceLines s r id d).written_eq
  refine ⟨⟨(s.companionOf r id d).artifact s.layout, warnings, hgenerate, hwritten⟩,
    fun hwidth level hlevel => margin_eq_spaces_iff.2 ?_⟩
  exact Nat.lt_of_le_of_lt (Nat.mul_le_mul_right s.layout.indentWidth hlevel) hwidth

/-- An order has a key, a note that is not persisted, and a total that is left out. -/
def order : Declaration where
  name := "Order"
  package := "shop"
  fields := [{ name := "id", type := .primitive .long },
    { name := "items", type := .parameterized (.ofTopLevel "java.util" "List")
        [.named (.ofTopLevel "shop" "Item")] },
    { name := "note", type := .named (.ofTopLevel "java.lang" "String") },
    { name := "total", type := .primitive .int, isStatic := true }]
  entity := some { primaryKey := "id", ignores := ["note"] }

/-- The round of one order. -/
def orders : Round where
  declarations := [order]
  ends i hi := by
    rcases i with - | i
    · exact .outermost rfl rfl
    · simp only [List.length_cons, List.length_nil] at hi
      omega

/-- Its companion, line by line, and the margins in it. -/
theorem generate_writes_orders :
    (∃ a warnings, ({} : Settings).generate orders 0 = .ok (a, warnings) ∧
      a.contents = unlines ["package shop;", "",
        "import io.realm.RealmObject;", "import io.realm.annotations.Ignore;",
        "import io.realm.annotations.PrimaryKey;", "import java.util.List;", "",
        "public class RealmOrder extends RealmObject \x7b",
        "  @PrimaryKey", "  public long id;", "",
        "  public List<Item> items;", "",
        "  @Ignore", "  public String note;", "",
        "  public RealmOrder() \x7b", "  \x7d", "",
        "  public RealmOrder(long id, List<Item> items, String note) \x7b",
        "    this.id = id;", "    this.items = items;", "    this.note = note;", "  \x7d",
        "\x7d"]) ∧
    ∀ level ≤ 2, ({} : Settings).marginOf level = spaces (level * 2) := by
  obtain ⟨⟨a, warnings, hgenerate, hcontents⟩, hmargins⟩ :=
    generate_writes_class {} orders 0 order rfl ⟨_, List.mem_cons_self, rfl, rfl⟩
  refine ⟨⟨a, warnings, hgenerate, hcontents.trans ?_⟩, hmargins (by decide)⟩
  decide +kernel

end Settings

end Companion
