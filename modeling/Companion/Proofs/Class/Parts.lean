import Companion.Class.Source
import Companion.Proofs.Layout.Pieces
import Companion.Proofs.Name.Dotted

/-!
# Parts — the source of a companion, above and below the imports

A source file has the package line, the imports, and then the class
(`source_eq`). The class is written below the imports as it would be on
a page of its own, so what it holds can be told from its steps: the
text of every class that the source refers to is a part of it
(`spellClass_infix_body`).
-/

namespace Companion

open Page

/-! ## Texts of types -/

/-- A part is found in the text that is joined from the parts. -/
theorem Text.infix_intercalate {sep a : List Char} {l : List (List Char)} (h : a ∈ l) :
    a <:+: sep.intercalate l := by
  induction l with
  | nil => cases h
  | cons b l ih =>
    rcases l with - | ⟨e, l⟩
    · have hab : a = b := List.mem_singleton.1 h
      rw [List.intercalate_singleton]
      exact hab ▸ List.infix_rfl
    · rw [List.intercalate_cons_cons]
      rcases List.mem_cons.1 h with rfl | h
      · rw [List.append_assoc]
        exact (List.prefix_append _ _).isInfix
      · exact (ih h).trans (List.suffix_append _ _).isInfix

namespace TypeRef

variable {spell : ClassName → String} {d : ClassName}

mutual

/-- **A type is written with the texts of its classes.** -/
theorem spell_infix_spelled : ∀ t : TypeRef, d ∈ t.classes →
    (spell d).toList <:+: (t.spelled spell).toList
  | primitive _, h => nomatch h
  | named c, h => by
    rw [List.mem_singleton.1 h]
    exact List.infix_rfl
  | parameterized raw args, h => by
    rw [spelled]
    simp only [String.toList_append, List.append_assoc]
    rcases List.mem_cons.1 h with rfl | h
    · exact (List.prefix_append _ _).isInfix
    · obtain ⟨text, htext, hpart⟩ := exists_spelledArgs args h
      have hjoined : text.toList <:+: (", ".intercalate (spelledArgs spell args)).toList := by
        rw [String.toList_intercalate]
        exact Text.infix_intercalate (List.mem_map_of_mem htext)
      refine (hpart.trans hjoined).trans ?_
      refine List.IsInfix.trans ?_ (List.suffix_append _ _).isInfix
      refine List.IsInfix.trans ?_ (List.suffix_append _ _).isInfix
      exact (List.prefix_append _ _).isInfix
  | array t, h => by
    rw [spelled, String.toList_append]
    exact (spell_infix_spelled t h).trans (List.prefix_append _ _).isInfix
  | wildcard, h => nomatch h
  | bounded _ t, h => by
    rw [spelled, String.toList_append]
    exact (spell_infix_spelled t h).trans (List.suffix_append _ _).isInfix

/-- A class of the arguments is written in one of them. -/
theorem exists_spelledArgs : ∀ args : List TypeRef, d ∈ classesOfArgs args →
    ∃ text ∈ spelledArgs spell args, (spell d).toList <:+: text.toList
  | [], h => nomatch h
  | arg :: args, h => by
    rcases List.mem_append.1 h with h | h
    · exact ⟨_, List.mem_cons_self, spell_infix_spelled arg h⟩
    · obtain ⟨text, htext, hpart⟩ := exists_spelledArgs args h
      exact ⟨text, List.mem_cons_of_mem _ htext, hpart⟩

end

end TypeRef

namespace CompanionClass

variable {c : CompanionClass} {d : ClassName} {layout : Layout}

/-! ## Above the class -/

/-- The package line and an empty line, unless the package is the default one. -/
def packageBlock (c : CompanionClass) : List String :=
  if c.name.package = "" then [] else ["package " ++ c.name.package ++ ";", ""]

/-- The import lines. -/
def importBlock (c : CompanionClass) : List String := c.imports.map fun name => "import " ++ name ++ ";"

/-- The empty line below the imports, if there are any. -/
def gapBelow (lines : List String) : List String := if lines = [] then [] else [""]

/-- The package line is left out in the default package. -/
theorem writes_packageBlock (c : CompanionClass) (layout : Layout) :
    Writes layout 0 c.packageLines c.packageBlock 0 := by
  rw [packageLines, packageBlock]
  by_cases hpackage : c.name.package = ""
  · simpa [hpackage] using writes_nil
  · have hline : Writes layout 0 [.line ("package " ++ c.name.package ++ ";")]
        [margin layout 0 ++ ("package " ++ c.name.package ++ ";")] 0 := writes_line (by simp)
    have hlines := hline.append writes_newline
    simpa [hpackage, margin_zero] using hlines

/-- And the imports when there are none. -/
theorem writes_importBlock (c : CompanionClass) (layout : Layout) :
    Writes layout 0 c.importLines (c.importBlock ++ gapBelow c.importBlock) 0 := by
  rw [importLines, importBlock, gapBelow]
  by_cases himports : c.imports = []
  · simpa [himports] using writes_nil
  · have himported : Writes layout 0
        (c.imports.map fun name => .line ("import " ++ name ++ ";"))
        (c.imports.map fun name => margin layout 0 ++ ("import " ++ name ++ ";")) 0 :=
      writes_map (by simp)
    have hlines := himported.append writes_newline
    simpa [himports, margin_zero] using hlines

/-! ## The class -/

/-- The steps that write the class. -/
def classSteps (c : CompanionClass) : List Step :=
  .openBlock ("public class " ++ c.name.simpleName ++ " extends " ++ c.spellClass c.baseClass) ::
    (c.fields.flatMap c.fieldLines ++ (c.constructorLines ++ [.closeBlock]))

/-- The text of the class, as it stands below the imports. -/
def body (c : CompanionClass) (layout : Layout) : String := written layout c.classSteps

/-- **The source is the package line, the imports and the class.** -/
theorem source_eq (c : CompanionClass) (layout : Layout) : c.source layout =
    unlines (c.packageBlock ++ (c.importBlock ++ gapBelow c.importBlock)) ++ c.body layout := by
  have hsteps : c.sourceLines = (c.packageLines ++ c.importLines) ++ c.classSteps := by
    simp [sourceLines, classSteps]
  rw [source, hsteps, body]
  exact ((c.writes_packageBlock layout).append (c.writes_importBlock layout)).written_append

/-- **Every class that the source refers to is written in the class**: the
base class in its header, a marker above its field, and the classes of a
type with the field. -/
theorem spellClass_infix_body (hd : d ∈ c.references) (layout : Layout) :
    (c.spellClass d).toList <:+: (c.body layout).toList := by
  have hstep : ∀ {s : Step}, s ∈ c.classSteps → (c.spellClass d).toList <:+: s.piece.toList →
      (c.spellClass d).toList <:+: (c.body layout).toList :=
    fun hs hpart => hpart.trans (piece_infix_written hs)
  have hfield : ∀ {f : CompanionField} {s : Step}, f ∈ c.fields → s ∈ c.fieldLines f →
      s ∈ c.classSteps := fun hf hs => List.mem_cons_of_mem _
    (List.mem_append_left _ (List.mem_flatMap.2 ⟨_, hf, hs⟩))
  rcases List.mem_cons.1 hd with rfl | hd
  · refine hstep List.mem_cons_self ?_
    rw [Step.piece, String.toList_append]
    exact (List.suffix_append _ _).isInfix
  · obtain ⟨f, hf, hd⟩ := List.mem_flatMap.1 hd
    rcases List.mem_append.1 hd with hmarker | htype
    · refine hstep (hfield hf (List.mem_append_left _ (List.mem_map_of_mem hmarker))) ?_
      rw [Step.piece, String.toList_append]
      exact (List.suffix_append _ _).isInfix
    · refine hstep (hfield hf (List.mem_append_right _ List.mem_cons_self)) ?_
      rw [Step.piece]
      simp only [String.toList_append, List.append_assoc]
      refine (TypeRef.spell_infix_spelled f.type htype).trans ?_
      exact List.IsInfix.trans (List.prefix_append _ _).isInfix (List.suffix_append _ _).isInfix

end CompanionClass

end Companion
