import Companion.Class.Spelling
import Companion.Layout

/-!
# The source of a companion

A companion is written down as Java: a package line, the imports, and the class with
each field below its marker, an empty constructor, and a constructor that takes a value
for every field. The members are set apart by blank lines; the package line and the
imports are absent when there is nothing to say.
-/

namespace Companion

namespace CompanionClass

open Page

variable (c : CompanionClass)

/-- The package line and a blank line, except in the default package. -/
def packageLines : List Step :=
  if c.name.package.isEmpty then [] else [.line ("package " ++ c.name.package ++ ";"), .newline]

/-- The imports and a blank line, if there are any. -/
def importLines : List Step :=
  if c.imports.isEmpty then []
  else c.imports.map (fun name => .line ("import " ++ name ++ ";")) ++ [.newline]

/-- The declaration of a field, below its marker. -/
def fieldLines (f : CompanionField) : List Step :=
  (c.marker? f.role).toList.map (fun marker => .line ("@" ++ c.spellClass marker))
    ++ [.line ("public " ++ c.spellType f.type ++ " " ++ f.name ++ ";"), .gap]

/-- The parameters of the second constructor. -/
def parameters : String :=
  ", ".intercalate (c.fields.map fun f => c.spellType f.type ++ " " ++ f.name)

/-- The two constructors. -/
def constructorLines : List Step :=
  [.openBlock ("public " ++ c.name.simpleName ++ "()"), .closeBlock, .gap,
    .openBlock ("public " ++ c.name.simpleName ++ "(" ++ c.parameters ++ ")")]
    ++ c.fields.map (fun f => .line ("this." ++ f.name ++ " = " ++ f.name ++ ";"))
    ++ [.closeBlock]

/-- The steps that write the source. -/
def sourceLines : List Step :=
  c.packageLines ++ c.importLines
    ++ [.openBlock ("public class " ++ c.name.simpleName ++ " extends " ++ c.spellClass c.baseClass)]
    ++ c.fields.flatMap c.fieldLines ++ c.constructorLines ++ [.closeBlock]

/-- The source text. -/
def source (layout : Layout) : String := written layout c.sourceLines

end CompanionClass

end Companion
