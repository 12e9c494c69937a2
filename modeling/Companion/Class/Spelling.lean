import Companion.Class.Basic
import Companion.Type.Text
import Companion.Text.Sorted

/-!
# Spelling — how the source of a companion writes the classes it refers to

Within one source file a simple name stands for one top-level class, its owner. The
companion owns its own name; any other name is owned by the first class with that name
that the source refers to, where the classes of the companion's package come before all
others. A class whose top-level class owns its name is written short, `Outer.Inner`; any
other is written in full. An owner has to be imported unless it is visible anyway: in
the package `java.lang`, in the package of the companion, or in the default package,
from which nothing can be imported.
-/

namespace Companion

namespace CompanionClass

/-- The package whose classes are visible everywhere. -/
def universalPackage : String := "java.lang"

/-- The classes of the companion's package that the source refers to, and then the others. -/
def claimants (c : CompanionClass) : List ClassName :=
  let (near, far) := c.references.partition (·.package == c.name.package)
  near ++ far

/-- The top-level class that a simple name stands for. Nothing is found for the name of the
companion itself. -/
def owner? (c : CompanionClass) (name : String) : Option ClassName :=
  if name = c.name.simpleName then none
  else (c.claimants.find? (·.outer == name)).map ClassName.topLevel

/-- The class is written short. -/
def isShort (c : CompanionClass) (d : ClassName) : Bool := c.owner? d.outer == some d.topLevel

/-- The classes of a package are visible only when they are imported. -/
def needsImport (c : CompanionClass) (package : String) : Bool :=
  !package.isEmpty && package != universalPackage && package != c.name.package

/-- The names of the imported classes, in increasing order. -/
def imports (c : CompanionClass) : List String :=
  Text.sorted <|
    (c.claimants.filter fun d => c.isShort d && c.needsImport d.package).map (·.topLevel.canonical)

/-- The text of a class in the source of the companion. -/
def spellClass (c : CompanionClass) (d : ClassName) : String :=
  if c.isShort d then d.path else d.canonical

/-- The text of a type in the source of the companion. -/
def spellType (c : CompanionClass) (t : TypeRef) : String := t.spelled c.spellClass

end CompanionClass

end Companion
