import Companion.Name.Qualified

/-!
# Class names — a package, a top-level class and the classes nested in it

A class is found through the top-level class around it: that class is what an import
names, and `Outer.Inner` is what is written once it is imported. A class name always has
a top-level class, so `Outer` is a field of its own and the nested names may be empty.
-/

namespace Companion

/-- A possibly nested class. -/
structure ClassName where
  /-- The dotted package; empty for the default package. -/
  package : String
  /-- The simple name of the top-level class. -/
  outer : String
  /-- The simple names of the classes nested in it, from the outside in. -/
  nested : List String
  deriving DecidableEq, Repr

namespace ClassName

/-- The top-level class of that name. -/
def ofTopLevel (package name : String) : ClassName := ⟨package, name, []⟩

/-- The simple names, outermost first. -/
def names (c : ClassName) : List String := c.outer :: c.nested

/-- The innermost simple name. -/
def simpleName (c : ClassName) : String := c.nested.getLastD c.outer

/-- The class an import of this one has to name. -/
def topLevel (c : ClassName) : ClassName := ofTopLevel c.package c.outer

/-- The name below the package, `Outer.Inner`. -/
def path (c : ClassName) : String := ".".intercalate c.names

/-- The fully qualified name, `pkg.Outer.Inner`. -/
def canonical (c : ClassName) : String := dotted c.package c.names

/-- Class names are ordered by package and then by their simple names from the outside in. -/
def le (a b : ClassName) : Bool :=
  ((compare a.package b.package).then (compare a.names b.names)).isLE

/-- The given names in order; repetitions stay. -/
def sort (cs : List ClassName) : List ClassName := cs.mergeSort le

end ClassName

end Companion
