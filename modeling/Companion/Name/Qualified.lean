/-!
# Qualified names — the dotted identity of a declaration

`com.acme.Outer.Inner` is the package `com.acme` followed by the names from the
outermost declaration inwards. A dot stands before a name only when text precedes it,
so the default package leaves no trace.
-/

namespace Companion

/-- The dotted text of a package and the names below it, outermost first. -/
def dotted (package : String) (names : List String) : String :=
  names.foldl (fun text name => if text.isEmpty then name else text ++ "." ++ name) package

/-- The dotted identity of a declaration, such as `com.acme.Outer.Inner`. -/
structure QualifiedName where
  /-- The name as it is written. -/
  text : String
  deriving DecidableEq, Repr

namespace QualifiedName

/-- The name of the innermost of `names`, which are nested in the given package. -/
def ofParts (package : String) (names : List String) : QualifiedName := ⟨dotted package names⟩

end QualifiedName

end Companion
