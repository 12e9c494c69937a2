import Companion.Name.Qualified

/-!
# Artifacts — generated source files

An artifact is the source text of one companion class, filed under the dotted name of
the class. What stands before the last dot of the name is the package, and each segment
of the package is a directory below the root of the sources.
-/

namespace Companion

/-- One generated source file. -/
structure Artifact where
  /-- The dotted name of the class the file declares. -/
  name : String
  /-- The declaration the class was generated from. -/
  originating : QualifiedName
  /-- The source text. -/
  contents : String
  deriving DecidableEq, Repr

namespace Artifact

/-- What stands between the dots of the name. -/
def segments (a : Artifact) : List (List Char) := a.name.toList.splitOn '.'

/-- The name before its last dot, or nothing when it has none. -/
def package (a : Artifact) : String := String.ofList (['.'].intercalate a.segments.dropLast)

/-- The name after its last dot, or all of it when it has none. -/
def simpleName (a : Artifact) : String := String.ofList (a.segments.getLastD [])

/-- The parts of the path below the root: a directory for each segment of the package, and
the file. -/
def pathParts (a : Artifact) : List String :=
  (a.segments.dropLast.filter (!·.isEmpty)).map String.ofList ++ [a.simpleName ++ ".java"]

/-- Go from a path to one of its parts. A part that starts with a slash is a path of its own and
replaces the path; otherwise one slash stands between the two. -/
def descend (path part : String) : String :=
  if part.toList.head? = some '/' then part
  else if path.isEmpty || path.toList.getLast? = some '/' then path ++ part
  else path ++ "/" ++ part

/-- The path of the file when the sources are rooted at `root`. -/
def pathBelow (root : String) (a : Artifact) : String := a.pathParts.foldl descend root

/-- The names along the path below the root, or nothing when the path leaves the root because
one of its parts starts with a slash. -/
def location? (a : Artifact) : Option (List String) :=
  if a.pathParts.any (·.toList.head? = some '/') then none
  else some (a.pathParts.flatMap fun part =>
    ((part.toList.splitOn '/').filter (!·.isEmpty)).map String.ofList)

end Artifact

end Companion
