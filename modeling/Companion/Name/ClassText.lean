import Companion.Name.ClassName
import Companion.Name.Identifier
import Companion.Type.Error

/-!
# The text of a class name

A class is written `pkg.Outer.Inner`. Where the package ends is a matter of convention:
the first segment that starts with a capital is the top-level class, and when there is
none the last segment is. Classes and packages that break the convention are written
`pkg/Outer.Inner`, with the slash where the package ends.

`ofText` reads both forms and `text` writes the shorter one that is read back as the
same class.
-/

namespace Companion

namespace ClassName

open Text

/-- The class of a package text and its simple names. -/
def ofPieces (package : List Char) (names : List (List Char)) : ClassName :=
  ⟨String.ofList package, String.ofList (names.headD []), names.tail.map String.ofList⟩

/-- The segments of a dotted name, cut by convention into package and simple names. -/
def cut (segments : List (List Char)) : List (List Char) × List (List Char) :=
  match segments.dropWhile (!startsUpper ·) with
  | [] => (segments.dropLast, segments.getLast?.toList)
  | names => (segments.takeWhile (!startsUpper ·), names)

/-- The form `pkg/Outer.Inner`: identifiers on both sides, of which only the package may be empty. -/
def readPackaged (package path : List Char) : Except Refusal ClassName :=
  let names := path.splitOn '.'
  if (package.isEmpty || (package.splitOn '.').all isIdentifier) && names.all isIdentifier then
    .ok (ofPieces package names)
  else
    .error .notPackaged

/-- The form `pkg.Outer.Inner`, with the package told from the class by convention. -/
def readDotted (name : List Char) : Except Refusal ClassName :=
  let segments := name.splitOn '.'
  if segments.all isIdentifier then
    let (package, names) := cut segments
    .ok (ofPieces (['.'].intercalate package) names)
  else
    .error .notDotted

/-- Read a class name in either form: the first slash, if there is one, ends the package. -/
def read (name : List Char) : Except Refusal ClassName :=
  match name.dropWhile (· != '/') with
  | [] => readDotted name
  | _ :: path => readPackaged (name.takeWhile (· != '/')) path

/-- The class a text names; blanks around it are allowed. -/
def ofText (input : String) : Except TypeError ClassName :=
  (read (trim input.toList)).mapError (⟨input, ·⟩)

/-- The form with a slash, which leaves nothing to convention. -/
def packagedText (c : ClassName) : String := c.package ++ "/" ++ c.path

/-- The shortest text that is read back as this class. -/
def text (c : ClassName) : String :=
  if (ofText c.canonical).toOption = some c then c.canonical else c.packagedText

end ClassName

end Companion
