/-!
# Layout — text written line by line with indentation

A page is written piece by piece. The first piece that is written on a line puts the
indentation of the current level before it; an empty piece writes nothing, so an empty
line stays empty. Blocks raise the level by one and lower it again, and the level never
falls below zero.

The width of one level is a machine word, and so is the width of an indentation: the
product of the two is cut to a word when it does not fit. The level counts steps that were
taken one by one, so it is a natural number.
-/

namespace Companion

/-- How many numbers there are in a machine word of 64 bits. -/
def wordSize : Nat := UInt64.size

/-- How generated source is laid out. -/
structure Layout where
  /-- The number of spaces for one level of indentation. -/
  indentWidth : Nat := 2
  /-- The number of blank lines between the members of a class. -/
  memberGap : Nat := 1
  deriving DecidableEq, Repr

/-- A page while it is being written. -/
structure Page where
  /-- What has been written. -/
  text : String := ""
  /-- The level of indentation. -/
  level : Nat := 0
  /-- Nothing has been written on the current line. -/
  fresh : Bool := true
  deriving DecidableEq, Repr

namespace Page

/-- So many spaces. -/
def spaces (count : Nat) : String := String.ofList (List.replicate count ' ')

/-- The spaces before the first piece of a line at the given level, counted in a machine word. -/
def margin (layout : Layout) (level : Nat) : String :=
  spaces (level * layout.indentWidth % wordSize)

/-- Write a piece of a line. -/
def write (layout : Layout) (piece : String) (page : Page) : Page :=
  if piece.isEmpty then page
  else if page.fresh then
    { page with text := page.text ++ margin layout page.level ++ piece, fresh := false }
  else { page with text := page.text ++ piece }

/-- End the line. -/
def newline (page : Page) : Page := { page with text := page.text ++ "\n", fresh := true }

/-- Raise the level. -/
def indent (page : Page) : Page := { page with level := page.level + 1 }

/-- Lower the level, unless it is zero. -/
def dedent (page : Page) : Page := { page with level := page.level - 1 }

/-- End the line `count` times. -/
def newlines : Nat → Page → Page
  | 0, page => page
  | count + 1, page => newlines count page.newline

/-- One step of writing a page. -/
inductive Step where
  /-- Write a piece of a line. -/
  | write (piece : String)
  /-- Write the last piece of a line and end it. -/
  | line (piece : String)
  /-- End the line. -/
  | newline
  /-- Raise the level. -/
  | indent
  /-- Lower the level. -/
  | dedent
  /-- Leave the blank lines that stand between two members. -/
  | gap
  /-- Write the header of a block and its opening brace, end the line and raise the level. -/
  | openBlock (header : String)
  /-- Lower the level, write the closing brace of a block and end the line. -/
  | closeBlock
  deriving DecidableEq, Repr

/-- The page after one more step. -/
def step (layout : Layout) (page : Page) : Step → Page
  | .write piece => page.write layout piece
  | .line piece => (page.write layout piece).newline
  | .newline => page.newline
  | .indent => page.indent
  | .dedent => page.dedent
  | .gap => newlines layout.memberGap page
  | .openBlock header => (((page.write layout header).write layout " \x7b").newline).indent
  | .closeBlock => (page.dedent.write layout "\x7d").newline

/-- The page after the given steps. -/
def steps (layout : Layout) (page : Page) (moves : List Step) : Page :=
  moves.foldl (step layout) page

/-- The text that the given steps write on an empty page. -/
def written (layout : Layout) (moves : List Step) : String := (steps layout {} moves).text

end Page

end Companion
