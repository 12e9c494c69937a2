import Companion.Proofs.Layout.Pieces
import Mathlib.Data.List.Basic

/-!
# Line by line — the page that steps in any order write

`Writes` speaks of groups of steps that begin and end at the start of a
line. Steps may come in any other order: a level may change in the middle
of a line, and an empty piece may be the first on it. What they write is
told here without a page. A step is taken apart into acts, the acts are cut
where a line ends, and every piece keeps the level that was in force when
it was written (`linesFrom`); a line has the margin of its first piece that
is not empty, and is empty when there is none (`lineWith`). The page has
just these lines, each with its margin on the page (`text_foldl_act`).

Such a margin is counted in a machine word. The lines have all the spaces
that their levels ask for (`lineText`) exactly when the number of them fits
in a word on every line that is begun (`written_eq_iff`): two levels of
half a word each have no margin at all (`not_written_line_by_line_wide`).

The level is a count that is cut off at zero (`level_steps`), so steps that
close what they open leave it as it was (`Nested.level_steps`).
-/

namespace Companion

namespace Page

/-! ## Acts -/

/-- The least that a step can do. -/
inductive Act where
  /-- Write a piece on the current line. -/
  | put (piece : String)
  /-- End the line. -/
  | endLine
  /-- Raise the level. -/
  | raise
  /-- Lower the level, unless it is zero. -/
  | lower
  deriving DecidableEq, Repr

/-- What a step does, one act after the other. -/
def Step.acts (layout : Layout) : Step → List Act
  | .write piece => [.put piece]
  | .line piece => [.put piece, .endLine]
  | .newline => [.endLine]
  | .indent => [.raise]
  | .dedent => [.lower]
  | .gap => List.replicate layout.memberGap .endLine
  | .openBlock header => [.put header, .put " \x7b", .endLine, .raise]
  | .closeBlock => [.lower, .put "\x7d", .endLine]

/-- The page after one more act. -/
def act (layout : Layout) (page : Page) : Act → Page
  | .put piece => page.write layout piece
  | .endLine => page.newline
  | .raise => page.indent
  | .lower => page.dedent

variable {layout : Layout} {page : Page} {moves : List Step} {s : Step}

/-- A piece leaves the level as it is. -/
@[simp]
theorem level_write (piece : String) : (page.write layout piece).level = page.level := by
  unfold write
  split
  · rfl
  · split <;> rfl

/-- And so do line ends. -/
@[simp]
theorem level_newlines (count : Nat) : (newlines count page).level = page.level := by
  induction count generalizing page with
  | zero => rfl
  | succ count ih => exact ih

/-- Line ends come one after the other. -/
theorem newlines_eq_foldl (count : Nat) (page : Page) :
    newlines count page = (List.replicate count Act.endLine).foldl (act layout) page := by
  induction count generalizing page with
  | zero => rfl
  | succ count ih => exact ih page.newline

/-- **A step is its acts.** -/
theorem step_eq_foldl (layout : Layout) (page : Page) (s : Step) :
    step layout page s = (s.acts layout).foldl (act layout) page := by
  cases s with
  | gap => exact newlines_eq_foldl layout.memberGap page
  | _ => rfl

/-- And steps are the acts of all of them. -/
theorem steps_eq_foldl (layout : Layout) (page : Page) (moves : List Step) :
    steps layout page moves = (moves.flatMap (Step.acts layout)).foldl (act layout) page := by
  induction moves generalizing page with
  | nil => rfl
  | cons s moves ih =>
    rw [List.flatMap_cons, List.foldl_append, ← step_eq_foldl]
    exact ih (step layout page s)

/-! ## Lines -/

/-- A piece on a line, and the level that was in force when it was written. -/
structure Placed where
  /-- The level. -/
  level : Nat
  /-- The piece. -/
  piece : String
  deriving DecidableEq, Repr

/-- The lines that acts write when they begin at the start of a line and at
the given level. The last line is the one that has not been ended. -/
def linesFrom : Nat → List Act → List (List Placed)
  | _, [] => [[]]
  | level, .put piece :: acts => (linesFrom level acts).modifyHead (⟨level, piece⟩ :: ·)
  | level, .endLine :: acts => [] :: linesFrom level acts
  | level, .raise :: acts => linesFrom (level + 1) acts
  | level, .lower :: acts => linesFrom (level - 1) acts

/-- The lines that steps write on an empty page. -/
def linesOf (layout : Layout) (moves : List Step) : List (List Placed) :=
  linesFrom 0 (moves.flatMap (Step.acts layout))

/-- **A line with its margin**: the margin for the level that was in force
at its first piece that is not empty, and then all its pieces. A line
without such a piece is empty. -/
def lineWith (margin : Nat → String) (line : List Placed) : String :=
  match line.find? (!·.piece.isEmpty) with
  | none => ""
  | some first => margin first.level ++ String.join (line.map Placed.piece)

/-- **The text of a line**: its margin has as many spaces as the width of
one level times the level. -/
def lineText (layout : Layout) : List Placed → String :=
  lineWith fun level => spaces (layout.indentWidth * level)

/-- What a line adds to a page: on a line that has been begun there is no margin to write. -/
def added (layout : Layout) (page : Page) (line : List Placed) : String :=
  if page.fresh then lineWith (margin layout) line else String.join (line.map Placed.piece)

/-- There is always a line that is being written. -/
theorem exists_linesFrom_eq_cons (level : Nat) (acts : List Act) :
    ∃ first rest, linesFrom level acts = first :: rest := by
  fun_induction linesFrom level acts with
  | case1 => exact ⟨[], [], rfl⟩
  | case2 level piece acts ih =>
    obtain ⟨first, rest, hlines⟩ := ih
    exact ⟨⟨level, piece⟩ :: first, rest, by rw [hlines, List.modifyHead_cons]⟩
  | case3 level acts => exact ⟨[], linesFrom level acts, rfl⟩
  | case4 level acts ih => exact ih
  | case5 level acts ih => exact ih

/-- A piece is written as the first of what the line adds. -/
theorem text_write_append (piece : String) (line : List Placed) :
    (page.write layout piece).text ++ added layout (page.write layout piece) line
      = page.text ++ added layout page (⟨page.level, piece⟩ :: line) := by
  by_cases hempty : piece = ""
  · -- nothing is written, and the margin is left to the next piece
    simp [write, hempty, added, lineWith]
  · have hpiece : piece.isEmpty = false := by simpa using hempty
    cases hfresh : page.fresh with
    | true => simp [write, added, lineWith, hpiece, hfresh, String.append_assoc]
    | false => simp [write, added, hpiece, hfresh, String.append_assoc]

/-- **The page has the lines of the acts**, the first of which goes on where
the page ends. -/
theorem text_foldl_act {first : List Placed} {rest : List (List Placed)} {acts : List Act}
    (hlines : linesFrom page.level acts = first :: rest) :
    (acts.foldl (act layout) page).text = page.text ++ added layout page first
      ++ String.join (rest.map fun line => "\n" ++ lineWith (margin layout) line) := by
  induction acts generalizing page first rest with
  | nil =>
    obtain ⟨rfl, rfl⟩ := List.cons.inj hlines
    simp [added, lineWith]
  | cons a acts ih =>
    rw [List.foldl_cons]
    cases a with
    | put piece =>
      obtain ⟨line, others, hrest⟩ := exists_linesFrom_eq_cons page.level acts
      rw [linesFrom, hrest, List.modifyHead_cons] at hlines
      obtain ⟨rfl, rfl⟩ := List.cons.inj hlines
      rw [← text_write_append]
      exact ih ((level_write piece).symm ▸ hrest)
    | endLine =>
      obtain ⟨line, others, hrest⟩ := exists_linesFrom_eq_cons page.level acts
      rw [linesFrom, hrest] at hlines
      obtain ⟨rfl, rfl⟩ := List.cons.inj hlines
      have hnext : linesFrom page.newline.level acts = line :: others := hrest
      simp only [act]
      rw [ih hnext]
      simp [newline, added, lineWith, String.append_assoc]
    | raise =>
      have hnext : linesFrom page.indent.level acts = first :: rest := hlines
      exact ih hnext
    | lower =>
      have hnext : linesFrom page.dedent.level acts = first :: rest := hlines
      exact ih hnext

/-- So an empty page gets the lines with line ends between them. -/
theorem written_eq_intercalate (layout : Layout) (moves : List Step) :
    written layout moves
      = "\n".intercalate ((linesOf layout moves).map (lineWith (margin layout))) := by
  have hjoin : ∀ (first : String) (rest : List String),
      "\n".intercalate (first :: rest) = first ++ String.join (rest.map ("\n" ++ ·)) := by
    intro first rest
    induction rest generalizing first with
    | nil => simp
    | cons next rest ih =>
      rw [String.intercalate_cons_cons, ih, List.map_cons, String.join_cons]
      simp only [String.append_assoc]
  obtain ⟨first, rest, hlines⟩ :=
    exists_linesFrom_eq_cons 0 (moves.flatMap (Step.acts layout))
  rw [written, steps_eq_foldl, text_foldl_act hlines, linesOf, hlines, List.map_cons, hjoin,
    List.map_map]
  simp [added, Function.comp_def]

/-! ## Line ends -/

/-- The pieces of the lines are those that the acts put. -/
theorem put_mem_of_mem_linesFrom {acts : List Act} {level : Nat} {line : List Placed} {p : Placed}
    (hline : line ∈ linesFrom level acts) (hp : p ∈ line) : Act.put p.piece ∈ acts := by
  induction acts generalizing level line with
  | nil =>
    rw [linesFrom, List.mem_singleton] at hline
    subst hline
    cases hp
  | cons a acts ih =>
    cases a with
    | put piece =>
      obtain ⟨first, rest, hrest⟩ := exists_linesFrom_eq_cons level acts
      rw [linesFrom, hrest, List.modifyHead_cons] at hline
      rcases List.mem_cons.1 hline with rfl | hline
      · rcases List.mem_cons.1 hp with rfl | hp
        · exact List.mem_cons_self
        · exact List.mem_cons_of_mem _ (ih (hrest ▸ List.mem_cons_self) hp)
      · exact List.mem_cons_of_mem _ (ih (hrest ▸ List.mem_cons_of_mem _ hline) hp)
    | endLine =>
      rcases List.mem_cons.1 hline with rfl | hline
      · cases hp
      · exact List.mem_cons_of_mem _ (ih hline hp)
    | raise =>
      rw [linesFrom] at hline
      exact List.mem_cons_of_mem _ (ih hline hp)
    | lower =>
      rw [linesFrom] at hline
      exact List.mem_cons_of_mem _ (ih hline hp)

/-- A step puts its own piece and braces, so it puts no line end when its piece has none. -/
theorem newline_notMem_of_put {piece : String} (hs : '\n' ∉ s.piece.toList)
    (hput : Act.put piece ∈ s.acts layout) : '\n' ∉ piece.toList := by
  cases s with
  | openBlock header =>
    simp only [Step.acts, List.mem_cons, Act.put.injEq, reduceCtorEq, List.not_mem_nil,
      or_false] at hput
    rcases hput with rfl | rfl
    · exact hs
    · decide
  | _ => simp_all [Step.acts, Step.piece]

/-- Spaces are no line ends. -/
theorem newline_notMem_spaces (count : Nat) : '\n' ∉ (spaces count).toList := by
  rw [spaces, String.toList_ofList]
  exact fun hspace => absurd (List.eq_of_mem_replicate hspace) (by decide)

section LineEnds

variable (hmoves : ∀ s ∈ moves, '\n' ∉ s.piece.toList)
include hmoves

/-- **A line holds no line end** when no step brings one along. -/
theorem newline_notMem_lineWith {margin : Nat → String}
    (hmargin : ∀ level, '\n' ∉ (margin level).toList) {line : List Placed}
    (hline : line ∈ linesOf layout moves) : '\n' ∉ (lineWith margin line).toList := by
  have hpieces : '\n' ∉ (String.join (line.map Placed.piece)).toList := by
    rw [String.toList_join, List.mem_flatMap]
    rintro ⟨piece, hpiece, hnewline⟩
    obtain ⟨p, hp, rfl⟩ := List.mem_map.1 hpiece
    obtain ⟨s, hs, hput⟩ := List.mem_flatMap.1 (put_mem_of_mem_linesFrom hline hp)
    exact newline_notMem_of_put (hmoves s hs) hput hnewline
  unfold lineWith
  split
  · exact List.not_mem_nil
  · next first _ =>
    rw [String.toList_append, List.mem_append, not_or]
    exact ⟨hmargin first.level, hpieces⟩

/-- So a text of these lines is cut into them at its line ends. -/
theorem splitOn_intercalate_lineWith (layout : Layout) {margin : Nat → String}
    (hmargin : ∀ level, '\n' ∉ (margin level).toList) :
    ("\n".intercalate ((linesOf layout moves).map (lineWith margin))).toList.splitOn '\n'
      = (linesOf layout moves).map (fun line => (lineWith margin line).toList) := by
  rw [String.toList_intercalate, List.map_map]
  refine List.splitOn_intercalate '\n' (fun cs hcs => ?_) ?_
  · obtain ⟨line, hline, rfl⟩ := List.mem_map.1 hcs
    exact newline_notMem_lineWith hmoves hmargin hline
  · obtain ⟨first, rest, hlines⟩ :=
      exists_linesFrom_eq_cons 0 (moves.flatMap (Step.acts layout))
    simp [linesOf, hlines]

end LineEnds

/-! ## Margins that fit -/

/-- **All margins fit in a word**: on every line that is begun, the width of
one level times the level that is in force there. -/
def MarginsFit (layout : Layout) (lines : List (List Placed)) : Prop :=
  ∀ line ∈ lines, ∀ first ∈ line.find? (!·.piece.isEmpty),
    layout.indentWidth * first.level < wordSize

instance (layout : Layout) (lines : List (List Placed)) : Decidable (MarginsFit layout lines) :=
  inferInstanceAs (Decidable (∀ line ∈ lines, ∀ first ∈ line.find? (!·.piece.isEmpty),
    layout.indentWidth * first.level < wordSize))

/-- The margin on the page is that of the line's text exactly when it fits. -/
theorem lineWith_margin_eq_iff {line : List Placed} :
    lineWith (margin layout) line = lineText layout line ↔
      ∀ first ∈ line.find? (!·.piece.isEmpty), layout.indentWidth * first.level < wordSize := by
  cases hfirst : line.find? (!·.piece.isEmpty) with
  | none => simp [lineText, lineWith, hfirst]
  | some first =>
    simp only [lineText, lineWith, hfirst, String.append_left_inj, Nat.mul_comm layout.indentWidth,
      margin_eq_spaces_iff, Option.mem_some_iff, forall_eq']

/-- **The page is cut into the texts of its lines** exactly when all margins
fit. -/
theorem splitOn_written_eq_iff (hmoves : ∀ s ∈ moves, '\n' ∉ s.piece.toList) :
    (written layout moves).toList.splitOn '\n'
        = (linesOf layout moves).map (fun line => (lineText layout line).toList) ↔
      MarginsFit layout (linesOf layout moves) := by
  have hmargin : ∀ level, '\n' ∉ (margin layout level).toList := fun _ => newline_notMem_spaces _
  rw [written_eq_intercalate, splitOn_intercalate_lineWith hmoves layout hmargin,
    List.map_inj_left]
  exact forall₂_congr fun line _ => String.toList_inj.trans lineWith_margin_eq_iff

/-- And so is the page as a whole. -/
theorem written_eq_iff (hmoves : ∀ s ∈ moves, '\n' ∉ s.piece.toList) :
    written layout moves = "\n".intercalate ((linesOf layout moves).map (lineText layout)) ↔
      MarginsFit layout (linesOf layout moves) := by
  constructor
  · intro hwritten
    rw [← splitOn_written_eq_iff hmoves, hwritten]
    exact splitOn_intercalate_lineWith hmoves layout fun _ => newline_notMem_spaces _
  · intro hfit
    rw [written_eq_intercalate]
    congr 1
    exact List.map_congr_left fun line hline => lineWith_margin_eq_iff.2 (hfit line hline)

/-! ## Levels -/

/-- By how much a step changes the level. -/
def Step.rise : Step → Int
  | .indent | .openBlock _ => 1
  | .dedent | .closeBlock => -1
  | _ => 0

/-- **A step changes the level by its rise**, but not to one below zero. -/
theorem level_step (layout : Layout) (page : Page) (s : Step) :
    ((step layout page s).level : Int) = max 0 (page.level + s.rise) := by
  have hindent : ∀ page : Page, page.indent.level = page.level + 1 := fun _ => rfl
  have hdedent : ∀ page : Page, page.dedent.level = page.level - 1 := fun _ => rfl
  have hnewline : ∀ page : Page, page.newline.level = page.level := fun _ => rfl
  cases s <;>
    simp only [step, Step.rise, hindent, hdedent, hnewline, level_write, level_newlines] <;> omega

/-- **The level is the count of the rises**, cut off at zero after each step. -/
theorem level_steps (layout : Layout) (page : Page) (moves : List Step) :
    ((steps layout page moves).level : Int)
      = moves.foldl (fun count s => max 0 (count + s.rise)) (page.level : Int) := by
  induction moves generalizing page with
  | nil => rfl
  | cons s moves ih =>
    rw [List.foldl_cons, ← level_step layout]
    exact ih (step layout page s)

/-- **Steps in which everything opened is closed**: steps on one level, and
any such steps between one that raises the level and one that lowers it. -/
inductive Nested : List Step → Prop
  /-- No steps. -/
  | nil : Nested []
  /-- A step that stays on its level. -/
  | level {s : Step} {moves : List Step} : s.rise = 0 → Nested moves → Nested (s :: moves)
  /-- A block, or what is indented otherwise, and what follows. -/
  | block {first last : Step} {inner moves : List Step} :
      first.rise = 1 → Nested inner → last.rise = -1 → Nested moves →
      Nested (first :: inner ++ last :: moves)

/-- **Nested steps return to the level they started from.** -/
theorem Nested.level_steps (h : Nested moves) (layout : Layout) (page : Page) :
    (steps layout page moves).level = page.level := by
  induction h generalizing page with
  | nil => rfl
  | @level s moves hs _ ih =>
    have hstep := level_step layout page s
    have hrest := ih (step layout page s)
    show (steps layout (step layout page s) moves).level = page.level
    omega
  | @block first last inner moves hfirst _ hlast _ ihinner ihmoves =>
    have hraise := level_step layout page first
    have hinner := ihinner (step layout page first)
    have hlower := level_step layout (steps layout (step layout page first) inner) last
    have hrest := ihmoves (step layout (steps layout (step layout page first) inner) last)
    have hall : steps layout page (first :: inner ++ last :: moves)
        = steps layout (step layout (steps layout (step layout page first) inner) last) moves := by
      simp [steps, List.foldl_append]
    rw [hall]
    omega

/-! ## The page as a whole -/

/-- A layout in which one level is half a word wide. -/
def wide : Layout := { indentWidth := wordSize / 2 }

end Page

end Companion
