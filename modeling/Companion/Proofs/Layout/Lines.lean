import Companion.Layout

/-!
# Lines — what a page gains between two line ends

A page is written piece by piece, but the steps of generated source come
in groups that begin at the start of a line and end at the start of
another. `Writes` says which lines such a group writes and how it moves
the level; each line is given as it stands on the page, with its margin.
Groups one after the other write their lines one after the other
(`Writes.append`), so the text of a page is read off its groups
(`Writes.written_eq`).
-/

namespace Companion

namespace Page

/-- The text of lines, each of which ends with a line feed. -/
def unlines (lines : List String) : String := String.join (lines.map (· ++ "\n"))

variable {layout : Layout} {level level' level'' : Nat} {moves moves' : List Step}
variable {lines lines' : List String} {piece : String}

/-- Lines one after the other. -/
theorem unlines_append (lines lines' : List String) :
    unlines (lines ++ lines') = unlines lines ++ unlines lines' := by
  simp [unlines]

theorem unlines_singleton (line : String) : unlines [line] = line ++ "\n" := by
  simp [unlines]

/-- Spaces are told apart by how many there are. -/
@[simp]
theorem spaces_inj {m n : Nat} : spaces m = spaces n ↔ m = n := by
  simp [spaces, String.ofList_inj, List.replicate_inj]

/-- The outermost level has no margin. -/
theorem margin_zero (layout : Layout) : margin layout 0 = "" := by
  simp [margin, spaces]

/-- **A margin is as wide as its level asks for** exactly when the product
of the level and the width of one level fits in a word. -/
theorem margin_eq_spaces_iff : margin layout level = spaces (level * layout.indentWidth) ↔
    level * layout.indentWidth < wordSize := by
  rw [margin, spaces_inj]
  exact Nat.mod_eq_iff_lt (by decide)

/-- **Steps that write whole lines**: they take a page on which nothing is
written yet on the current line at one level to such a page at another. -/
def Writes (layout : Layout) (level : Nat) (moves : List Step) (lines : List String)
    (level' : Nat) : Prop :=
  ∀ text, steps layout ⟨text, level, true⟩ moves = ⟨text ++ unlines lines, level', true⟩

/-- No steps write no lines. -/
theorem writes_nil : Writes layout level [] [] level := by
  intro text
  simp [steps, unlines]

/-- **Lines are written one after the other.** -/
theorem Writes.append (h : Writes layout level moves lines level')
    (h' : Writes layout level' moves' lines' level'') :
    Writes layout level (moves ++ moves') (lines ++ lines') level'' := by
  intro text
  have hfirst : steps layout ⟨text, level, true⟩ moves = ⟨text ++ unlines lines, level', true⟩ :=
    h text
  have hboth : steps layout ⟨text, level, true⟩ (moves ++ moves')
      = steps layout (steps layout ⟨text, level, true⟩ moves) moves' := List.foldl_append
  rw [hboth, hfirst, h' (text ++ unlines lines), unlines_append, String.append_assoc]

/-- Items that each write their lines at one level write them all there. -/
theorem writes_flatMap {α : Type} {f : α → List Step} {g : α → List String} {xs : List α}
    (h : ∀ x ∈ xs, Writes layout level (f x) (g x) level) :
    Writes layout level (xs.flatMap f) (xs.flatMap g) level := by
  induction xs with
  | nil => exact writes_nil
  | cons x xs ih =>
    have hx := h x List.mem_cons_self
    have hxs := ih fun y hy => h y (List.mem_cons_of_mem x hy)
    rw [List.flatMap_cons, List.flatMap_cons]
    exact hx.append hxs

/-- A piece that is not empty is written behind the margin of its line. -/
theorem write_fresh (hpiece : piece ≠ "") (text : String) (level : Nat) :
    write layout piece ⟨text, level, true⟩
      = ⟨text ++ margin layout level ++ piece, level, false⟩ := by
  have hne : piece.isEmpty = false := by simpa using hpiece
  simp [write, hne]

/-- A step that writes a piece and ends the line writes a line. -/
theorem writes_line (hpiece : piece ≠ "") :
    Writes layout level [.line piece] [margin layout level ++ piece] level := by
  intro text
  have hwrite : write layout piece ⟨text, level, true⟩
      = ⟨text ++ margin layout level ++ piece, level, false⟩ := write_fresh hpiece text level
  simp only [steps, List.foldl_cons, List.foldl_nil, step, hwrite, newline, unlines_singleton,
    String.append_assoc]

/-- Pieces that each get a line of their own. -/
theorem writes_map {α : Type} {piece : α → String} {xs : List α}
    (hpiece : ∀ x ∈ xs, piece x ≠ "") :
    Writes layout level (xs.map fun x => .line (piece x))
      (xs.map fun x => margin layout level ++ piece x) level := by
  rw [List.map_eq_flatMap, List.map_eq_flatMap]
  exact writes_flatMap fun x hx => writes_line (hpiece x hx)

/-- A line end alone writes an empty line, without a margin. -/
theorem writes_newline : Writes layout level [.newline] [""] level := by
  intro text
  simp [steps, step, newline, unlines]

/-- Line ends write as many empty lines. -/
theorem newlines_eq (count : Nat) (text : String) (level : Nat) :
    newlines count ⟨text, level, true⟩
      = ⟨text ++ unlines (List.replicate count ""), level, true⟩ := by
  induction count generalizing text with
  | zero => simp [newlines, unlines]
  | succ count ih =>
    have hline : text ++ unlines (List.replicate (count + 1) "")
        = text ++ "\n" ++ unlines (List.replicate count "") := by
      rw [List.replicate_succ, ← List.singleton_append, unlines_append, unlines_singleton,
        String.empty_append, String.append_assoc]
    rw [newlines, newline, ih, hline]

/-- The gap between two members is as many empty lines as the layout asks for. -/
theorem writes_gap :
    Writes layout level [.gap] (List.replicate layout.memberGap "") level := by
  intro text
  exact newlines_eq layout.memberGap text level

/-- A block opens with its header on a line, and what follows is one level deeper. -/
theorem writes_openBlock (hpiece : piece ≠ "") :
    Writes layout level [.openBlock piece] [margin layout level ++ piece ++ " \x7b"]
      (level + 1) := by
  intro text
  have hwrite : write layout piece ⟨text, level, true⟩
      = ⟨text ++ margin layout level ++ piece, level, false⟩ := write_fresh hpiece text level
  have hbrace : write layout " \x7b" ⟨text ++ margin layout level ++ piece, level, false⟩
      = ⟨text ++ margin layout level ++ piece ++ " \x7b", level, false⟩ := rfl
  simp only [steps, List.foldl_cons, List.foldl_nil, step, hwrite, hbrace, newline, indent,
    unlines_singleton]
  simp only [String.append_assoc]

/-- And closes with a brace on a line, at the level of its header. -/
theorem writes_closeBlock :
    Writes layout (level + 1) [.closeBlock] [margin layout level ++ "\x7d"] level := by
  intro text
  have hwrite : write layout "\x7d" ⟨text, level, true⟩
      = ⟨text ++ margin layout level ++ "\x7d", level, false⟩ :=
    write_fresh (by decide) text level
  have hdedent : dedent ⟨text, level + 1, true⟩ = ⟨text, level, true⟩ := rfl
  simp only [steps, List.foldl_cons, List.foldl_nil, step, hdedent, hwrite, newline,
    unlines_singleton, String.append_assoc]

/-- **The text of a page is that of the lines its steps write.** -/
theorem Writes.written_eq (h : Writes layout 0 moves lines level) :
    written layout moves = unlines lines := by
  have hpage : steps layout {} moves = ⟨"" ++ unlines lines, level, true⟩ := h ""
  rw [written, hpage, String.empty_append]

end Page

end Companion
