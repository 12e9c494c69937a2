import Companion.Proofs.Layout.Lines

/-!
# Pieces — what is written stays on the page

A page only grows. No step changes what is on it or looks at it
(`steps_behind`), so what stands behind some lines is what the same steps
write on an empty page (`Writes.written_append`); and the piece that a
step writes is a part of the text in the end (`piece_infix_written`).
-/

namespace Companion

namespace Page

variable {layout : Layout} {level : Nat} {moves moves' : List Step} {lines : List String}
variable {text : String} {page : Page} {s : Step}

/-! ## Behind a text -/

/-- The page with a text before what is on it. -/
def behind (text : String) (page : Page) : Page := { page with text := text ++ page.text }

/-- A piece is written as if the text were not there. -/
theorem write_behind (piece : String) : (page.behind text).write layout piece
    = (page.write layout piece).behind text := by
  obtain ⟨old, level, fresh⟩ := page
  unfold write
  split
  · rfl
  · cases fresh <;> simp [behind, String.append_assoc]

/-- And so is a line end. -/
theorem newline_behind : (page.behind text).newline = page.newline.behind text := by
  simp only [newline, behind, String.append_assoc]

/-- And any number of them. -/
theorem newlines_behind (count : Nat) :
    newlines count (page.behind text) = (newlines count page).behind text := by
  induction count generalizing page with
  | zero => rfl
  | succ count ih => rw [newlines, newlines, newline_behind, ih]

/-- A step is taken as if the text were not there. -/
theorem step_behind : step layout (page.behind text) s = (step layout page s).behind text := by
  have hindent : ∀ page : Page, (page.behind text).indent = page.indent.behind text :=
    fun _ => rfl
  have hdedent : ∀ page : Page, (page.behind text).dedent = page.dedent.behind text :=
    fun _ => rfl
  cases s <;> simp only [step, write_behind, newline_behind, newlines_behind, hindent, hdedent]

/-- **Steps do not look at what is on the page.** -/
theorem steps_behind :
    steps layout (page.behind text) moves = (steps layout page moves).behind text := by
  induction moves generalizing page with
  | nil => rfl
  | cons s moves ih =>
    show steps layout (step layout (page.behind text) s) moves = _
    rw [step_behind, ih]
    rfl

/-- **What stands behind lines at the outermost level** is what an empty
page would hold. -/
theorem Writes.written_append (h : Writes layout 0 moves lines 0) :
    written layout (moves ++ moves') = unlines lines ++ written layout moves' := by
  have hlines : steps layout {} moves = Page.behind (unlines lines) {} := by
    have hpage : steps layout {} moves = ⟨"" ++ unlines lines, 0, true⟩ := h ""
    rw [hpage, String.empty_append]
    simp [behind]
  have hboth : steps layout {} (moves ++ moves') = steps layout (steps layout {} moves) moves' :=
    List.foldl_append
  rw [written, hboth, hlines, steps_behind]
  rfl

/-! ## Parts of the text -/

/-- A piece is put behind what is on the page. -/
theorem text_write (layout : Layout) (page : Page) (piece : String) :
    ∃ margin, (page.write layout piece).text = page.text ++ margin ++ piece := by
  unfold write
  split
  · next hempty =>
    have hpiece : piece = "" := by simpa using hempty
    exact ⟨"", by simp [hpiece]⟩
  · split
    · exact ⟨_, rfl⟩
    · exact ⟨"", by simp⟩

/-- And so are line ends. -/
theorem text_newlines (count : Nat) (page : Page) :
    ∃ ends, (newlines count page).text = page.text ++ ends := by
  induction count generalizing page with
  | zero => exact ⟨"", by simp [newlines]⟩
  | succ count ih =>
    obtain ⟨ends, hends⟩ := ih page.newline
    exact ⟨"\n" ++ ends, by rw [newlines, hends, newline, String.append_assoc]⟩

/-- The piece that a step writes, which is nothing for most of them. -/
def Step.piece : Step → String
  | .write piece => piece
  | .line piece => piece
  | .openBlock header => header
  | _ => ""

/-- **A step puts its piece behind what is on the page.** -/
theorem text_step (layout : Layout) (page : Page) (s : Step) :
    ∃ before after, (step layout page s).text = page.text ++ before ++ s.piece ++ after := by
  cases s with
  | write piece =>
    obtain ⟨margin, hwrite⟩ := text_write layout page piece
    exact ⟨margin, "", by simp [step, hwrite, Step.piece]⟩
  | line piece =>
    obtain ⟨margin, hwrite⟩ := text_write layout page piece
    exact ⟨margin, "\n", by simp [step, newline, hwrite, Step.piece]⟩
  | newline => exact ⟨"", "\n", by simp [step, newline, Step.piece]⟩
  | indent => exact ⟨"", "", by simp [step, indent, Step.piece]⟩
  | dedent => exact ⟨"", "", by simp [step, dedent, Step.piece]⟩
  | gap =>
    obtain ⟨ends, hends⟩ := text_newlines layout.memberGap page
    exact ⟨"", ends, by simp [step, hends, Step.piece]⟩
  | openBlock header =>
    obtain ⟨margin, hwrite⟩ := text_write layout page header
    obtain ⟨more, hbrace⟩ := text_write layout (page.write layout header) " \x7b"
    exact ⟨margin, more ++ " \x7b" ++ "\n",
      by simp only [step, indent, newline, hbrace, hwrite, Step.piece, String.append_assoc]⟩
  | closeBlock =>
    obtain ⟨margin, hwrite⟩ := text_write layout page.dedent "\x7d"
    exact ⟨margin, "\x7d" ++ "\n",
      by simp only [step, newline, hwrite, Step.piece, String.append_assoc,
        String.empty_append]; rfl⟩

/-- So a page only grows. -/
theorem prefix_steps (layout : Layout) (page : Page) (moves : List Step) :
    page.text.toList <+: (steps layout page moves).text.toList := by
  induction moves generalizing page with
  | nil => exact List.prefix_rfl
  | cons s moves ih =>
    obtain ⟨before, after, htext⟩ := text_step layout page s
    refine List.IsPrefix.trans ?_ (ih (step layout page s))
    rw [htext]
    simp only [String.toList_append, List.append_assoc]
    exact List.prefix_append _ _

/-- **And every piece that is written is a part of the text.** -/
theorem piece_infix_written (h : s ∈ moves) :
    s.piece.toList <:+: (written layout moves).toList := by
  obtain ⟨first, rest, rfl⟩ := List.append_of_mem h
  obtain ⟨before, after, htext⟩ := text_step layout (steps layout {} first) s
  have hsteps : steps layout {} (first ++ s :: rest)
      = steps layout (step layout (steps layout {} first) s) rest := by
    rw [steps, List.foldl_append]
    rfl
  have hhere : s.piece.toList <:+: (step layout (steps layout {} first) s).text.toList := by
    rw [htext]
    simp only [String.toList_append]
    exact List.infix_append _ _ _
  rw [written, hsteps]
  exact hhere.trans (prefix_steps layout _ rest).isInfix

end Page

end Companion
