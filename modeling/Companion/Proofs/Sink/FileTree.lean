import Companion.Proofs.Sink.Location
import Mathlib.Data.List.Infix
import Mathlib.Logic.Function.Basic

/-!
# File trees — the storage behind a directory sink

A directory sink is described by its files alone. Behind it stand files
and directories: to keep an artifact, the directories on the way to its
place are made as far as they are missing, and then the file is made new.
`FileTree` has both, and `store` is what happens to them.

A directory that was made on the way stays when a later step fails. What
a step never does, on any tree and with any artifact, is to touch a file
that is there (`file?_store`). The tree ends at its root: an artifact
whose path leads out of it is refused before any step, which stands for
the guard of the host and not for one of the sink.
-/

namespace Companion

open DirectorySink (isFileName)

/-- What can stand in a place of a file tree. -/
inductive Node where
  /-- A directory. -/
  | directory
  /-- A regular file. -/
  | file (contents : String)
  deriving DecidableEq, Repr

/-- **What stands at the root of a directory sink and below it.** A place
is given by the names on the way to it, the root by none. -/
structure FileTree where
  /-- What stands in a place. -/
  node? : List String → Option Node
  /-- Whatever stands below the root stands in a directory. -/
  closed : ∀ place name, node? (place ++ [name]) ≠ none → node? place = some .directory
  /-- The names on the way to it are names that a file system can have. -/
  named : ∀ place, node? place ≠ none → place.all isFileName = true

namespace FileTree

variable {tree made : FileTree} {place other : List String} {node : Node} {contents : String}

/-- The contents of the file in a place. -/
def file? (tree : FileTree) (place : List String) : Option String :=
  match tree.node? place with
  | some (.file contents) => some contents
  | _ => none

/-- Nothing is there, or an empty directory. -/
def IsVacant (tree : FileTree) : Prop :=
  ∀ place node, tree.node? place = some node → place = [] ∧ node = .directory

/-- The contents are those of the file that is there. -/
theorem file?_eq_some_iff :
    tree.file? place = some contents ↔ tree.node? place = some (.file contents) := by
  unfold file?
  split <;> simp_all

/-- There is no file where there is nothing or a directory. -/
theorem file?_eq_none_iff :
    tree.file? place = none ↔ tree.node? place = none ∨ tree.node? place = some .directory := by
  rcases hnode : tree.node? place with - | - | contents <;> simp [file?, hnode]

/-! ## Making one thing -/

/-- Something can be made in a place where nothing is, in a directory that
is there, and under a name that a file system can have. What the root
stands in is not part of the tree. -/
structure IsFree (tree : FileTree) (place : List String) : Prop where
  /-- Nothing is in the place. -/
  vacant : tree.node? place = none
  /-- The place is in a directory. -/
  enclosed : place = [] ∨ tree.node? place.dropLast = some .directory
  /-- The names can be had. -/
  named : place.all isFileName = true

instance (tree : FileTree) (place : List String) : Decidable (tree.IsFree place) :=
  decidable_of_iff (tree.node? place = none ∧
      (place = [] ∨ tree.node? place.dropLast = some .directory) ∧ place.all isFileName = true)
    ⟨fun h => ⟨h.1, h.2.1, h.2.2⟩, fun h => ⟨h.vacant, h.enclosed, h.named⟩⟩

/-- The tree with something in a free place. -/
def put (tree : FileTree) (place : List String) (node : Node) (h : tree.IsFree place) :
    FileTree where
  node? := Function.update tree.node? place (some node)
  closed := by
    intro directory name hnode
    have hother : directory ≠ place → Function.update tree.node? place (some node) directory
        = tree.node? directory := fun hne => Function.update_of_ne hne _ _
    by_cases hplace : directory ++ [name] = place
    · have hne : directory ≠ place := by
        rw [← hplace]
        simp
      rw [hother hne]
      have hdirectory := h.enclosed.resolve_left (by simp [← hplace])
      rwa [← hplace, List.dropLast_concat] at hdirectory
    · rw [Function.update_of_ne hplace] at hnode
      have hdirectory := tree.closed directory name hnode
      have hne : directory ≠ place := by
        rintro rfl
        rw [h.vacant] at hdirectory
        cases hdirectory
      rw [hother hne, hdirectory]
  named := by
    intro other hnode
    by_cases hplace : other = place
    · rw [hplace]
      exact h.named
    · rw [Function.update_of_ne hplace] at hnode
      exact tree.named other hnode

/-- Nothing changes elsewhere. -/
@[simp] theorem node?_put (h : tree.IsFree place) (other : List String) :
    (tree.put place node h).node? other = if other = place then some node else tree.node? other :=
  Function.update_apply _ _ _ _

/-- Why nothing was made in a place. -/
inductive MakeError where
  /-- Something is there. -/
  | taken
  /-- Nothing can be made there. -/
  | impossible
  deriving DecidableEq, Repr

/-- Make something that is not there. -/
def make (tree : FileTree) (place : List String) (node : Node) : Except MakeError FileTree :=
  if h : tree.IsFree place then .ok (tree.put place node h)
  else if tree.node? place = none then .error .impossible
  else .error .taken

/-- **What making can come to.** -/
theorem make_cases (tree : FileTree) (place : List String) (node : Node) :
    (∃ h : tree.IsFree place, tree.make place node = .ok (tree.put place node h)) ∨
    (tree.node? place = none ∧ ¬ tree.IsFree place ∧ tree.make place node = .error .impossible) ∨
    (tree.node? place ≠ none ∧ tree.make place node = .error .taken) := by
  by_cases hfree : tree.IsFree place
  · exact Or.inl ⟨hfree, by rw [make, dif_pos hfree]⟩
  · by_cases hnone : tree.node? place = none
    · exact Or.inr (Or.inl ⟨hnone, hfree, by rw [make, dif_neg hfree, if_pos hnone]⟩)
    · exact Or.inr (Or.inr ⟨hnone, by rw [make, dif_neg hfree, if_neg hnone]⟩)

/-! ## Making directories -/

/-- Make a directory where none is, and tell whether there is one now. -/
def makeDirectory (tree : FileTree) (place : List String) : FileTree × Bool :=
  match tree.make place .directory with
  | .ok made => (made, true)
  | .error _ => (tree, tree.node? place = some .directory)

/-- Make one directory after the other, until one cannot be made. -/
def makeEach (tree : FileTree) : List (List String) → FileTree × Bool
  | [] => (tree, true)
  | place :: places =>
    match tree.makeDirectory place with
    | (made, true) => made.makeEach places
    | (made, false) => (made, false)

/-- Make a directory and all directories on the way to it. A null
character ends the attempt before anything is made. -/
def makeDirectories (tree : FileTree) (directory : List String) : FileTree × Bool :=
  if directory.any (·.toList.contains '\x00') then (tree, false) else tree.makeEach directory.inits

/-- **What making a directory can do**: it is made in a free place, or the
tree is as it was. -/
theorem makeDirectory_cases (tree : FileTree) (place : List String) :
    (∃ h : tree.IsFree place, tree.makeDirectory place = (tree.put place .directory h, true)) ∨
    (¬ tree.IsFree place ∧
      tree.makeDirectory place = (tree, decide (tree.node? place = some .directory))) := by
  rcases make_cases tree place .directory with
    ⟨hfree, hmake⟩ | ⟨-, hfree, hmake⟩ | ⟨hthere, hmake⟩
  · exact Or.inl ⟨hfree, by rw [makeDirectory, hmake]⟩
  · exact Or.inr ⟨hfree, by rw [makeDirectory, hmake]⟩
  · exact Or.inr ⟨fun hfree => hthere hfree.vacant, by rw [makeDirectory, hmake]⟩

/-- What is new is a directory in one of the places. -/
theorem node?_makeEach (tree : FileTree) (places : List (List String)) (other : List String) :
    (tree.makeEach places).1.node? other = tree.node? other ∨
      tree.node? other = none ∧ (tree.makeEach places).1.node? other = some .directory ∧
        other ∈ places := by
  induction places generalizing tree with
  | nil => exact Or.inl rfl
  | cons place places ih =>
    rw [makeEach]
    rcases makeDirectory_cases tree place with ⟨hfree, hmade⟩ | ⟨-, hmade⟩
    · rw [hmade]
      by_cases hother : other = place
      · have hthere : (tree.put place .directory hfree).node? other = some .directory := by
          simp [hother]
        refine Or.inr ⟨hother ▸ hfree.vacant, ?_, by simp [hother]⟩
        rcases ih (tree.put place .directory hfree) with hsame | ⟨hnone, -⟩
        · exact hsame.trans hthere
        · rw [hthere] at hnone
          cases hnone
      · have hthere : (tree.put place .directory hfree).node? other = tree.node? other := by
          simp [hother]
        rcases ih (tree.put place .directory hfree) with hsame | ⟨hnone, hdirectory, hmem⟩
        · exact Or.inl (hsame.trans hthere)
        · exact Or.inr ⟨hthere ▸ hnone, hdirectory, List.mem_cons_of_mem _ hmem⟩
    · rw [hmade]
      cases decide (tree.node? place = some .directory) with
      | true => exact (ih tree).imp_right fun ⟨hnone, hdirectory, hmem⟩ =>
          ⟨hnone, hdirectory, List.mem_cons_of_mem _ hmem⟩
      | false => exact Or.inl rfl

/-- The files are those that were there. -/
theorem file?_makeEach (tree : FileTree) (places : List (List String)) (place : List String) :
    (tree.makeEach places).1.file? place = tree.file? place := by
  rcases node?_makeEach tree places place with hsame | ⟨hnone, hdirectory, -⟩
  · rw [file?, file?, hsame]
  · rw [file?_eq_none_iff.2 (Or.inl hnone), file?_eq_none_iff.2 (Or.inr hdirectory)]

/-- The last place is reached when the places before it have been. -/
theorem makeEach_concat (tree : FileTree) (places : List (List String)) (place : List String) :
    tree.makeEach (places ++ [place]) =
      if (tree.makeEach places).2 then (tree.makeEach places).1.makeDirectory place
      else tree.makeEach places := by
  induction places generalizing tree with
  | nil =>
    simp only [List.nil_append, makeEach]
    rcases tree.makeDirectory place with ⟨made, - | -⟩ <;> rfl
  | cons first places ih =>
    rw [List.cons_append, makeEach, makeEach]
    rcases tree.makeDirectory first with ⟨made, - | -⟩
    · rfl
    · exact ih made

/-- **When a directory can be made** in another one: its names can be had,
and no file is there. -/
theorem makeDirectory_iff (h : place = [] ∨ tree.node? place.dropLast = some .directory) :
    (tree.makeDirectory place).2 = true ↔
      place.all isFileName = true ∧ tree.file? place = none := by
  rw [file?_eq_none_iff]
  rcases makeDirectory_cases tree place with ⟨hfree, hmade⟩ | ⟨hfree, hmade⟩
  · rw [hmade]
    exact iff_of_true rfl ⟨hfree.named, Or.inl hfree.vacant⟩
  · rw [hmade, decide_eq_true_eq]
    constructor
    · intro hthere
      exact ⟨tree.named place (by simp [hthere]), Or.inr hthere⟩
    · rintro ⟨hnames, hfile⟩
      exact hfile.resolve_left fun hnone => hfree ⟨hnone, h, hnames⟩

/-- It is there then. -/
theorem node?_makeDirectory (h : (tree.makeDirectory place).2 = true) :
    (tree.makeDirectory place).1.node? place = some .directory := by
  rcases makeDirectory_cases tree place with ⟨hfree, hmade⟩ | ⟨-, hmade⟩
  · rw [hmade]
    simp
  · rw [hmade] at h ⊢
    exact of_decide_eq_true h

/-- The ways to a place are those to the directory it is in, and its own. -/
theorem inits_concat (directory : List String) (name : String) :
    (directory ++ [name]).inits = directory.inits ++ [directory ++ [name]] := by
  simp [List.inits_append]

/-- **When a directory is reached**, it is there. -/
theorem node?_of_makeEach_inits {directory : List String}
    (h : (tree.makeEach directory.inits).2 = true) :
    (tree.makeEach directory.inits).1.node? directory = some .directory := by
  have hlast : ∃ before, directory.inits = before ++ [directory] := by
    rcases directory.eq_nil_or_concat' with rfl | ⟨way, name, rfl⟩
    · exact ⟨[], rfl⟩
    · exact ⟨way.inits, inits_concat way name⟩
  obtain ⟨before, hbefore⟩ := hlast
  rw [hbefore, makeEach_concat] at h ⊢
  split_ifs at h ⊢ with hreached
  · exact node?_makeDirectory h
  · exact absurd h hreached

/-- **When the directories on a way can be made**: their names can be had,
and no file is in the way. -/
theorem makeEach_inits_iff (tree : FileTree) (directory : List String) :
    (tree.makeEach directory.inits).2 = true ↔
      directory.all isFileName = true ∧ ∀ place, place <+: directory → tree.file? place = none := by
  induction directory using List.reverseRecOn with
  | nil =>
    have hroot : tree.makeEach (List.inits []) = tree.makeDirectory [] :=
      makeEach_concat tree [] []
    rw [hroot, makeDirectory_iff (Or.inl rfl)]
    simp
  | append_singleton directory name ih =>
    rw [inits_concat, makeEach_concat]
    split_ifs with hreached
    · have hthere := node?_of_makeEach_inits hreached
      obtain ⟨hnames, hfiles⟩ := ih.1 hreached
      rw [makeDirectory_iff (Or.inr (by rwa [List.dropLast_concat])), file?_makeEach]
      refine and_congr_right fun _ => ⟨fun hfile place hplace => ?_, fun hfile => ?_⟩
      · rcases List.prefix_concat_iff.1 hplace with rfl | hplace
        · exact hfile
        · exact hfiles place hplace
      · exact hfile _ List.prefix_rfl
    · rw [Bool.not_eq_true] at hreached
      refine iff_of_false (by simp [hreached]) fun ⟨hnames, hfiles⟩ => ?_
      rw [List.all_append, Bool.and_eq_true] at hnames
      have hbefore := ih.2 ⟨hnames.1, fun place hplace =>
        hfiles place (hplace.trans (List.prefix_append _ _))⟩
      rw [hreached] at hbefore
      cases hbefore

/-- The files are those that were there, however far it went. -/
theorem file?_makeDirectories (tree : FileTree) (directory place : List String) :
    (tree.makeDirectories directory).1.file? place = tree.file? place := by
  unfold makeDirectories
  split
  · rfl
  · exact file?_makeEach tree directory.inits place

/-- What is new is a directory on the way. -/
theorem prefix_of_makeDirectories {directory : List String}
    (h : (tree.makeDirectories directory).1.node? place = some .directory) :
    tree.node? place = some .directory ∨ place <+: directory := by
  unfold makeDirectories at h
  split at h
  · exact Or.inl h
  · rcases node?_makeEach tree directory.inits place with hsame | ⟨-, -, hmem⟩
    · exact Or.inl (hsame ▸ h)
    · exact Or.inr ((List.mem_inits _ _).1 hmem)

/-- **When a directory can be made with those on the way to it**: their names
can be had, and no file is in the way. -/
theorem makeDirectories_iff (tree : FileTree) (directory : List String) :
    (tree.makeDirectories directory).2 = true ↔
      directory.all isFileName = true ∧ ∀ place, place <+: directory → tree.file? place = none := by
  unfold makeDirectories
  split
  · next hnull =>
    refine iff_of_false Bool.false_ne_true fun ⟨hnames, _⟩ => ?_
    obtain ⟨name, hname, hnull⟩ := List.any_eq_true.1 hnull
    have hgood := List.all_eq_true.1 hnames name hname
    rw [isFileName, hnull] at hgood
    simp at hgood
  · exact makeEach_inits_iff tree directory

/-- It is there then. -/
theorem node?_of_makeDirectories {directory : List String}
    (h : (tree.makeDirectories directory).2 = true) :
    (tree.makeDirectories directory).1.node? directory = some .directory := by
  unfold makeDirectories at h ⊢
  split_ifs at h ⊢
  exact node?_of_makeEach_inits h

/-! ## Storing artifacts -/

/-- Make the file of an artifact and the directories it is in. -/
def store (tree : FileTree) (a : Artifact) : FileTree × Option SinkError :=
  match a.location? with
  | none => (tree, some (.outsideRoot a.name))
  | some place =>
    match tree.makeDirectories place.dropLast with
    | (made, false) => (made, some (.unwritable a.name))
    | (made, true) =>
      match made.make place (.file a.contents) with
      | .ok next => (next, none)
      | .error .taken => (made, some (.alreadyExists a.name))
      | .error .impossible => (made, some (.unwritable a.name))

/-- **No file is touched**: whatever is done for an artifact, and whether it
is taken or refused, the files that are there keep their contents. -/
theorem file?_store (h : tree.file? place = some contents) (a : Artifact) :
    (tree.store a).1.file? place = some contents := by
  unfold store
  split
  · exact h
  · next target _ =>
    have hkept := file?_makeDirectories tree target.dropLast place
    rw [h] at hkept
    split
    · next made hmade =>
      rwa [hmade] at hkept
    · next made hmade =>
      rw [hmade] at hkept
      rcases make_cases made target (.file a.contents) with
        ⟨hfree, hmake⟩ | ⟨-, -, hmake⟩ | ⟨-, hmake⟩
      · rw [hmake]
        have hne : place ≠ target := by
          rintro rfl
          rw [file?_eq_some_iff, hfree.vacant] at hkept
          cases hkept
        rw [file?_eq_some_iff, node?_put, if_neg hne, ← file?_eq_some_iff]
        exact hkept
      · rwa [hmake]
      · rwa [hmake]

end FileTree

end Companion
