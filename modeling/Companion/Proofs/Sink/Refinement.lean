import Companion.Proofs.Sink.FileTree
import Companion.Proofs.Sink.Offer
import Mathlib.Data.Set.Function

/-!
# Refinement — a directory keeps what memory keeps

Three ways to keep artifacts answer alike. The files of a file tree are
those of a directory sink (`Shows`): the names of directories hold no dot
and the names of files do, so directories that are made on the way never
get in each other's way, whatever the artifacts are called. And when
their names make paths, the files of a directory sink are the artifacts
of a memory sink (`Mirrors`). Both relations outlast every offer, so an
empty directory and an empty memory sink agree about any artifacts
(`directory_refines_memory`).
-/

namespace Companion

open DirectorySink (isFileName)

variable {tree : FileTree} {sink : DirectorySink} {memory : MemorySink} {a : Artifact}
variable {place directories : List String} {name contents : String}

/-! ## A file tree and a directory sink -/

/-- **A file tree has the files of a directory sink.** What directories it
has is left open, but for their names. -/
structure Shows (tree : FileTree) (sink : DirectorySink) : Prop where
  /-- The root is a file for both, or for none. -/
  rooted : sink.rooted = true ↔ tree.file? [] = none
  /-- Below the root the files are the same. -/
  files : ∀ place, place ≠ [] → tree.file? place = sink.get? place
  /-- The names of directories hold no dot. -/
  dotless : ∀ place name, tree.node? (place ++ [name]) = some .directory → '.' ∉ name.toList
  /-- The names of files hold one. -/
  dotted : ∀ place name, (tree.file? (place ++ [name])).isSome → '.' ∈ name.toList

namespace Shows

/-- A vacant file tree has no files, as a new directory sink. -/
theorem of_isVacant (h : tree.IsVacant) : Shows tree {} := by
  have hfile : ∀ place, tree.file? place = none := by
    intro place
    rw [FileTree.file?_eq_none_iff]
    cases hnode : tree.node? place with
    | none => exact Or.inl rfl
    | some node => exact Or.inr (by rw [(h place node hnode).2])
  refine ⟨iff_of_true rfl (hfile []), fun place _ => hfile place, fun place name hdirectory => ?_,
    fun place name hsome => ?_⟩
  · exact absurd (h _ _ hdirectory).1 (by simp)
  · rw [hfile] at hsome
    cases hsome

/-- Directories without dots can be made where the sink can make files
behind them. -/
theorem makeDirectories_iff (h : Shows tree sink)
    (hdotless : ∀ name ∈ directories, '.' ∉ name.toList) :
    (tree.makeDirectories directories).2 = true ↔
      sink.rooted = true ∧ directories.all isFileName = true := by
  rw [FileTree.makeDirectories_iff, h.rooted, and_comm]
  refine and_congr_left fun _ =>
    ⟨fun hfree => hfree [] List.nil_prefix, fun hroot place hplace => ?_⟩
  rcases place.eq_nil_or_concat' with rfl | ⟨way, name, rfl⟩
  · exact hroot
  · -- a file on the way would be named like a directory and like a file
    by_contra hfile
    have hdot := h.dotted way name (Option.isSome_iff_ne_none.2 hfile)
    exact hdotless name (hplace.subset (by simp)) hdot

/-- However far it goes, the files are still those of the sink. -/
theorem makeDirectories (h : Shows tree sink)
    (hdotless : ∀ name ∈ directories, '.' ∉ name.toList) :
    Shows (tree.makeDirectories directories).1 sink where
  rooted := by rw [FileTree.file?_makeDirectories, h.rooted]
  files place hplace := by rw [FileTree.file?_makeDirectories, h.files place hplace]
  dotless place name hdirectory := by
    rcases FileTree.prefix_of_makeDirectories hdirectory with hbefore | honway
    · exact h.dotless place name hbefore
    · exact hdotless name (honway.subset (by simp))
  dotted place name hsome := by
    rw [FileTree.file?_makeDirectories] at hsome
    exact h.dotted place name hsome

/-- A file that both make is one that both have. -/
theorem put {next : DirectorySink} (h : Shows tree sink) (hdot : '.' ∈ name.toList)
    (hfree : tree.IsFree (directories ++ [name])) (hnone : sink.get? (directories ++ [name]) = none)
    (hrooted : next.rooted = sink.rooted)
    (hfiles : next.files = sink.files ++ [(directories ++ [name], contents)]) :
    Shows (tree.put (directories ++ [name]) (.file contents) hfree) next := by
  have hfile (place : List String) :
      (tree.put (directories ++ [name]) (.file contents) hfree).file? place
        = if place = directories ++ [name] then some contents else tree.file? place := by
    rw [FileTree.file?, FileTree.node?_put]
    split_ifs <;> rfl
  refine ⟨?_, fun place hplace => ?_, fun place last hdirectory => ?_, fun place last hsome => ?_⟩
  · rw [hfile, if_neg (by simp), hrooted, h.rooted]
  · rw [hfile, DirectorySink.get?_of_files_eq hnone hfiles, h.files place hplace]
  · rw [FileTree.node?_put] at hdirectory
    split_ifs at hdirectory
    · cases hdirectory
    · exact h.dotless place last hdirectory
  · rw [hfile] at hsome
    split_ifs at hsome with hsame
    · rw [List.append_inj' hsame rfl |>.2 |> List.singleton_inj.1]
      exact hdot
    · exact h.dotted place last hsome

/-- In a directory that is there, both make a file or refuse it alike. -/
theorem make (h : Shows tree sink) (hplace : a.location? = some (directories ++ [name]))
    (hdot : '.' ∈ name.toList) (hrooted : sink.rooted = true)
    (hthere : tree.node? directories = some .directory) :
    match tree.make (directories ++ [name]) (.file a.contents) with
    | .ok made => (offer sink a).2 = none ∧ Shows made (offer sink a).1
    | .error .taken => offer sink a = (sink, some (.alreadyExists a.name))
    | .error .impossible => offer sink a = (sink, some (.unwritable a.name)) := by
  have hfiles := h.files (directories ++ [name]) (by simp)
  rcases tree.make_cases (directories ++ [name]) (.file a.contents) with
    ⟨hfree, hmake⟩ | ⟨hvacant, hfree, hmake⟩ | ⟨htaken, hmake⟩
  · have hnone : sink.get? (directories ++ [name]) = none := by
      rw [← hfiles, FileTree.file?_eq_none_iff]
      exact Or.inl hfree.vacant
    obtain ⟨next, hsubmit, hnext, hmore⟩ :=
      DirectorySink.submit_of_free hplace ⟨hrooted, hfree.named⟩ hnone
    rw [hmake, offer_of_ok sink hsubmit]
    exact ⟨rfl, h.put hdot hfree hnone hnext hmore⟩
  · have hbad : ¬ sink.Admits (directories ++ [name]) := fun hadmits =>
      hfree ⟨hvacant, Or.inr (by rwa [List.dropLast_concat]), hadmits.2⟩
    rw [hmake]
    exact offer_of_error sink (DirectorySink.submit_of_not_admits hplace hbad)
  · have hfile : (sink.get? (directories ++ [name])).isSome := by
      rw [← hfiles, Option.isSome_iff_ne_none, Ne, FileTree.file?_eq_none_iff]
      exact fun hnode => hnode.elim htaken fun hdirectory => h.dotless _ _ hdirectory hdot
    rw [hmake]
    exact offer_of_error sink
      (DirectorySink.submit_of_taken hplace ⟨hrooted, tree.named _ htaken⟩ hfile)

/-- **A directory sink says what happens to the files**: the file tree
gives the same answer to any artifact, and has the same files then. -/
theorem step (h : Shows tree sink) (a : Artifact) :
    (tree.store a).2 = (offer sink a).2 ∧ Shows (tree.store a).1 (offer sink a).1 := by
  unfold FileTree.store
  split
  · next hnone =>
    rw [offer_of_error sink (DirectorySink.submit_of_location?_eq_none hnone)]
    exact ⟨rfl, h⟩
  · next place hplace =>
    obtain ⟨directories, file, rfl, hdotless, hdot⟩ := a.exists_of_location? hplace
    have hmade := h.makeDirectories hdotless
    have hreached := h.makeDirectories_iff hdotless
    rw [List.dropLast_concat]
    split
    · next made hmakes =>
      rw [hmakes] at hmade hreached
      have hbad : ¬ sink.Admits (directories ++ [file]) := by
        rintro ⟨hrooted, hnames⟩
        rw [List.all_append, Bool.and_eq_true] at hnames
        exact Bool.false_ne_true (hreached.2 ⟨hrooted, hnames.1⟩)
      rw [offer_of_error sink (DirectorySink.submit_of_not_admits hplace hbad)]
      exact ⟨rfl, hmade⟩
    · next made hmakes =>
      have hthere := tree.node?_of_makeDirectories (by rw [hmakes])
      rw [hmakes] at hmade hreached hthere
      have hfile := hmade.make hplace hdot (hreached.1 rfl).1 hthere
      split
      · next hmake =>
        rw [hmake] at hfile
        exact ⟨hfile.1.symm, hfile.2⟩
      · next hmake =>
        rw [hmake] at hfile
        rw [hfile]
        exact ⟨rfl, hmade⟩
      · next hmake =>
        rw [hmake] at hfile
        rw [hfile]
        exact ⟨rfl, hmade⟩

/-- So it says it of any artifacts that are offered one after the other. -/
theorem run (h : Shows tree sink) (as : List Artifact) :
    (offerAll FileTree.store tree as).2 = (offerAll offer sink as).2 ∧
      Shows (offerAll FileTree.store tree as).1 (offerAll offer sink as).1 := by
  refine offerAll_of_step Shows (fun _ => True) (fun _ _ a _ hrel => ?_) (fun _ _ => trivial) h
  exact hrel.step a

end Shows

/-! ## A directory sink and a memory sink -/

/-- **A directory sink has the artifacts of a memory sink**, each in its place. -/
structure Mirrors (sink : DirectorySink) (memory : MemorySink) : Prop where
  /-- The root can have files. -/
  rooted : sink.rooted = true
  /-- There is a file for each artifact, in the order in which they came. -/
  files : sink.files = memory.artifacts.map fun a => (a.pathParts, a.contents)
  /-- The names of the artifacts make paths. -/
  storable : ∀ a ∈ memory.artifacts, a.IsStorable

namespace Mirrors

/-- Both are empty at first. -/
theorem empty : Mirrors {} {} := ⟨rfl, rfl, by simp⟩

/-- **What is in a place is what is kept under the name**: no other name has
the place. -/
theorem get?_eq (h : Mirrors sink memory) (ha : a.IsStorable) :
    sink.get? a.pathParts = (memory.get? a.name).map (·.contents) := by
  rw [DirectorySink.get?, h.files, MemorySink.get?]
  have hstorable := h.storable
  generalize memory.artifacts = kept at hstorable
  induction kept with
  | nil => rfl
  | cons b kept ih =>
    have hsame : (a.pathParts == b.pathParts) = (b.name == a.name) := by
      rw [Bool.eq_iff_iff, beq_iff_eq, beq_iff_eq, eq_comm,
        (hstorable b List.mem_cons_self).pathParts_eq_iff ha]
    rw [List.map_cons, List.lookup_cons, List.find?_cons, hsame]
    cases b.name == a.name with
    | true => rfl
    | false => exact ih fun c hc => hstorable c (List.mem_cons_of_mem b hc)

/-- **Both answer alike** to an artifact whose name makes a path, and have
the same then. -/
theorem step (h : Mirrors sink memory) (ha : a.IsStorable) :
    (offer sink a).2 = (offer memory a).2 ∧ Mirrors (offer sink a).1 (offer memory a).1 := by
  have hadmits : sink.Admits a.pathParts := ⟨h.rooted, ha.isFileName⟩
  rcases memory.submit_cases a with ⟨htaken, hkeeps⟩ | ⟨hfree, next, hkeeps, hkept⟩
  · have htaken' : (sink.get? a.pathParts).isSome := by
      rwa [h.get?_eq ha, Option.isSome_map]
    have hmakes := DirectorySink.submit_of_taken ha.location?_eq hadmits htaken'
    rw [offer_of_error sink hmakes, offer_of_error memory hkeeps]
    exact ⟨rfl, h⟩
  · have hfree' : sink.get? a.pathParts = none := by
      rw [h.get?_eq ha, hfree, Option.map_none]
    obtain ⟨next', hmakes, hrooted, hfiles⟩ :=
      DirectorySink.submit_of_free ha.location?_eq hadmits hfree'
    rw [offer_of_ok sink hmakes, offer_of_ok memory hkeeps]
    refine ⟨rfl, hrooted.trans h.rooted, ?_, fun b hb => ?_⟩
    · rw [hfiles, h.files, hkept, List.map_append]
      rfl
    · rw [hkept, List.mem_append, List.mem_singleton] at hb
      rcases hb with hb | rfl
      · exact h.storable b hb
      · exact ha

/-- So they do to any such artifacts that are offered one after the other. -/
theorem run (h : Mirrors sink memory) {as : List Artifact} (has : ∀ a ∈ as, a.IsStorable) :
    (offerAll offer sink as).2 = (offerAll offer memory as).2 ∧
      Mirrors (offerAll offer sink as).1 (offerAll offer memory as).1 := by
  refine offerAll_of_step Mirrors Artifact.IsStorable (fun _ _ _ ha hrel => ?_) has h
  exact hrel.step ha

end Mirrors

/-! ## A file tree and a memory sink -/

namespace FileTree

/-- The places of the regular files below the root. -/
def files (tree : FileTree) : Set (List String) :=
  {place | place ≠ [] ∧ (tree.file? place).isSome}

/-- A regular file below the root has this path and these contents. -/
def HasFile (tree : FileTree) (root path contents : String) : Prop :=
  ∃ place, place ≠ [] ∧ Artifact.pathOf root place = path ∧ tree.file? place = some contents

section Kept

variable (hshows : Shows tree sink) (hmirrors : Mirrors sink memory)
include hshows hmirrors

/-- What the file of an artifact holds is kept under the name. -/
theorem file?_pathParts (ha : a.IsStorable) :
    tree.file? a.pathParts = (memory.get? a.name).map (·.contents) := by
  rw [hshows.files _ a.pathParts_ne_nil, hmirrors.get?_eq ha]

/-- **The files are those of the artifacts that are kept.** -/
theorem files_eq_image : tree.files = Artifact.pathParts '' {a | a ∈ memory.artifacts} := by
  ext place
  constructor
  · rintro ⟨hne, hsome⟩
    rw [hshows.files place hne, Option.isSome_iff_ne_none, Ne, DirectorySink.get?_eq_none_iff,
      not_not, hmirrors.files, List.map_map] at hsome
    exact List.mem_map.1 hsome
  · rintro ⟨a, hmem, rfl⟩
    refine ⟨a.pathParts_ne_nil, ?_⟩
    rw [file?_pathParts hshows hmirrors (hmirrors.storable a hmem),
      MemorySink.mem_artifacts_iff.1 hmem]
    rfl

/-- The files have paths of their own. -/
theorem injOn_pathOf (root : String) : Set.InjOn (Artifact.pathOf root) tree.files := by
  rw [files_eq_image hshows hmirrors]
  rintro _ ⟨a, ha, rfl⟩ _ ⟨b, hb, rfl⟩ hsame
  exact (hmirrors.storable a ha).pathParts_eq_of_pathBelow (hmirrors.storable b hb) hsame

/-- **The artifacts that are kept and the paths of the files correspond** one to one. -/
theorem bijOn_pathBelow (root : String) :
    Set.BijOn (·.pathBelow root) {a | a ∈ memory.artifacts}
      (Artifact.pathOf root '' tree.files) := by
  rw [files_eq_image hshows hmirrors, Set.image_image]
  refine Set.InjOn.bijOn_image fun a ha b hb hsame => ?_
  have hplace := (hmirrors.storable a ha).pathParts_eq_of_pathBelow (hmirrors.storable b hb) hsame
  have hname := ((hmirrors.storable a ha).pathParts_eq_iff (hmirrors.storable b hb)).1 hplace
  exact List.inj_on_of_nodup_map memory.distinct ha hb hname

/-- **What stands at the path of an artifact is what is kept under its name.** -/
theorem hasFile_pathBelow_iff (ha : a.IsStorable) (root contents : String) :
    tree.HasFile root (a.pathBelow root) contents ↔
      ∃ b, memory.get? a.name = some b ∧ b.contents = contents := by
  rw [← Option.map_eq_some_iff, ← file?_pathParts hshows hmirrors ha]
  constructor
  · rintro ⟨place, hne, hpath, hfile⟩
    have hmem : place ∈ tree.files := ⟨hne, by rw [hfile]; rfl⟩
    rw [files_eq_image hshows hmirrors] at hmem
    obtain ⟨b, hb, rfl⟩ := hmem
    rwa [← (hmirrors.storable b hb).pathParts_eq_of_pathBelow ha hpath]
  · intro hfile
    exact ⟨a.pathParts, a.pathParts_ne_nil, rfl, hfile⟩

end Kept

end FileTree

/-- **A directory keeps what memory keeps.** Nothing or an empty directory
stands at the root, and artifacts whose names make paths are offered one
after the other. The file system, the directory sink and a new memory sink
give the same answers, and they refuse an artifact only because its name
is taken. In the end the artifacts that are kept correspond one to one to
the regular files below the root: each file has a path of its own, and the
file at the path of an artifact has the contents kept under its name. And
no artifact ever changes a file that is there. -/
theorem directory_refines_memory (hvacant : tree.IsVacant) {as : List Artifact}
    (hstorable : ∀ a ∈ as, a.IsStorable) (root : String) :
    let stored := offerAll FileTree.store tree as
    let listed := offerAll offer ({} : DirectorySink) as
    let kept := offerAll offer ({} : MemorySink) as
    (stored.2 = kept.2 ∧ listed.2 = kept.2 ∧
      List.Forall₂ (fun a answer => answer = none ∨ answer = some (.alreadyExists a.name))
        as kept.2) ∧
    (Set.BijOn (·.pathBelow root) {a | a ∈ kept.1.artifacts}
        (Artifact.pathOf root '' stored.1.files) ∧
      Set.InjOn (Artifact.pathOf root) stored.1.files ∧
      ∀ a : Artifact, a.IsStorable → ∀ contents,
        stored.1.HasFile root (a.pathBelow root) contents ↔
          ∃ b, kept.1.get? a.name = some b ∧ b.contents = contents) ∧
    listed.1.files = kept.1.artifacts.map (fun a => (a.pathParts, a.contents)) ∧
    ∀ (a : Artifact) (place : List String) (contents : String),
      (∀ before : FileTree, before.file? place = some contents →
        (before.store a).1.file? place = some contents) ∧
      ∀ before : DirectorySink, before.get? place = some contents →
        (offer before a).1.get? place = some contents := by
  intro stored listed kept
  obtain ⟨hlisted, hshows⟩ := (Shows.of_isVacant hvacant).run as
  obtain ⟨hkept, hmirrors⟩ := Mirrors.empty.run hstorable
  have hanswer (memory : MemorySink) (a : Artifact) :
      (offer memory a).2 = none ∨ (offer memory a).2 = some (.alreadyExists a.name) := by
    rcases memory.submit_cases a with ⟨-, hkeeps⟩ | ⟨-, next, hkeeps, -⟩
    · exact Or.inr (by rw [offer_of_error memory hkeeps])
    · exact Or.inl (by rw [offer_of_ok memory hkeeps])
  refine ⟨⟨hlisted.trans hkept, hkept, forall₂_offerAll hanswer _ as⟩,
    ⟨FileTree.bijOn_pathBelow hshows hmirrors root, FileTree.injOn_pathOf hshows hmirrors root,
      fun a ha contents => FileTree.hasFile_pathBelow_iff hshows hmirrors ha root contents⟩,
    hmirrors.files, fun a place contents => ⟨fun before hfile => FileTree.file?_store hfile a,
      fun before hfile => DirectorySink.get?_offer hfile a⟩⟩

/-- Nothing stands at the root. -/
def FileTree.bare : FileTree where
  node? _ := none
  closed := by simp
  named := by simp

/-- A class, a class in a package of the same name, and the first once more. -/
def nested : List Artifact :=
  [⟨"p.A", ⟨"p.Cart"⟩, "class A"⟩, ⟨"p.A.B", ⟨"p.A.Cart"⟩, "class B"⟩,
    ⟨"p.A", ⟨"p.Shop"⟩, "class A2"⟩]

/-- The package makes a directory beside the file of the class, and the
class keeps its first contents. -/
theorem directory_refines_memory_nested :
    FileTree.bare.IsVacant ∧ (∀ a ∈ nested, a.IsStorable) ∧
    (offerAll FileTree.store .bare nested).2 = [none, none, some (.alreadyExists "p.A")] ∧
    (offerAll FileTree.store .bare nested).1.HasFile "src" "src/p/A.java" "class A" ∧
    (offerAll FileTree.store .bare nested).1.HasFile "src" "src/p/A/B.java" "class B" := by
  have hvacant : FileTree.bare.IsVacant := fun place node h => by cases h
  have hstorable : ∀ a ∈ nested, a.IsStorable := by decide
  have hanswers : (offerAll offer ({} : MemorySink) nested).2
      = [none, none, some (.alreadyExists "p.A")] := by decide
  obtain ⟨⟨hsame, -, -⟩, ⟨-, -, hfiles⟩, -, -⟩ :=
    directory_refines_memory hvacant hstorable "src"
  have hpath : nested[0].pathBelow "src" = "src/p/A.java" := by decide
  have hpath' : nested[1].pathBelow "src" = "src/p/A/B.java" := by decide
  refine ⟨hvacant, hstorable, hsame.trans hanswers, ?_, ?_⟩
  · rw [← hpath]
    exact (hfiles nested[0] (by decide) _).2 ⟨nested[0], by decide, rfl⟩
  · rw [← hpath']
    exact (hfiles nested[1] (by decide) _).2 ⟨nested[1], by decide, rfl⟩

end Companion
