import Companion.Proofs.Name.Dotted
import Companion.Sink.Directory
import Mathlib.Data.List.Basic

/-!
# Locations — where the files of artifacts are

The name of an artifact is cut at its dots into directories and a file,
and each of these at its slashes. Whatever the name is, no directory on
the way holds a dot, and the file does (`exists_of_location?`): a file is
never in the way of a directory. When the segments of the name are names
that a file system has, nothing is cut or left out (`location?_eq`), so
artifacts of different names are in different places (`pathParts_eq_iff`),
and different places have different paths (`eq_of_pathOf_eq`).
-/

namespace Companion

namespace Text

variable {c : Char} {cs piece : List Char}

/-! ## Cutting -/

/-- What a text is cut at is in none of the pieces. -/
theorem notMem_of_mem_splitOn (h : piece ∈ cs.splitOn c) : c ∉ piece := by
  induction cs generalizing piece with
  | nil => simp_all
  | cons x xs ih =>
    obtain ⟨first, rest, hrest⟩ := List.exists_cons_of_ne_nil (List.splitOn_ne_nil c xs)
    rw [List.splitOn_cons_eq_if_modifyHead, hrest, List.modifyHead_cons] at h
    rw [hrest] at ih
    split at h
    · rcases List.mem_cons.1 h with rfl | h
      · exact List.not_mem_nil
      · exact ih h
    · next hne =>
      rcases List.mem_cons.1 h with rfl | h
      · rw [List.mem_cons, not_or]
        exact ⟨fun hx => hne (by simp [hx]), ih List.mem_cons_self⟩
      · exact ih (List.mem_cons_of_mem _ h)

/-- A character of a part stands in the text that is joined from the parts. -/
theorem mem_intercalate_of_mem {sep : List Char} {l : List (List Char)} {d : Char}
    (h : piece ∈ l) (hd : d ∈ piece) : d ∈ sep.intercalate l := by
  induction l with
  | nil => cases h
  | cons a l ih =>
    rcases l with - | ⟨b, l⟩
    · rw [List.intercalate_singleton, ← List.mem_singleton.1 h]
      exact hd
    · rw [List.intercalate_cons_cons, List.mem_append, List.mem_append]
      rcases List.mem_cons.1 h with rfl | h
      · exact Or.inl (Or.inl hd)
      · exact Or.inr (ih h)

/-- So the pieces have no other characters than the text. -/
theorem mem_of_mem_splitOn {d : Char} (h : piece ∈ cs.splitOn c) (hd : d ∈ piece) : d ∈ cs := by
  have hjoined : [c].intercalate (cs.splitOn c) = cs := List.intercalate_splitOn c
  rw [← hjoined]
  exact mem_intercalate_of_mem h hd

/-- An ending without the separator stays with the last piece. -/
theorem exists_splitOn_append {ending : List Char} (h : c ∉ ending) (cs : List Char) :
    ∃ before last, cs.splitOn c = before ++ [last] ∧
      (cs ++ ending).splitOn c = before ++ [last ++ ending] := by
  induction cs with
  | nil => exact ⟨[], [], List.splitOn_nil c, List.splitOn_eq_singleton h⟩
  | cons x xs ih =>
    obtain ⟨before, last, hpieces, hlonger⟩ := ih
    rw [List.cons_append, List.splitOn_cons_eq_if_modifyHead, List.splitOn_cons_eq_if_modifyHead,
      hpieces, hlonger]
    split
    · exact ⟨[] :: before, last, rfl, rfl⟩
    · cases before with
      | nil => exact ⟨[], x :: last, rfl, rfl⟩
      | cons first before => exact ⟨(x :: first) :: before, last, rfl, rfl⟩

end Text

open Text

namespace Artifact

variable {a b : Artifact} {place : List String}

/-! ## Any artifact -/

/-- The names that a part of a path is made of: what stands between its slashes. -/
def namesOf (part : String) : List String :=
  ((part.toList.splitOn '/').filter (!·.isEmpty)).map String.ofList

/-- The place of an artifact has the names of all parts of its path. -/
theorem eq_of_location? (h : a.location? = some place) :
    place = a.pathParts.flatMap namesOf := by
  unfold location? at h
  split at h
  · cases h
  · exact (Option.some.inj h).symm

/-- An artifact has a place when no part of its path starts with a slash. -/
theorem location?_eq_flatMap (h : ∀ part ∈ a.pathParts, part.toList.head? ≠ some '/') :
    a.location? = some (a.pathParts.flatMap namesOf) := by
  have hled : a.pathParts.any (fun part => part.toList.head? = some '/') = false := by
    rw [List.any_eq_false]
    intro part hpart
    rw [decide_eq_true_eq]
    exact h part hpart
  rw [location?, hled, if_neg Bool.false_ne_true]
  rfl

/-- A name of a part without dots has none. -/
theorem dot_notMem_of_mem_namesOf {part name : String} (hpart : '.' ∉ part.toList)
    (hname : name ∈ namesOf part) : '.' ∉ name.toList := by
  obtain ⟨piece, hpiece, rfl⟩ := List.mem_map.1 hname
  rw [String.toList_ofList]
  exact fun hdot => hpart (mem_of_mem_splitOn (List.mem_filter.1 hpiece).1 hdot)

/-- The path has a part for the file. -/
theorem pathParts_ne_nil (a : Artifact) : a.pathParts ≠ [] :=
  List.append_ne_nil_of_right_ne_nil _ (List.cons_ne_nil _ _)

/-- A path leaves out no segment when none of those before the last is empty. -/
theorem pathParts_of_ne_nil (h : ∀ segment ∈ a.segments.dropLast, segment ≠ []) :
    a.pathParts = a.segments.dropLast.map String.ofList ++ [a.simpleName ++ ".java"] := by
  have hall : a.segments.dropLast.filter (!·.isEmpty) = a.segments.dropLast := by
    refine List.filter_eq_self.2 fun segment hsegment => ?_
    simpa using h segment hsegment
  rw [pathParts, hall]

/-- The last segment of a name is the simple name. -/
theorem dropLast_concat_simpleName (a : Artifact) :
    a.segments.dropLast ++ [a.simpleName.toList] = a.segments := by
  have hne : a.segments ≠ [] := List.splitOn_ne_nil '.' _
  rw [simpleName, String.toList_ofList, List.getLastD_eq_getLast?,
    List.getLast?_eq_some_getLast hne]
  exact List.dropLast_concat_getLast hne

/-- So it is one of the segments. -/
theorem simpleName_mem (a : Artifact) : a.simpleName.toList ∈ a.segments := by
  rw [← dropLast_concat_simpleName]
  exact List.mem_concat_self

/-- And it holds no dot. -/
theorem dot_notMem_simpleName (a : Artifact) : '.' ∉ a.simpleName.toList :=
  notMem_of_mem_splitOn a.simpleName_mem

/-- **The directories of an artifact hold no dot, and its file has the
ending of a source file.** -/
theorem exists_file_of_location? (h : a.location? = some place) :
    ∃ directories file, place = directories ++ [file ++ ".java"] ∧
      ∀ name ∈ directories, '.' ∉ name.toList := by
  -- the ending of the file has no slash, so it stays with the last name
  obtain ⟨before, last, hsimple, hfile⟩ :=
    exists_splitOn_append (show '/' ∉ ".java".toList by decide) a.simpleName.toList
  have hnames : namesOf (a.simpleName ++ ".java")
      = (before.filter (!·.isEmpty)).map String.ofList ++ [String.ofList last ++ ".java"] := by
    rw [namesOf, String.toList_append, hfile, List.filter_append, List.map_append]
    simp
  have hplace := eq_of_location? h
  rw [pathParts, List.flatMap_append, List.flatMap_singleton, hnames, ← List.append_assoc] at hplace
  refine ⟨_, _, hplace, fun name hname => ?_⟩
  rcases List.mem_append.1 hname with hname | hname
  · obtain ⟨part, hpart, hname⟩ := List.mem_flatMap.1 hname
    obtain ⟨segment, hsegment, rfl⟩ := List.mem_map.1 hpart
    refine dot_notMem_of_mem_namesOf ?_ hname
    rw [String.toList_ofList]
    exact notMem_of_mem_splitOn (List.dropLast_subset _ (List.mem_filter.1 hsegment).1)
  · refine dot_notMem_of_mem_namesOf a.dot_notMem_simpleName ?_
    rw [namesOf, hsimple, List.filter_append, List.map_append]
    exact List.mem_append_left _ hname

/-- So the file holds a dot. -/
theorem exists_of_location? (h : a.location? = some place) :
    ∃ directories file, place = directories ++ [file] ∧
      (∀ name ∈ directories, '.' ∉ name.toList) ∧ '.' ∈ file.toList := by
  obtain ⟨directories, file, hplace, hdirectories⟩ := exists_file_of_location? h
  exact ⟨directories, _, hplace, hdirectories, by simp⟩

/-! ## Artifacts that can be stored -/

/-- **An artifact whose name makes a path**: the segments are names of a
directory or a file, and so is what the file is called with its ending. -/
structure IsStorable (a : Artifact) : Prop where
  /-- The segments have characters, and no slash or null character among them. -/
  named : ∀ segment ∈ a.segments, segment ≠ [] ∧ '/' ∉ segment ∧ '\x00' ∉ segment
  /-- No directory and no file has too long a name. -/
  short : ∀ part ∈ a.pathParts, part.utf8ByteSize ≤ DirectorySink.nameLimit

instance (a : Artifact) : Decidable a.IsStorable :=
  decidable_of_iff ((∀ segment ∈ a.segments, segment ≠ [] ∧ '/' ∉ segment ∧ '\x00' ∉ segment) ∧
    ∀ part ∈ a.pathParts, part.utf8ByteSize ≤ DirectorySink.nameLimit)
    ⟨fun h => ⟨h.1, h.2⟩, fun h => ⟨h.named, h.short⟩⟩

namespace IsStorable

/-- No segment is left out of the path. -/
theorem pathParts_eq (h : a.IsStorable) :
    a.pathParts = a.segments.dropLast.map String.ofList ++ [a.simpleName ++ ".java"] :=
  pathParts_of_ne_nil fun segment hsegment =>
    (h.named segment (List.dropLast_subset _ hsegment)).1

/-- The parts of the path are names. -/
theorem named_pathParts (h : a.IsStorable) {part : String} (hpart : part ∈ a.pathParts) :
    part ≠ "" ∧ '/' ∉ part.toList ∧ '\x00' ∉ part.toList := by
  rw [h.pathParts_eq, List.mem_append, List.mem_singleton] at hpart
  rcases hpart with hpart | rfl
  · obtain ⟨segment, hsegment, rfl⟩ := List.mem_map.1 hpart
    have hnamed := h.named segment (List.dropLast_subset _ hsegment)
    rw [Ne, ← String.toList_eq_nil_iff, String.toList_ofList]
    exact hnamed
  · obtain ⟨-, hslash, hnull⟩ := h.named _ a.simpleName_mem
    refine ⟨by simp, ?_, ?_⟩
    · rw [String.toList_append, List.mem_append, not_or]
      exact ⟨hslash, by decide⟩
    · rw [String.toList_append, List.mem_append, not_or]
      exact ⟨hnull, by decide⟩

/-- **The place of the file is the path as it stands.** -/
theorem location?_eq (h : a.IsStorable) : a.location? = some a.pathParts := by
  have hnames : ∀ part ∈ a.pathParts, namesOf part = [part] := by
    intro part hpart
    obtain ⟨hne, hslash, -⟩ := h.named_pathParts hpart
    rw [namesOf, List.splitOn_eq_singleton hslash]
    simp [hne]
  have hflat : a.pathParts.flatMap namesOf = a.pathParts := by
    rw [List.flatMap_congr hnames, List.flatMap_singleton']
  rw [location?_eq_flatMap, hflat]
  exact fun part hpart hhead => (h.named_pathParts hpart).2.1 (List.mem_of_mem_head? hhead)

/-- A file system can have all names on it. -/
theorem isFileName (h : a.IsStorable) : a.pathParts.all DirectorySink.isFileName = true := by
  rw [List.all_eq_true]
  intro part hpart
  have hnull := (h.named_pathParts hpart).2.2
  simp [DirectorySink.isFileName, h.short part hpart, hnull]

/-- **Artifacts in one place have one name**, and those of one name are in
one place. -/
theorem pathParts_eq_iff (ha : a.IsStorable) (hb : b.IsStorable) :
    a.pathParts = b.pathParts ↔ a.name = b.name := by
  constructor
  · intro h
    rw [ha.pathParts_eq, hb.pathParts_eq] at h
    obtain ⟨hpackage, hfile⟩ := List.append_inj' h rfl
    have hbefore : a.segments.dropLast = b.segments.dropLast :=
      List.map_injective_iff.2 (fun _ _ => String.ofList_injective) hpackage
    have hlast : a.simpleName.toList = b.simpleName.toList := by
      have hlists := congrArg String.toList (List.singleton_inj.1 hfile)
      rw [String.toList_append, String.toList_append] at hlists
      exact List.append_cancel_right hlists
    have hsegments : a.segments = b.segments := by
      rw [← dropLast_concat_simpleName, hbefore, hlast, dropLast_concat_simpleName]
    have hjoined := congrArg ['.'].intercalate hsegments
    rw [segments, segments, List.intercalate_splitOn, List.intercalate_splitOn] at hjoined
    exact String.toList_inj.1 hjoined
  · intro h
    have hsegments : a.segments = b.segments := by rw [segments, segments, h]
    rw [ha.pathParts_eq, hb.pathParts_eq, simpleName, simpleName, hsegments]

end IsStorable

/-! ## Paths -/

/-- The path of a place, when the root has the path `root`. -/
def pathOf (root : String) (place : List String) : String := place.foldl descend root

/-- The path of an artifact is that of the parts of its path. -/
theorem pathBelow_eq (root : String) (a : Artifact) : a.pathBelow root = pathOf root a.pathParts :=
  rfl

/-- A name that can stand between two slashes of a path. -/
def IsPart (name : String) : Prop := name ≠ "" ∧ '/' ∉ name.toList

variable {root name : String} {names : List String}

/-- A part is no path of its own. -/
theorem IsPart.head?_ne (h : IsPart name) : name.toList.head? ≠ some '/' :=
  fun hhead => h.2 (List.mem_of_mem_head? hhead)

/-- Behind a text that does not end in a slash, every part stands behind one. -/
theorem toList_pathOf_of_last (hroot : root ≠ "") (hlast : root.toList.getLast? ≠ some '/')
    (h : ∀ n ∈ names, IsPart n) :
    (pathOf root names).toList = ['/'].intercalate (root.toList :: names.map String.toList) := by
  induction names generalizing root with
  | nil => simp [pathOf]
  | cons n names ih =>
    have hn := h n List.mem_cons_self
    have hstep : descend root n = root ++ "/" ++ n := by
      simp [descend, hn.head?_ne, hroot, hlast]
    have hne : root ++ "/" ++ n ≠ "" := by
      rw [Ne, ← String.toList_eq_nil_iff]
      simp
    have hend : (root ++ "/" ++ n).toList.getLast? ≠ some '/' := by
      have hnil : n.toList ≠ [] := by simpa using hn.1
      rw [String.toList_append, List.getLast?_append_of_ne_nil _ hnil]
      exact fun hslash => hn.2 (List.mem_of_mem_getLast? hslash)
    have hrest := ih hne hend fun m hm => h m (List.mem_cons_of_mem n hm)
    rw [pathOf, List.foldl_cons, hstep]
    rw [pathOf] at hrest
    rw [hrest]
    cases names <;> simp

/-- The path of the root with the slash that separates it from what is below. -/
def stem (root : String) : List Char :=
  if root = "" ∨ root.toList.getLast? = some '/' then root.toList else root.toList ++ ['/']

/-- One goes to a part that is no path of its own behind the separator. -/
theorem toList_descend (root : String) {part : String} (h : part.toList.head? ≠ some '/') :
    (descend root part).toList = stem root ++ part.toList := by
  by_cases hroot : root = "" ∨ root.toList.getLast? = some '/'
  · simp [descend, stem, h, hroot]
  · simp [descend, stem, h, hroot]

/-- **A path is the root's, and then the names on the way** with slashes
between them. -/
theorem toList_pathOf (hne : names ≠ []) (h : ∀ n ∈ names, IsPart n) :
    (pathOf root names).toList = stem root ++ ['/'].intercalate (names.map String.toList) := by
  obtain ⟨n, rest, rfl⟩ := List.exists_cons_of_ne_nil hne
  have hn := h n List.mem_cons_self
  have hnil : n.toList ≠ [] := by simpa using hn.1
  have hstep : (descend root n).toList = stem root ++ n.toList := toList_descend root hn.head?_ne
  have hfirst : descend root n ≠ "" := by
    rw [Ne, ← String.toList_eq_nil_iff, hstep]
    simp [hn.1]
  have hlast : (descend root n).toList.getLast? ≠ some '/' := by
    rw [hstep, List.getLast?_append_of_ne_nil _ hnil]
    exact fun hslash => hn.2 (List.mem_of_mem_getLast? hslash)
  have hrest := toList_pathOf_of_last hfirst hlast fun m hm => h m (List.mem_cons_of_mem n hm)
  rw [pathOf, List.foldl_cons]
  rw [pathOf] at hrest
  rw [hrest, hstep]
  cases rest <;> simp

/-- **Different places have different paths.** -/
theorem eq_of_pathOf_eq {names' : List String} (hne : names ≠ []) (hne' : names' ≠ [])
    (h : ∀ n ∈ names, IsPart n) (h' : ∀ n ∈ names', IsPart n)
    (hsame : pathOf root names = pathOf root names') : names = names' := by
  have hsplit {l : List String} (hl : l ≠ []) (hparts : ∀ n ∈ l, IsPart n) :
      (['/'].intercalate (l.map String.toList)).splitOn '/' = l.map String.toList := by
    refine List.splitOn_intercalate '/' (fun cs hcs => ?_) (by simpa using hl)
    obtain ⟨n, hn, rfl⟩ := List.mem_map.1 hcs
    exact (hparts n hn).2
  have hlists := congrArg String.toList hsame
  rw [toList_pathOf hne h, toList_pathOf hne' h'] at hlists
  have hjoined := List.append_cancel_left hlists
  have hmap : names.map String.toList = names'.map String.toList := by
    rw [← hsplit hne h, hjoined, hsplit hne' h']
  exact List.map_injective_iff.2 (fun _ _ => String.toList_inj.1) hmap

/-- **Artifacts with one path are in one place.** -/
theorem IsStorable.pathParts_eq_of_pathBelow (ha : a.IsStorable) (hb : b.IsStorable)
    (h : a.pathBelow root = b.pathBelow root) : a.pathParts = b.pathParts := by
  rw [pathBelow_eq, pathBelow_eq] at h
  refine eq_of_pathOf_eq a.pathParts_ne_nil b.pathParts_ne_nil (fun part hpart => ?_)
    (fun part hpart => ?_) h
  · exact ⟨(ha.named_pathParts hpart).1, (ha.named_pathParts hpart).2.1⟩
  · exact ⟨(hb.named_pathParts hpart).1, (hb.named_pathParts hpart).2.1⟩

end Artifact

end Companion
