import Companion.Proofs.Generator.Distinct
import Companion.Proofs.Sink.Location
import Companion.Round.Json
import Companion.Settings.Json

/-!
# Containment — paths that stay below their root

The path of an artifact goes from the root to one part after the other.
No part leads upwards, since the dots of the name are where it is cut
(`up_notMem_of_location?`). But a part that starts with a slash is a path
of its own, and the root is lost (`pathBelow_of_led`). So a path stays
below every root exactly when none of its parts starts with a slash
(`staysBelow_iff`), and what a round gives stays there when no
declaration of it brings a slash along (`stays_below_root_iff`).
-/

namespace Companion

open Text

namespace Artifact

variable {a : Artifact} {root part path : String} {parts : List String}

/-- **A path stays below a root** when it is the path of the root with at
least one name behind it, none of which leads upwards. -/
def StaysBelow (root path : String) : Prop :=
  ∃ below : String, path.toList = stem root ++ below.toList ∧ below.toList.head? ≠ some '/' ∧
    namesOf below ≠ [] ∧ ".." ∉ namesOf below

/-! ## Names of longer paths -/

/-- A slash in a path stands between names. -/
theorem namesOf_ofList_append (before behind : List Char) :
    namesOf (String.ofList (before ++ '/' :: behind))
      = namesOf (String.ofList before) ++ namesOf (String.ofList behind) := by
  simp only [namesOf, String.toList_ofList, List.splitOn_append_cons_self, List.filter_append,
    List.map_append]

/-- So the names on the way to what is below a part are those of the part,
and then the others. -/
theorem namesOf_stem_append (hpart : part ≠ "") (behind : List Char) :
    namesOf (String.ofList (stem part ++ behind))
      = namesOf part ++ namesOf (String.ofList behind) := by
  by_cases hlast : part.toList.getLast? = some '/'
  · -- the slash at the end of the part has no name behind it
    obtain ⟨before, hbefore⟩ := List.getLast?_eq_some_iff.1 hlast
    have hnames : namesOf part = namesOf (String.ofList before) := by
      have h := namesOf_ofList_append before []
      rwa [← hbefore, String.ofList_toList, show namesOf (String.ofList []) = [] from rfl,
        List.append_nil] at h
    rw [stem, if_pos (Or.inr hlast), hbefore, List.append_assoc, List.singleton_append,
      namesOf_ofList_append, hnames]
  · rw [stem, if_neg (not_or.2 ⟨hpart, hlast⟩), List.append_assoc, List.singleton_append,
      namesOf_ofList_append, String.ofList_toList]

/-- The separator behind a path is that of its last part. -/
theorem stem_of_toList_eq {before : List Char} (hpart : part ≠ "")
    (h : path.toList = before ++ part.toList) : stem path = before ++ stem part := by
  have hnil : part.toList ≠ [] := by simpa using hpart
  have hpath : path ≠ "" := by
    rw [Ne, ← String.toList_eq_nil_iff, h]
    exact List.append_ne_nil_of_right_ne_nil _ hnil
  have hlast : path.toList.getLast? = part.toList.getLast? := by
    rw [h, List.getLast?_append_of_ne_nil _ hnil]
  simp only [stem, hpath, hpart, hlast, false_or]
  split
  · exact h
  · rw [h, List.append_assoc]

/-- And what is below a part starts as the part does. -/
theorem head?_stem_append (hpart : part ≠ "") (behind : List Char) :
    (stem part ++ behind).head? = part.toList.head? := by
  have hnil : part.toList ≠ [] := by simpa using hpart
  unfold stem
  split
  · exact List.head?_append_of_ne_nil _ hnil
  · rw [List.append_assoc]
    exact List.head?_append_of_ne_nil _ hnil

/-! ## Parts that are no paths of their own -/

/-- A part that a path goes on with: it is not empty, and no path of its own. -/
def GoesOn (part : String) : Prop := part ≠ "" ∧ part.toList.head? ≠ some '/'

/-- The first part stands for itself. -/
theorem pathOf_empty_cons (h : GoesOn part) (parts : List String) :
    pathOf "" (part :: parts) = pathOf part parts := by
  have hfirst : descend "" part = part := String.toList_inj.1 (toList_descend "" h.2)
  rw [pathOf, List.foldl_cons, hfirst, pathOf]

/-- **The root stands in front of the path**, and what is behind it does not
depend on the root. -/
theorem toList_pathOf_eq (hne : parts ≠ []) (h : ∀ part ∈ parts, GoesOn part) (root : String) :
    (pathOf root parts).toList = stem root ++ (pathOf "" parts).toList := by
  induction parts generalizing root with
  | nil => exact absurd rfl hne
  | cons part parts ih =>
    have hpart := h part List.mem_cons_self
    have hdescend := toList_descend root hpart.2
    rw [pathOf_empty_cons hpart]
    by_cases hlast : parts = []
    · subst hlast
      exact hdescend
    · have hrest := ih hlast fun p hp => h p (List.mem_cons_of_mem _ hp)
      calc (pathOf (descend root part) parts).toList
          = stem (descend root part) ++ (pathOf "" parts).toList := hrest _
        _ = stem root ++ (stem part ++ (pathOf "" parts).toList) := by
          rw [stem_of_toList_eq hpart.1 hdescend, List.append_assoc]
        _ = stem root ++ (pathOf part parts).toList := by rw [hrest part]

/-- **The names on the way are those of the parts.** -/
theorem namesOf_pathOf (hne : parts ≠ []) (h : ∀ part ∈ parts, GoesOn part) :
    namesOf (pathOf "" parts) = parts.flatMap namesOf := by
  induction parts with
  | nil => exact absurd rfl hne
  | cons part parts ih =>
    have hpart := h part List.mem_cons_self
    rw [pathOf_empty_cons hpart, List.flatMap_cons]
    by_cases hlast : parts = []
    · subst hlast
      exact (List.append_nil _).symm
    · have hparts : ∀ p ∈ parts, GoesOn p := fun p hp => h p (List.mem_cons_of_mem _ hp)
      rw [← ih hlast hparts, ← String.ofList_toList (s := pathOf part parts),
        toList_pathOf_eq hlast hparts, namesOf_stem_append hpart.1, String.ofList_toList]

/-- The path starts as its first part does, so it is relative. -/
theorem head?_pathOf_ne (hne : parts ≠ []) (h : ∀ part ∈ parts, GoesOn part) :
    (pathOf "" parts).toList.head? ≠ some '/' := by
  obtain ⟨part, parts, rfl⟩ := List.exists_cons_of_ne_nil hne
  have hpart := h part List.mem_cons_self
  rw [pathOf_empty_cons hpart]
  by_cases hlast : parts = []
  · subst hlast
    exact hpart.2
  · rw [toList_pathOf_eq hlast fun p hp => h p (List.mem_cons_of_mem _ hp),
      head?_stem_append hpart.1]
    exact hpart.2

/-! ## Parts that are -/

/-- A path that starts with a slash starts with one, however it goes on. -/
theorem head?_pathOf_eq (h : path.toList.head? = some '/') (parts : List String) :
    (pathOf path parts).toList.head? = some '/' := by
  induction parts generalizing path with
  | nil => exact h
  | cons part parts ih =>
    refine ih ?_
    by_cases hpart : part.toList.head? = some '/'
    · rwa [descend, if_pos hpart]
    · have hne : path ≠ "" := by
        rintro rfl
        cases h
      rwa [toList_descend path hpart, head?_stem_append hne]

/-- **A part that starts with a slash replaces the root.** -/
theorem pathOf_of_led (hmem : part ∈ parts) (hpart : part.toList.head? = some '/')
    (root : String) :
    pathOf root parts = pathOf "" parts ∧ (pathOf root parts).toList.head? = some '/' := by
  obtain ⟨before, behind, rfl⟩ := List.append_of_mem hmem
  have hpath (root : String) : pathOf root (before ++ part :: behind) = pathOf part behind := by
    rw [pathOf, List.foldl_append, List.foldl_cons, descend, if_pos hpart, pathOf]
  rw [hpath root, hpath ""]
  exact ⟨rfl, head?_pathOf_eq hpart behind⟩

/-! ## Artifacts -/

/-- The file starts with a slash when the simple name does. -/
theorem head?_file_eq_iff : (a.simpleName ++ ".java").toList.head? = some '/' ↔
    a.simpleName.toList.head? = some '/' := by
  rw [String.toList_append]
  cases a.simpleName.toList <;> simp

/-- **A part starts with a slash when a segment of the name does.** -/
theorem exists_led_part_iff :
    (∃ part ∈ a.pathParts, part.toList.head? = some '/') ↔
      ∃ segment ∈ a.segments, segment.head? = some '/' := by
  constructor
  · rintro ⟨part, hpart, hhead⟩
    rw [pathParts, List.mem_append, List.mem_singleton] at hpart
    rcases hpart with hpart | rfl
    · obtain ⟨segment, hsegment, rfl⟩ := List.mem_map.1 hpart
      rw [String.toList_ofList] at hhead
      exact ⟨segment, List.dropLast_subset _ (List.mem_filter.1 hsegment).1, hhead⟩
    · exact ⟨_, a.simpleName_mem, head?_file_eq_iff.1 hhead⟩
  · rintro ⟨segment, hsegment, hhead⟩
    rw [← dropLast_concat_simpleName, List.mem_append, List.mem_singleton] at hsegment
    rcases hsegment with hsegment | rfl
    · -- a segment with a first character is not left out
      have hkept : segment ∈ a.segments.dropLast.filter (!·.isEmpty) := by
        refine List.mem_filter.2 ⟨hsegment, ?_⟩
        cases segment with
        | nil => cases hhead
        | cons => rfl
      refine ⟨String.ofList segment, ?_, by rwa [String.toList_ofList]⟩
      exact List.mem_append_left _ (List.mem_map_of_mem hkept)
    · exact ⟨_, List.mem_concat_self, head?_file_eq_iff.2 hhead⟩

/-- No part is empty. -/
theorem ne_empty_of_mem_pathParts (hpart : part ∈ a.pathParts) : part ≠ "" := by
  rw [pathParts, List.mem_append, List.mem_singleton] at hpart
  rcases hpart with hpart | rfl
  · obtain ⟨segment, hsegment, rfl⟩ := List.mem_map.1 hpart
    have hne := (List.mem_filter.1 hsegment).2
    rw [Ne, ← String.toList_eq_nil_iff, String.toList_ofList]
    rintro rfl
    cases hne
  · simp

/-- The parts of a name whose segments start with no slash. -/
theorem goesOn_of_mem_pathParts (h : ∀ segment ∈ a.segments, segment.head? ≠ some '/')
    (hpart : part ∈ a.pathParts) : GoesOn part := by
  refine ⟨ne_empty_of_mem_pathParts hpart, fun hhead => ?_⟩
  obtain ⟨segment, hsegment, hled⟩ := exists_led_part_iff.1 ⟨part, hpart, hhead⟩
  exact h segment hsegment hled

/-- **Nothing on the way to an artifact leads upwards.** -/
theorem up_notMem_of_location? {place : List String} (h : a.location? = some place) :
    ".." ∉ place := by
  obtain ⟨directories, file, rfl, hdirectories⟩ := exists_file_of_location? h
  rw [List.mem_append, List.mem_singleton, not_or]
  constructor
  · exact fun hup => hdirectories ".." hup (by decide)
  · -- two dots are too short for the ending of a source file
    intro hup
    have hlength := congrArg (fun text : String => text.toList.length) hup
    simp only [String.toList_append, List.length_append] at hlength
    have hending : ".java".toList.length = 5 := rfl
    have hdots : "..".toList.length = 2 := rfl
    omega

/-- **A path stays below its root** when no segment of the name starts with
a slash. -/
theorem staysBelow_of_forall (h : ∀ segment ∈ a.segments, segment.head? ≠ some '/')
    (root : String) : StaysBelow root (a.pathBelow root) := by
  have hparts : ∀ part ∈ a.pathParts, GoesOn part := fun part hpart =>
    goesOn_of_mem_pathParts h hpart
  have hne := a.pathParts_ne_nil
  have hplace := location?_eq_flatMap fun part hpart => (hparts part hpart).2
  have hnames : namesOf (a.pathBelow "") = a.pathParts.flatMap namesOf := namesOf_pathOf hne hparts
  refine ⟨a.pathBelow "", toList_pathOf_eq hne hparts root, head?_pathOf_ne hne hparts, ?_, ?_⟩
  · obtain ⟨directories, file, hfile, -⟩ := exists_file_of_location? hplace
    rw [hnames, hfile]
    exact List.append_ne_nil_of_right_ne_nil _ (List.cons_ne_nil _ _)
  · rw [hnames]
    exact up_notMem_of_location? hplace

/-- **A segment that starts with a slash loses the root**: the path is one
from the top, and the same for every root. -/
theorem pathBelow_of_led (h : ∃ segment ∈ a.segments, segment.head? = some '/') (root : String) :
    a.pathBelow root = a.pathBelow "" ∧ (a.pathBelow root).toList.head? = some '/' := by
  obtain ⟨part, hpart, hhead⟩ := exists_led_part_iff.2 h
  exact pathOf_of_led hpart hhead root

/-- **A path stays below every root** exactly when no segment of the name
starts with a slash. -/
theorem staysBelow_iff : (∀ root, StaysBelow root (a.pathBelow root)) ↔
    ∀ segment ∈ a.segments, segment.head? ≠ some '/' := by
  refine ⟨fun h segment hsegment hhead => ?_, staysBelow_of_forall⟩
  -- below the root without a name, such a path is not relative
  obtain ⟨below, hpath, hbelow, -, -⟩ := h ""
  have hstem : stem "" = [] := rfl
  rw [hstem, List.nil_append] at hpath
  have hled := (pathBelow_of_led ⟨segment, hsegment, hhead⟩ "").2
  rw [hpath] at hled
  exact hbelow hled

/-- A name without slashes makes such a path. -/
theorem head?_ne_of_slash_notMem (h : '/' ∉ a.name.toList) :
    ∀ segment ∈ a.segments, segment.head? ≠ some '/' :=
  fun _ hsegment hhead => h (mem_of_mem_splitOn hsegment (List.mem_of_mem_head? hhead))

end Artifact

/-! ## What a round gives -/

namespace Settings

variable {s : Settings} {r : Round}

/-- The name of a companion has no slash when nothing it is made of has one. -/
theorem slash_notMem_qualified_nameOf (hleading : '/' ∉ s.leading.toList)
    (hplain : ∀ d ∈ r.declarations, '/' ∉ d.name.toList ∧ '/' ∉ d.package.toList) {id : Nat}
    (hid : id ∈ r.entities) : '/' ∉ (s.nameOf r id).qualified.toList := by
  obtain ⟨d, hget, -⟩ := Round.exists_of_mem_entities hid
  have hpackage : '/' ∉ (r.outermostPackage id).toList := by
    obtain ⟨e, he, hsame⟩ := Round.exists_of_outermostPackage hget
    rw [← hsame]
    exact (hplain e he).2
  have hsimple : '/' ∉ (s.nameOf r id).simpleName.toList :=
    notMem_simpleName (by decide) hleading fun e he => (hplain e (Round.mem_of_mem_chain he)).1
  unfold CompanionName.qualified
  split
  · exact hsimple
  · simp only [String.toList_append, List.mem_append, not_or]
    exact ⟨⟨hpackage, by decide⟩, hsimple⟩

/-- **Which files stay below the root.** Each artifact of a round is named
for the companion of an entity, and the path that a directory gives it
stays below every root exactly when no segment of that name starts with a
slash. When one does, the path starts with a slash and is the same for
every root. None does when the settings and the declarations of the round
have no slash in their names and packages. -/
theorem stays_below_root_iff (s : Settings) (r : Round) (a : Artifact)
    (ha : a ∈ (s.process r).artifacts) :
    (∃ id ∈ r.generated, a.name = (s.nameOf r id).qualified) ∧
    ((∀ root, Artifact.StaysBelow root (a.pathBelow root)) ↔
      ∀ segment ∈ a.segments, segment.head? ≠ some '/') ∧
    ((∃ segment ∈ a.segments, segment.head? = some '/') →
      ∀ root, a.pathBelow root = a.pathBelow "" ∧ (a.pathBelow root).toList.head? = some '/') ∧
    (('/' ∉ s.leading.toList ∧
        ∀ d ∈ r.declarations, '/' ∉ d.name.toList ∧ '/' ∉ d.package.toList) →
      ∀ root, Artifact.StaysBelow root (a.pathBelow root)) := by
  have hname : ∃ id ∈ r.generated, a.name = (s.nameOf r id).qualified := by
    have hmem := List.mem_map_of_mem (f := Artifact.name) ha
    rw [names_process] at hmem
    obtain ⟨id, hid, hsame⟩ := List.mem_map.1 hmem
    exact ⟨id, hid, hsame.symm⟩
  refine ⟨hname, Artifact.staysBelow_iff, Artifact.pathBelow_of_led, ?_⟩
  rintro ⟨hleading, hplain⟩
  obtain ⟨id, hid, hsame⟩ := hname
  have hslash := slash_notMem_qualified_nameOf hleading hplain (List.mem_filter.1 hid).1
  rw [← hsame] at hslash
  exact Artifact.staysBelow_iff.2 (Artifact.head?_ne_of_slash_notMem hslash)

/-- The entity `A` in the given package. -/
def resident (package : String) : Round where
  declarations := [{ name := "A", package := package,
                     fields := [{ name := "id", type := .primitive .long }], entity := some {} }]
  ends := ends_of_all rfl

/-- In `p.q`, its companion goes to the directories `p` and `q`. -/
theorem stays_below_root_resident :
    ∃ a ∈ (({} : Settings).process (resident "p.q")).artifacts, a.name = "p.q.RealmA" ∧
      a.pathBelow "out" = "out/p/q/RealmA.java" ∧
      Artifact.StaysBelow "out" (a.pathBelow "out") := by
  have hfile : ∃ a ∈ (({} : Settings).process (resident "p.q")).artifacts, a.name = "p.q.RealmA" ∧
      a.pathBelow "out" = "out/p/q/RealmA.java" := by
    decide +kernel
  obtain ⟨a, ha, hname, hpath⟩ := hfile
  have hplain : '/' ∉ ({} : Settings).leading.toList ∧
      ∀ d ∈ (resident "p.q").declarations, '/' ∉ d.name.toList ∧ '/' ∉ d.package.toList := by
    decide
  exact ⟨a, ha, hname, hpath, (stays_below_root_iff {} (resident "p.q") a ha).2.2.2 hplain "out"⟩

/-- But a package may be `/etc`: then the file is not below `out`, though
round and settings were read from texts. -/
theorem leaves_root_resident :
    Settings.ofText "\x7b\x7d" = .ok {} ∧
    Round.ofText ("\x7b\"declarations\": [\x7b\"name\": \"A\", \"package\": \"/etc\", " ++
      "\"fields\": [\x7b\"name\": \"id\", \"type\": \"long\"\x7d], \"entity\": \x7b\x7d\x7d]\x7d")
      = .ok (resident "/etc") ∧
    ∃ a ∈ (({} : Settings).process (resident "/etc")).artifacts, a.name = "/etc.RealmA" ∧
      a.pathBelow "out" = "/etc/RealmA.java" ∧
      ¬ Artifact.StaysBelow "out" (a.pathBelow "out") := by
  refine ⟨by decide +kernel, by decide +kernel, ?_⟩
  have hfile : ∃ a ∈ (({} : Settings).process (resident "/etc")).artifacts,
      a.name = "/etc.RealmA" ∧ a.pathBelow "out" = "/etc/RealmA.java" := by
    decide +kernel
  obtain ⟨a, ha, hname, hpath⟩ := hfile
  refine ⟨a, ha, hname, hpath, ?_⟩
  rintro ⟨below, hbelow, -⟩
  -- the one path starts with a slash, the other with `out`
  have hout : (Artifact.stem "out" ++ below.toList).head? = some 'o' := rfl
  rw [← hbelow, hpath] at hout
  exact absurd hout (by decide)

end Settings

end Companion
