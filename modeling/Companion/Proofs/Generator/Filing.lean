import Companion.Proofs.Generator.Contents
import Companion.Proofs.Sink.Location

/-!
# Filing — an artifact is where its source says it lives

The name of an artifact is joined from a package and a simple name, is cut
again at its last dot to tell the two apart, and at every dot to find the
directories on the way to the file. The source is written from the parts
as they were before. The views agree when the simple name holds no dot:
`splitOn_qualified` says where the dots of the joined name are, and what
the cuts give back follows from it. `linesNaming` are the lines of a source
in which the package and the name of the class are left open, so that
`filed_where_source_says` can fill in what the cuts have given.
-/

namespace Companion

open Text Page

/-! ## Joined and cut again -/

/-- **The segments of a companion's dotted name** are those of its package
and then the simple name, when that holds no dot. -/
theorem CompanionName.splitOn_qualified {n : CompanionName} (h : '.' ∉ n.simpleName.toList) :
    n.qualified.toList.splitOn '.' = segments n.package.toList ++ [n.simpleName.toList] := by
  have hsimple : n.simpleName.toList.splitOn '.' = [n.simpleName.toList] :=
    List.splitOn_eq_singleton h
  unfold qualified segments
  by_cases hdefault : n.package = ""
  · simp [hdefault, hsimple]
  · have hdotted : (n.package ++ "." ++ n.simpleName).toList
        = n.package.toList ++ '.' :: n.simpleName.toList := by simp
    simp only [String.isEmpty_iff, hdefault, if_false, String.toList_eq_nil_iff]
    rw [hdotted, List.splitOn_append_cons_self, hsimple]

namespace Artifact

section Named

variable {a : Artifact} {n : CompanionName}
variable (hname : a.name = n.qualified) (hdots : '.' ∉ n.simpleName.toList)
include hname hdots

/-- An artifact that is named like a companion has the segments of its name. -/
theorem segments_eq : a.segments = Text.segments n.package.toList ++ [n.simpleName.toList] := by
  rw [Artifact.segments, hname]
  exact CompanionName.splitOn_qualified hdots

/-- The package of the companion stands before the last dot. -/
theorem package_eq : a.package = n.package := by
  rw [package, segments_eq hname hdots, List.dropLast_concat, intercalate_segments,
    String.ofList_toList]

/-- And its simple name behind it. -/
theorem simpleName_eq : a.simpleName = n.simpleName := by
  rw [simpleName, segments_eq hname hdots, List.getLastD_concat, String.ofList_toList]

/-- There is a directory for each segment of the package when none of them
is empty. -/
theorem pathParts_eq (hsegments : ∀ segment ∈ Text.segments n.package.toList, segment ≠ []) :
    a.pathParts
      = (Text.segments n.package.toList).map String.ofList ++ [n.simpleName ++ ".java"] := by
  have hdirectories : a.segments.dropLast = Text.segments n.package.toList := by
    rw [segments_eq hname hdots, List.dropLast_concat]
  rw [pathParts_of_ne_nil (hdirectories ▸ hsegments), hdirectories, simpleName_eq hname hdots]

/-- **The path of the artifact** has the segments of the package and then
the file behind the root, when the slashes between them are the only ones. -/
theorem toList_pathBelow (hsegments : ∀ segment ∈ Text.segments n.package.toList, segment ≠ [])
    (hpackage : '/' ∉ n.package.toList) (hsimple : '/' ∉ n.simpleName.toList) (root : String) :
    (a.pathBelow root).toList = stem root ++
      ['/'].intercalate (Text.segments n.package.toList ++ [(n.simpleName ++ ".java").toList]) := by
  have hparts : ∀ part ∈ a.pathParts, IsPart part := by
    intro part hpart
    rw [pathParts_eq hname hdots hsegments, List.mem_append, List.mem_singleton] at hpart
    rcases hpart with hpart | rfl
    · obtain ⟨segment, hsegment, rfl⟩ := List.mem_map.1 hpart
      have hne := hsegments segment hsegment
      refine ⟨by simpa using hne, ?_⟩
      rw [String.toList_ofList]
      intro hslash
      have hmem : '/' ∈ ['.'].intercalate (Text.segments n.package.toList) :=
        mem_intercalate_of_mem hsegment hslash
      rw [intercalate_segments] at hmem
      exact hpackage hmem
    · refine ⟨by simp, ?_⟩
      rw [String.toList_append, List.mem_append, not_or]
      exact ⟨hsimple, by decide⟩
  rw [pathBelow_eq, toList_pathOf a.pathParts_ne_nil hparts, pathParts_eq hname hdots hsegments]
  simp [Function.comp_def]

end Named

end Artifact

namespace Settings

/-! ## The source -/

section Lines

variable (s : Settings) (r : Round) (id : Nat) (d : Declaration)

/-- The lines of the source of a companion, which say in which package it
lives, unless that is the default one, and how its class is called: in the
header of the class and in those of both constructors. -/
def linesNaming (package name : String) : List String :=
  let parameters := ", ".intercalate (d.eligible.map (s.fieldText r id d))
  (if package = "" then [] else ["package " ++ package ++ ";", ""])
    ++ s.importLines r id d
    ++ ["public class " ++ name ++ " extends "
      ++ (s.companionOf r id d).spellClass s.baseClass ++ " \x7b"]
    ++ d.eligible.flatMap (s.memberLines r id d)
    ++ [s.marginOf 1 ++ "public " ++ name ++ "() \x7b", s.marginOf 1 ++ "\x7d"] ++ s.gapLines
    ++ [s.marginOf 1 ++ "public " ++ name ++ "(" ++ parameters ++ ") \x7b"]
    ++ d.eligible.map (fun f => s.marginOf 2 ++ "this." ++ f.name ++ " = " ++ f.name ++ ";")
    ++ [s.marginOf 1 ++ "\x7d", "\x7d"]

/-- The source is written for the package and the name of the companion. -/
theorem classLines_eq : s.classLines r id d
    = s.linesNaming r id d (r.outermostPackage id) (s.nameOf r id).simpleName := by
  simp [classLines, linesNaming, Round.packageLines, constructorLines, String.append_assoc]

end Lines

variable {s : Settings} {r : Round} {id : Nat} {a : Artifact} {warnings : List Diagnostic}

/-- What is generated is the artifact of the companion of a declaration. -/
theorem exists_of_generate (h : s.generate r id = .ok (a, warnings)) :
    ∃ d, r.get? id = some d ∧ a = (s.companionOf r id d).artifact s.layout := by
  cases hget : r.get? id with
  | none =>
    rw [generate, Round.entity, hget] at h
    cases h
  | some d =>
    refine ⟨d, rfl, ?_⟩
    by_cases hfields : d.eligible = []
    · rw [generate_of_not_eligible hget hfields] at h
      cases h
    · rw [generate_of_eligible hget hfields] at h
      cases h
      rfl

/-- **An artifact is filed where its source says it lives.** When the
prefix and the names around a declaration hold no dot, cutting the name of
the artifact gives back the package of the outermost declaration and the
simple name of the class, and the source is written for these two. When
they hold no slash either, and no segment of the package is empty, the
path is the root, the segments of the package and the file of the class. -/
theorem filed_where_source_says (hgenerate : s.generate r id = .ok (a, warnings))
    (hleading : '.' ∉ s.leading.toList) (hnames : ∀ e ∈ r.chain id, '.' ∉ e.name.toList) :
    ∃ d outermost, r.get? id = some d ∧ (r.chain id).getLast? = some outermost ∧
      a.package = outermost.package ∧
      a.simpleName = s.leading ++ "_".intercalate ((r.chain id).reverse.map (·.name)) ∧
      a.contents = unlines (s.linesNaming r id d a.package a.simpleName) ∧
      ('/' ∉ s.leading.toList → (∀ e ∈ r.chain id, '/' ∉ e.name.toList) →
        '/' ∉ a.package.toList → (∀ segment ∈ segments a.package.toList, segment ≠ []) →
        ∀ root, (a.pathBelow root).toList = Artifact.stem root ++
          ['/'].intercalate (segments a.package.toList ++ [(a.simpleName ++ ".java").toList])) := by
  obtain ⟨d, hget, rfl⟩ := exists_of_generate hgenerate
  obtain ⟨around, hchain, -⟩ := Round.exists_chain_eq_cons hget
  have hne : r.chain id ≠ [] := by
    rw [hchain]
    exact List.cons_ne_nil d around
  have hlast : (r.chain id).getLast? = some ((r.chain id).getLast hne) :=
    List.getLast?_eq_some_getLast hne
  have houtermost : r.outermostPackage id = ((r.chain id).getLast hne).package := by
    rw [Round.outermostPackage, hlast]
    rfl
  have hdots : '.' ∉ (s.nameOf r id).simpleName.toList :=
    notMem_simpleName (by decide) hleading hnames
  have hname : ((s.companionOf r id d).artifact s.layout).name = (s.nameOf r id).qualified := rfl
  have hwritten : ((s.companionOf r id d).artifact s.layout).contents
      = unlines (s.classLines r id d) := (writes_sourceLines s r id d).written_eq
  rw [Artifact.package_eq hname hdots, Artifact.simpleName_eq hname hdots]
  refine ⟨d, _, hget, hlast, houtermost, rfl, ?_, ?_⟩
  · rw [hwritten, classLines_eq]
    rfl
  · intro hleading' hnames' hpackage hsegments root
    have hslash : '/' ∉ (s.nameOf r id).simpleName.toList :=
      notMem_simpleName (by decide) hleading' hnames'
    exact Artifact.toList_pathBelow hname hdots hsegments hpackage hslash root

/-- An entity that is nested in the first declaration. -/
def inner : Declaration where
  name := "Inner"
  enclosing := some 0
  fields := [{ name := "id", type := .primitive .long }]
  entity := some {}

/-- The entity inside a class of the given package. -/
def branch (package : String) : Round where
  declarations := [{ name := "Outer", package := package }, inner]
  ends := ends_of_all rfl

/-- The lines of its source below the package line. -/
def branchLines : List String :=
  ["import io.realm.RealmObject;", "",
    "public class RealmOuter_Inner extends RealmObject \x7b", "  public long id;", "",
    "  public RealmOuter_Inner() \x7b", "  \x7d", "",
    "  public RealmOuter_Inner(long id) \x7b", "    this.id = id;", "  \x7d", "\x7d"]

/-- In the package `com.acme` its companion is two directories below the
root, and in the default package it is right below it. -/
theorem filed_where_source_says_branch :
    (∃ a warnings, ({} : Settings).generate (branch "com.acme") 1 = .ok (a, warnings) ∧
      a.package = "com.acme" ∧ a.simpleName = "RealmOuter_Inner" ∧
      a.contents = unlines (["package com.acme;", ""] ++ branchLines) ∧
      a.pathBelow "out" = "out/com/acme/RealmOuter_Inner.java") ∧
    ∃ a warnings, ({} : Settings).generate (branch "") 1 = .ok (a, warnings) ∧
      a.package = "" ∧ a.simpleName = "RealmOuter_Inner" ∧
      a.contents = unlines branchLines ∧ a.pathBelow "out" = "out/RealmOuter_Inner.java" := by
  have hfiled (package : String) (hslash : '/' ∉ package.toList)
      (hsegments : ∀ segment ∈ segments package.toList, segment ≠ []) : ∃ a warnings,
      ({} : Settings).generate (branch package) 1 = .ok (a, warnings) ∧
      a.package = package ∧ a.simpleName = "RealmOuter_Inner" ∧
      a.contents = unlines
        (({} : Settings).linesNaming (branch package) 1 inner package "RealmOuter_Inner") ∧
      (a.pathBelow "out").toList = Artifact.stem "out" ++
        ['/'].intercalate (segments package.toList ++ ["RealmOuter_Inner.java".toList]) := by
    have hget : (branch package).get? 1 = some inner := rfl
    obtain ⟨warnings, hgenerate⟩ := exists_of_eligible (s := {}) hget (List.cons_ne_nil _ _)
    have hchain : (branch package).chain 1 = [inner, { name := "Outer", package := package }] := rfl
    obtain ⟨d, outermost, hinner, hlast, hpackage, hsimple, hcontents, hpath⟩ :=
      filed_where_source_says hgenerate (by decide) (by simp [hchain, inner])
    rw [hchain] at hlast hsimple hpath
    cases hinner
    cases hlast
    have hclass : ({} : Settings).leading ++ "_".intercalate
        (([inner, { name := "Outer", package := package }] : List Declaration).reverse.map (·.name))
        = "RealmOuter_Inner" := rfl
    rw [hclass] at hsimple
    rw [hpackage, hsimple] at hcontents hpath
    exact ⟨_, warnings, hgenerate, hpackage, hsimple, hcontents,
      hpath (by decide) (by simp [inner]) hslash hsegments "out"⟩
  obtain ⟨a, warnings, hgenerate, hpackage, hsimple, hcontents, hpath⟩ :=
    hfiled "com.acme" (by decide) (by decide)
  obtain ⟨b, warnings', hgenerate', hpackage', hsimple', hcontents', hpath'⟩ :=
    hfiled "" (by decide) (by decide)
  refine ⟨⟨a, warnings, hgenerate, hpackage, hsimple, hcontents.trans ?_, ?_⟩,
    b, warnings', hgenerate', hpackage', hsimple', hcontents'.trans ?_, ?_⟩
  · decide +kernel
  · exact String.toList_inj.1 (hpath.trans (by decide +kernel))
  · decide +kernel
  · exact String.toList_inj.1 (hpath'.trans (by decide +kernel))

end Settings

end Companion
