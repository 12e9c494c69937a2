import Companion.Name.Identifier
import Companion.Name.Qualified
import Mathlib.Data.List.TakeWhile
import Mathlib.Tactic.ByContra

/-!
# Dotted texts — joining segments and cutting them apart

A dotted text is made of segments, and identifiers hold no dot, so a
text of identifiers is cut back into the segments it was joined from.
The default package has no segment and leaves no dot behind: this is
why `segments` differs from cutting at the dots alone. The main fact is
`splitOn_dotted`: the dots of a dotted name are where its package and
its simple names were joined.
-/

namespace Companion

namespace Text

/-- The segments of a package; the default package has none. -/
def segments (package : List Char) : List (List Char) :=
  if package = [] then [] else package.splitOn '.'

/-- A package is the default one or made of identifiers. -/
def isPackage (package : List Char) : Bool :=
  package.isEmpty || (package.splitOn '.').all isIdentifier

/-! ## Characters of names -/

/-- **No blank is part of a name.** -/
theorem isBlank_of_isNameChar {c : Char} (h : isNameChar c = true) : isBlank c = false := by
  by_contra hblank
  simp only [Bool.not_eq_false] at hblank
  have halnum := isAlphanumeric_of_isBlank hblank
  simp only [isNameChar, halnum, Bool.false_or, Bool.or_eq_true, beq_iff_eq] at h
  rcases h with rfl | rfl <;> revert hblank <;> decide +kernel

/-- A dot separates names, so it is part of none. -/
theorem isNameChar_dot : isNameChar '.' = false := by decide +kernel

/-- A slash ends the package, so it is part of no name. -/
theorem isNameChar_slash : isNameChar '/' = false := by decide +kernel

/-- A character that is no name character stands in no identifier. -/
theorem not_mem_of_isIdentifier {c : Char} {cs : List Char} (hc : isNameChar c = false)
    (h : isIdentifier cs = true) : c ∉ cs := by
  intro hmem
  rw [isNameChar_of_mem h c hmem] at hc
  cases hc

/-- An identifier has a first character. -/
theorem ne_nil_of_isIdentifier {cs : List Char} (h : isIdentifier cs = true) : cs ≠ [] := by
  rintro rfl
  cases h

/-! ## Joining -/

/-- Two joined lists are joined by one more separator. -/
theorem intercalate_append {sep : List Char} {l m : List (List Char)} (hl : l ≠ []) (hm : m ≠ []) :
    sep.intercalate (l ++ m) = sep.intercalate l ++ sep ++ sep.intercalate m := by
  induction l with
  | nil => exact absurd rfl hl
  | cons a l ih =>
    rcases l with - | ⟨b, l⟩
    · rw [List.singleton_append, List.intercalate_cons_of_ne_nil hm, List.intercalate_singleton]
    · rw [List.cons_append, List.intercalate_cons_of_ne_nil (by simp), ih (by simp),
        List.intercalate_cons_cons]
      simp only [List.append_assoc]

/-- A character of a joined text stands in one of the parts or in the separator. -/
theorem mem_of_mem_intercalate {sep : List Char} {l : List (List Char)} {c : Char}
    (h : c ∈ sep.intercalate l) : (∃ a ∈ l, c ∈ a) ∨ c ∈ sep := by
  induction l with
  | nil => cases h
  | cons a l ih =>
    rcases l with - | ⟨b, l⟩
    · exact Or.inl ⟨a, by simp, by simpa using h⟩
    · rw [List.intercalate_cons_cons, List.mem_append, List.mem_append] at h
      rcases h with (ha | hsep) | hrest
      · exact Or.inl ⟨a, by simp, ha⟩
      · exact Or.inr hsep
      · rcases ih hrest with ⟨d, hd, hc⟩ | hsep
        · exact Or.inl ⟨d, List.mem_cons_of_mem a hd, hc⟩
        · exact Or.inr hsep

/-- Identifiers stay apart when they are joined with dots. -/
theorem splitOn_intercalate_of_isIdentifier {ns : List (List Char)} (hne : ns ≠ [])
    (h : ∀ n ∈ ns, isIdentifier n = true) : (['.'].intercalate ns).splitOn '.' = ns :=
  List.splitOn_intercalate '.' (fun n hn => not_mem_of_isIdentifier isNameChar_dot (h n hn)) hne

/-- The last dot of a text is where a part without dots was put behind it. -/
theorem append_dot_inj {p q s t : List Char} (hs : '.' ∉ s) (ht : '.' ∉ t)
    (h : p ++ '.' :: s = q ++ '.' :: t) : p = q ∧ s = t := by
  have htake {u v : List Char} (hu : '.' ∉ u) :
      (v ++ '.' :: u).reverse.takeWhile (· != '.') = u.reverse := by
    have hall : ∀ c ∈ u.reverse, (c != '.') = true := by
      intro c hc
      simp only [bne_iff_ne, ne_eq]
      rintro rfl
      exact hu (List.mem_reverse.1 hc)
    rw [List.reverse_append, List.reverse_cons, List.append_assoc, List.singleton_append,
      List.takeWhile_append_of_pos hall]
    simp
  have hlast : s = t := by
    rw [← List.reverse_inj, ← htake (v := p) hs, ← htake (v := q) ht, h]
  subst hlast
  exact ⟨List.append_cancel_right h, rfl⟩

/-! ## Packages -/

/-- A package is its segments joined. -/
theorem intercalate_segments (package : List Char) :
    ['.'].intercalate (segments package) = package := by
  unfold segments
  split
  · next h => rw [h, List.intercalate_nil]
  · exact List.intercalate_splitOn '.'

/-- The segments of a package are identifiers. -/
theorem isIdentifier_of_mem_segments {package s : List Char} (h : isPackage package = true)
    (hs : s ∈ segments package) : isIdentifier s = true := by
  unfold segments at hs
  split at hs
  · cases hs
  · next hne =>
    simp only [isPackage, List.isEmpty_iff, hne, Bool.or_eq_true, false_or, List.all_eq_true] at h
    exact h s hs

/-- Joined identifiers have themselves for segments. -/
theorem segments_intercalate {ns : List (List Char)} (h : ∀ n ∈ ns, isIdentifier n = true) :
    segments (['.'].intercalate ns) = ns := by
  by_cases hne : ns = []
  · rw [hne, List.intercalate_nil, segments, if_pos rfl]
  · have hsplit := splitOn_intercalate_of_isIdentifier hne h
    rw [segments, if_neg, hsplit]
    intro hnil
    rw [hnil, List.splitOn_nil] at hsplit
    exact ne_nil_of_isIdentifier (h [] (hsplit ▸ List.mem_singleton_self [])) rfl

/-- And identifiers make up a package. -/
theorem isPackage_intercalate {ns : List (List Char)} (h : ∀ n ∈ ns, isIdentifier n = true) :
    isPackage (['.'].intercalate ns) = true := by
  rcases ns with - | ⟨n, ns⟩
  · rfl
  · rw [isPackage, splitOn_intercalate_of_isIdentifier (by simp) h, Bool.or_eq_true]
    exact Or.inr (List.all_eq_true.2 h)

/-- Every character of a package is a name character or a dot. -/
theorem isNameChar_of_mem_package {package : List Char} (h : isPackage package = true) {c : Char}
    (hc : c ∈ package) : isNameChar c = true ∨ c = '.' := by
  rw [← intercalate_segments package] at hc
  rcases mem_of_mem_intercalate hc with ⟨s, hs, hcs⟩ | hdot
  · exact Or.inl (isNameChar_of_mem (isIdentifier_of_mem_segments h hs) c hcs)
  · exact Or.inr (List.mem_singleton.1 hdot)

end Text

open Text

/-! ## Dotted names -/

/-- Behind a package every name stands behind a dot. -/
theorem toList_dotted_of_ne_empty {package : String} (h : package ≠ "") (names : List String) :
    (dotted package names).toList
      = ['.'].intercalate (package.toList :: names.map String.toList) := by
  induction names generalizing package with
  | nil => simp [dotted]
  | cons n ns ih =>
    have hne : package ++ "." ++ n ≠ "" := by
      rw [Ne, ← String.toList_eq_nil_iff]
      simp
    have hstep : dotted package (n :: ns) = dotted (package ++ "." ++ n) ns := by
      rw [dotted, List.foldl_cons, if_neg (by simpa using h)]
      rfl
    rw [hstep, ih hne]
    cases ns <;> simp

/-- In the default package the first name stands in front. -/
theorem toList_dotted_empty {n : String} (h : n ≠ "") (ns : List String) :
    (dotted "" (n :: ns)).toList = ['.'].intercalate ((n :: ns).map String.toList) := by
  have hstep : dotted "" (n :: ns) = dotted n ns := by
    rw [dotted, List.foldl_cons, if_pos (by rfl)]
    rfl
  rw [hstep, toList_dotted_of_ne_empty h, List.map_cons]

/-- **A dotted name is its segments joined**: those of the package and
then the simple names. -/
theorem toList_dotted {package : String} {names : List String} (hne : names ≠ [])
    (h : ∀ n ∈ names, isIdentifier n.toList = true) :
    (dotted package names).toList
      = ['.'].intercalate (segments package.toList ++ names.map String.toList) := by
  obtain ⟨n, ns, rfl⟩ := List.exists_cons_of_ne_nil hne
  by_cases hp : package = ""
  · subst hp
    have hn : n ≠ "" := by
      rintro rfl
      exact ne_nil_of_isIdentifier (h "" (by simp)) rfl
    rw [toList_dotted_empty hn]
    rfl
  · have hseg : segments package.toList ≠ [] := by simp [segments, hp]
    rw [toList_dotted_of_ne_empty hp, List.intercalate_cons_of_ne_nil (by simp),
      intercalate_append hseg (by simp), intercalate_segments]

/-- **The dots of a dotted name are where it was joined.** -/
theorem splitOn_dotted {package : String} {names : List String} (hne : names ≠ [])
    (hp : isPackage package.toList = true) (h : ∀ n ∈ names, isIdentifier n.toList = true) :
    (dotted package names).toList.splitOn '.'
      = segments package.toList ++ names.map String.toList := by
  rw [toList_dotted hne h]
  refine splitOn_intercalate_of_isIdentifier (by simp [hne]) fun s hs => ?_
  rcases List.mem_append.1 hs with hs | hs
  · exact isIdentifier_of_mem_segments hp hs
  · obtain ⟨n, hn, rfl⟩ := List.mem_map.1 hs
    exact h n hn

end Companion
