import Companion.Name.ClassText
import Companion.Proofs.Name.Dotted
import Companion.Proofs.Result
import Mathlib.Data.List.TakeWhile

/-!
# Class texts — what reading a class name accepts, and what it gives back

A class that was read is `WellFormed`: its package is empty or made of
identifiers, and so are its simple names. Both forms of a well-formed
class are read back: the form with a slash always
(`read_packagedText`), the dotted one when the class keeps to the
convention on capitals (`read_canonical`). So the text of a class, which
picks one of the two, is read as that class (`read_text`).
-/

namespace Companion

open Text

namespace Text

/-- A text that does not begin with a blank has none to skip. -/
theorem skipBlanks_eq_self {cs : List Char} (h : ∀ c ∈ cs.head?, isBlank c = false) :
    skipBlanks cs = cs := by
  cases cs with
  | nil => rfl
  | cons c cs => exact List.dropWhile_cons_of_neg (by simp [h c rfl])

/-- A text without blanks has none to trim. -/
theorem trim_of_forall_not_blank {cs : List Char} (h : ∀ c ∈ cs, isBlank c = false) :
    trim cs = cs := by
  have hfront : skipBlanks cs = cs :=
    skipBlanks_eq_self fun c hc => h c (List.mem_of_mem_head? hc)
  have hend : skipBlanks cs.reverse = cs.reverse :=
    skipBlanks_eq_self fun c hc => h c (List.mem_reverse.1 (List.mem_of_mem_head? hc))
  rw [trim, hfront, hend, List.reverse_reverse]

/-- Trimming makes no text longer. -/
theorem length_trim_le (cs : List Char) : (trim cs).length ≤ cs.length := by
  have hfront := length_skipBlanks_le cs
  have hend := length_skipBlanks_le (skipBlanks cs).reverse
  rw [List.length_reverse] at hend
  rw [trim, List.length_reverse]
  omega

end Text

namespace ClassName

/-- The package of a class is empty or made of identifiers, and its
simple names are identifiers. -/
structure WellFormed (c : ClassName) : Prop where
  /-- The package is the default one or a dotted name. -/
  package : isPackage c.package.toList = true
  /-- Every simple name is an identifier. -/
  names : ∀ n ∈ c.names, isIdentifier n.toList = true

/-- The convention that tells a package from a class: the top-level class
starts with a capital, and no segment of the package does. -/
structure Conventional (c : ClassName) : Prop extends WellFormed c where
  /-- The top-level class starts with a capital. -/
  outer_upper : startsUpper c.outer.toList = true
  /-- The segments of the package do not. -/
  segments_lower : ∀ s ∈ segments c.package.toList, startsUpper s = false

instance (c : ClassName) : Decidable c.WellFormed :=
  decidable_of_iff (isPackage c.package.toList = true ∧ ∀ n ∈ c.names, isIdentifier n.toList = true)
    ⟨fun ⟨hpackage, hnames⟩ => ⟨hpackage, hnames⟩, fun h => ⟨h.package, h.names⟩⟩

instance (c : ClassName) : Decidable c.Conventional :=
  decidable_of_iff (c.WellFormed ∧ startsUpper c.outer.toList = true ∧
      ∀ s ∈ segments c.package.toList, startsUpper s = false)
    ⟨fun ⟨hwf, hupper, hlower⟩ => ⟨hwf, hupper, hlower⟩,
      fun h => ⟨h.toWellFormed, h.outer_upper, h.segments_lower⟩⟩

variable {c : ClassName} {cs : List Char}

/-! ## Pieces -/

/-- The pieces of a class are its names. -/
theorem names_ofPieces {package : List Char} {ns : List (List Char)} (h : ns ≠ []) :
    (ofPieces package ns).names = ns.map String.ofList := by
  obtain ⟨n, ns, rfl⟩ := List.exists_cons_of_ne_nil h
  rfl

/-- A class is put together from its package and its names. -/
theorem ofPieces_toList (c : ClassName) :
    ofPieces c.package.toList (c.names.map String.toList) = c := by
  simp [ofPieces, names, Function.comp_def]

/-- Pieces that are identifiers make a well-formed class. -/
theorem wellFormed_ofPieces {package : List Char} {ns : List (List Char)} (hne : ns ≠ [])
    (hp : isPackage package = true) (h : ∀ n ∈ ns, isIdentifier n = true) :
    (ofPieces package ns).WellFormed where
  package := by simpa [ofPieces] using hp
  names := by
    intro n hn
    rw [names_ofPieces hne, List.mem_map] at hn
    obtain ⟨m, hm, rfl⟩ := hn
    rw [String.toList_ofList]
    exact h m hm

/-- Cutting by convention loses no segment. -/
theorem append_cut (segments : List (List Char)) :
    (cut segments).1 ++ (cut segments).2 = segments := by
  unfold cut
  split
  · rcases segments with - | ⟨s, ss⟩
    · rfl
    · rw [List.getLast?_eq_some_getLast (List.cons_ne_nil s ss)]
      exact List.dropLast_concat_getLast (List.cons_ne_nil s ss)
  · exact List.takeWhile_append_dropWhile

/-- And it leaves a name for the class. -/
theorem cut_snd_ne_nil {segments : List (List Char)} (h : segments ≠ []) :
    (cut segments).2 ≠ [] := by
  unfold cut
  split
  · simpa using h
  · next hcut => exact hcut

/-- A capital right behind the package is where the class begins. -/
theorem cut_append {ps ns : List (List Char)} {n : List Char}
    (hp : ∀ s ∈ ps, startsUpper s = false) (hn : startsUpper n = true) :
    cut (ps ++ n :: ns) = (ps, n :: ns) := by
  have hps : ∀ s ∈ ps, (!startsUpper s) = true := fun s hs => by simp [hp s hs]
  have hdrop : (ps ++ n :: ns).dropWhile (!startsUpper ·) = n :: ns := by
    rw [List.dropWhile_append_of_pos hps, List.dropWhile_cons_of_neg (by simp [hn])]
  have htake : (ps ++ n :: ns).takeWhile (!startsUpper ·) = ps := by
    rw [List.takeWhile_append_of_pos hps, List.takeWhile_cons_of_neg (by simp [hn]),
      List.append_nil]
  rw [cut, hdrop, htake]

/-! ## Reading -/

/-- Without a slash the dotted form is read. -/
theorem read_of_not_mem (h : '/' ∉ cs) : read cs = readDotted cs := by
  have hall : cs.dropWhile (· != '/') = [] := by
    rw [List.dropWhile_eq_nil_iff]
    intro c hc
    simp only [bne_iff_ne, ne_eq]
    rintro rfl
    exact h hc
  rw [read, hall]

/-- The slash ends the package. -/
theorem read_append_slash {package path : List Char} (h : '/' ∉ package) :
    read (package ++ '/' :: path) = readPackaged package path := by
  have hpackage : ∀ c ∈ package, (c != '/') = true := by
    intro c hc
    simp only [bne_iff_ne, ne_eq]
    rintro rfl
    exact h hc
  rw [read, List.dropWhile_append_of_pos hpackage, List.takeWhile_append_of_pos hpackage]
  simp

/-- **A class that was read is well-formed.** -/
theorem wellFormed_of_read (h : read cs = .ok c) : c.WellFormed := by
  unfold read at h
  split at h
  · simp only [readDotted] at h
    split at h
    · next hids =>
      cases h
      have hmem : ∀ s ∈ (cut (cs.splitOn '.')).1 ++ (cut (cs.splitOn '.')).2,
          isIdentifier s = true := by
        rw [append_cut]
        exact List.all_eq_true.1 hids
      exact wellFormed_ofPieces (cut_snd_ne_nil (List.splitOn_ne_nil _ _))
        (isPackage_intercalate fun s hs => hmem s (List.mem_append_left _ hs))
        (fun s hs => hmem s (List.mem_append_right _ hs))
    · cases h
  · simp only [readPackaged] at h
    split at h
    · next hids =>
      cases h
      rw [Bool.and_eq_true] at hids
      exact wellFormed_ofPieces (List.splitOn_ne_nil _ _) hids.1 (List.all_eq_true.1 hids.2)
    · cases h

/-- Joined identifiers are read as the class the convention cuts them into. -/
theorem read_intercalate {ss : List (List Char)} (hne : ss ≠ [])
    (h : ∀ s ∈ ss, isIdentifier s = true) :
    read (['.'].intercalate ss)
      = .ok (ofPieces (['.'].intercalate (cut ss).1) (cut ss).2) := by
  have hslash : '/' ∉ ['.'].intercalate ss := by
    intro hmem
    rcases mem_of_mem_intercalate hmem with ⟨s, hs, hin⟩ | hdot
    · exact not_mem_of_isIdentifier isNameChar_slash (h s hs) hin
    · exact absurd (List.mem_singleton.1 hdot) (by decide)
  rw [read_of_not_mem hslash, readDotted]
  simp only [splitOn_intercalate_of_isIdentifier hne h]
  rw [if_pos (List.all_eq_true.2 h)]

/-- A text of name characters and dots has no blanks to trim. -/
theorem ofText_eq_ok_iff {s : String} (h : ∀ x ∈ s.toList, isNameChar x = true ∨ x = '.') :
    ofText s = .ok c ↔ read s.toList = .ok c := by
  have htrim : trim s.toList = s.toList := by
    refine trim_of_forall_not_blank fun x hx => ?_
    rcases h x hx with hname | rfl
    · exact isBlank_of_isNameChar hname
    · decide +kernel
  rw [ofText, htrim, mapError_eq_ok_iff]

namespace WellFormed

variable (h : c.WellFormed)
include h

/-- The names of a class as lists of characters are identifiers. -/
theorem isIdentifier_of_mem_names {n : List Char} (hn : n ∈ c.names.map String.toList) :
    isIdentifier n = true := by
  obtain ⟨m, hm, rfl⟩ := List.mem_map.1 hn
  exact h.names m hm

/-- A class is written in full with its package in front of its names. -/
theorem toList_canonical :
    c.canonical.toList
      = ['.'].intercalate (segments c.package.toList ++ c.names.map String.toList) :=
  toList_dotted (by simp [ClassName.names]) h.names

/-- The segments of the full name are identifiers. -/
theorem isIdentifier_of_mem_canonical {s : List Char}
    (hs : s ∈ segments c.package.toList ++ c.names.map String.toList) : isIdentifier s = true := by
  rcases List.mem_append.1 hs with hs | hs
  · exact isIdentifier_of_mem_segments h.package hs
  · exact h.isIdentifier_of_mem_names hs

/-- The full name is made of name characters and dots. -/
theorem isNameChar_of_mem_canonical {x : Char} (hx : x ∈ c.canonical.toList) :
    isNameChar x = true ∨ x = '.' := by
  rw [h.toList_canonical] at hx
  rcases mem_of_mem_intercalate hx with ⟨s, hs, hin⟩ | hdot
  · exact Or.inl (isNameChar_of_mem (h.isIdentifier_of_mem_canonical hs) x hin)
  · exact Or.inr (List.mem_singleton.1 hdot)

/-- And so is the name below the package. -/
theorem isNameChar_of_mem_path {x : Char} (hx : x ∈ c.path.toList) :
    isNameChar x = true ∨ x = '.' := by
  rw [path, String.toList_intercalate] at hx
  rcases mem_of_mem_intercalate hx with ⟨s, hs, hin⟩ | hdot
  · exact Or.inl (isNameChar_of_mem (h.isIdentifier_of_mem_names hs) x hin)
  · exact Or.inr (by simpa using hdot)

/-- The dots of the name below the package are where the names were joined. -/
theorem splitOn_path : c.path.toList.splitOn '.' = c.names.map String.toList := by
  rw [path, String.toList_intercalate]
  exact splitOn_intercalate_of_isIdentifier (by simp [ClassName.names])
    fun s hs => h.isIdentifier_of_mem_names hs

/-- **The form with a slash is read back**, whatever is capitalized. -/
theorem read_packagedText : read c.packagedText.toList = .ok c := by
  have hslash : '/' ∉ c.package.toList := by
    intro hmem
    rcases isNameChar_of_mem_package h.package hmem with hname | hdot
    · rw [isNameChar_slash] at hname
      cases hname
    · exact absurd hdot (by decide)
  have htext : c.packagedText.toList = c.package.toList ++ '/' :: c.path.toList := by
    simp [packagedText]
  have hnames : (c.names.map String.toList).all isIdentifier = true :=
    List.all_eq_true.2 fun s hs => h.isIdentifier_of_mem_names hs
  have hpieces : (c.package.toList.isEmpty || (c.package.toList.splitOn '.').all isIdentifier)
      = true := h.package
  rw [htext, read_append_slash hslash, readPackaged]
  simp only [h.splitOn_path, hpieces, hnames, Bool.and_self, if_true, ofPieces_toList]

/-- **The text of a class is read as that class.** -/
theorem read_text : read c.text.toList = .ok c := by
  unfold text
  split
  · next hback =>
    refine (ofText_eq_ok_iff fun x hx => h.isNameChar_of_mem_canonical hx).1 ?_
    cases hread : ofText c.canonical with
    | error e => simp [hread, Except.toOption] at hback
    | ok d => simpa [hread, Except.toOption] using hback
  · exact h.read_packagedText

end WellFormed

namespace Conventional

variable (h : c.Conventional)
include h

/-- **The full name of a conventional class is read back.** -/
theorem read_canonical : read c.canonical.toList = .ok c := by
  have hcut : cut (segments c.package.toList ++ c.names.map String.toList)
      = (segments c.package.toList, c.names.map String.toList) :=
    cut_append h.segments_lower h.outer_upper
  rw [h.toList_canonical,
    read_intercalate (by simp [ClassName.names]) fun s hs => h.isIdentifier_of_mem_canonical hs,
    hcut, intercalate_segments, ofPieces_toList]

/-- The name below the package is read as that class of the default package. -/
theorem read_path : read c.path.toList = .ok ⟨"", c.outer, c.nested⟩ := by
  have hcut : cut (c.names.map String.toList) = ([], c.names.map String.toList) :=
    cut_append (List.forall_mem_nil _) h.outer_upper
  have hpieces : ofPieces [] (c.names.map String.toList) = ⟨"", c.outer, c.nested⟩ :=
    ofPieces_toList ⟨"", c.outer, c.nested⟩
  have hread := read_intercalate (by simp [ClassName.names])
    fun s (hs : s ∈ c.names.map String.toList) => h.isIdentifier_of_mem_names hs
  rw [hcut, List.intercalate_nil, hpieces] at hread
  rw [path, String.toList_intercalate]
  exact hread

end Conventional

end ClassName

end Companion
