import Companion.Proofs.Type.Word

/-!
# Shortest texts — which of its two forms a class is written in

The dotted form leaves it to the convention on capitals where the package
ends. The convention finds the place when no segment of the package
starts with a capital and the top-level class does, or is the only class
(`cut_append_eq_iff`). Exactly then the class is written in that form
(`text_eq_canonical_iff`), and otherwise with a slash. Every text that is
read as a class is one of the two forms with blanks around it, so none is
shorter than the text the class is written as (`length_text_le`).
-/

namespace Companion

open Text

namespace ClassName

variable {c d : ClassName} {cs : List Char}

/-! ## Where the convention cuts -/

/-- **The convention finds where the class begins** when no segment of the
package starts with a capital, and the top-level class does or is the
only class. -/
theorem cut_append_eq_iff {ps ns : List (List Char)} {n : List Char} :
    cut (ps ++ n :: ns) = (ps, n :: ns) ↔
      (∀ s ∈ ps, startsUpper s = false) ∧ (startsUpper n = true ∨ ns = []) := by
  constructor
  · intro h
    unfold cut at h
    split at h
    · next hnone =>
      -- no segment starts with a capital, so one name was left for the class
      have hlower : ∀ s ∈ ps ++ n :: ns, startsUpper s = false := by
        simpa [List.dropWhile_eq_nil_iff] using hnone
      refine ⟨fun s hs => hlower s (List.mem_append_left _ hs), Or.inr ?_⟩
      have hlength := congrArg (fun pieces => pieces.2.length) h
      rw [List.getLast?_eq_some_getLast (by simp)] at hlength
      exact List.eq_nil_of_length_eq_zero (Nat.succ.inj hlength).symm
    · obtain ⟨hpackage, hnames⟩ := Prod.mk.inj h
      constructor
      · intro s hs
        rw [← hpackage] at hs
        simpa using List.mem_takeWhile_imp hs
      · have hhead := List.head?_dropWhile_not (!startsUpper ·) (ps ++ n :: ns)
        rw [hnames] at hhead
        exact Or.inl (by simpa using hhead)
  · rintro ⟨hlower, hupper⟩
    by_cases hn : startsUpper n = true
    · exact cut_append hlower hn
    · obtain rfl := hupper.resolve_left hn
      have hnone : (ps ++ [n]).dropWhile (!startsUpper ·) = [] := by
        rw [List.dropWhile_eq_nil_iff]
        intro s hs
        rcases List.mem_append.1 hs with hs | hs
        · simp [hlower s hs]
        · simp [List.mem_singleton.1 hs, hn]
      rw [cut, hnone]
      simp

/-- Pieces with a name for the class are told by the class. -/
theorem ofPieces_inj {p q : List Char} {ns ms : List (List Char)} (hns : ns ≠ []) (hms : ms ≠ [])
    (h : ofPieces p ns = ofPieces q ms) : p = q ∧ ns = ms := by
  have hnames := congrArg names h
  rw [names_ofPieces hns, names_ofPieces hms] at hnames
  exact ⟨String.ofList_injective (congrArg package h),
    List.map_injective_iff.2 (fun _ _ => String.ofList_injective) hnames⟩

/-- **A class that can be written with dots alone**: no segment of its
package starts with a capital, and the top-level class does or is the
only class. -/
def Dottable (c : ClassName) : Prop :=
  (∀ s ∈ segments c.package.toList, startsUpper s = false) ∧
    (startsUpper c.outer.toList = true ∨ c.nested = [])

/-! ## Both forms -/

/-- The form with a slash has the package before the slash and the joined
names behind it. -/
theorem toList_packagedText (c : ClassName) :
    c.packagedText.toList
      = c.package.toList ++ '/' :: ['.'].intercalate (c.names.map String.toList) := by
  simp [packagedText, path, String.toList_intercalate]

/-- **A class that was read was written in one of its two forms.** -/
theorem eq_or_eq_of_read (h : read cs = .ok c) :
    cs = c.canonical.toList ∨ cs = c.packagedText.toList := by
  have hwf := wellFormed_of_read h
  have hnames {ns : List (List Char)} : (ns.map String.ofList).map String.toList = ns := by
    simp [Function.comp_def]
  unfold read at h
  split at h
  · refine Or.inl ?_
    simp only [readDotted] at h
    split at h
    · next hids =>
      cases h
      have hcut := append_cut (cs.splitOn '.')
      have hpackage : ∀ s ∈ (cut (cs.splitOn '.')).1, isIdentifier s = true := fun s hs =>
        List.all_eq_true.1 hids s (hcut ▸ List.mem_append_left _ hs)
      rw [hwf.toList_canonical, names_ofPieces (cut_snd_ne_nil (List.splitOn_ne_nil _ _)), hnames,
        ofPieces, String.toList_ofList, segments_intercalate hpackage, hcut]
      exact (List.intercalate_splitOn '.').symm
    · cases h
  · next slash path hslash =>
    refine Or.inr ?_
    simp only [readPackaged] at h
    split at h
    · cases h
      have hcs := List.takeWhile_append_dropWhile (p := (· != '/')) (l := cs)
      have hhead := List.head?_dropWhile_not (· != '/') cs
      rw [hslash] at hcs hhead
      obtain rfl : slash = '/' := by simpa using hhead
      rw [toList_packagedText, names_ofPieces (List.splitOn_ne_nil _ _), hnames, ofPieces,
        String.toList_ofList, List.intercalate_splitOn]
      exact hcs.symm
    · cases h

namespace WellFormed

/-- The form with a slash holds one, and the dotted form does not. -/
theorem packagedText_ne_canonical (h : c.WellFormed) : c.packagedText ≠ c.canonical := by
  intro hsame
  have hmem : '/' ∈ c.packagedText.toList := by simp [packagedText]
  rw [hsame] at hmem
  rcases h.isNameChar_of_mem_canonical hmem with hname | hdot
  · rw [isNameChar_slash] at hname
    cases hname
  · exact absurd hdot (by decide)

/-- The dotted form is not the longer one. -/
theorem length_canonical_le (h : c.WellFormed) :
    c.canonical.toList.length ≤ c.packagedText.toList.length := by
  have hnames : c.names.map String.toList ≠ [] := by simp [ClassName.names]
  rw [h.toList_canonical, toList_packagedText]
  by_cases hpackage : segments c.package.toList = []
  · rw [hpackage, List.nil_append, List.length_append, List.length_cons]
    omega
  · rw [intercalate_append hpackage hnames, intercalate_segments, List.append_assoc]
    simp

/-- **The dotted form is read back** for the classes that can be written
with dots alone. -/
theorem read_canonical_iff (h : c.WellFormed) :
    read c.canonical.toList = .ok c ↔ c.Dottable := by
  let pieces := segments c.package.toList ++ c.names.map String.toList
  have hne : pieces ≠ [] := by simp [pieces, ClassName.names]
  have hread : read c.canonical.toList
      = .ok (ofPieces (['.'].intercalate (cut pieces).1) (cut pieces).2) := by
    rw [h.toList_canonical]
    exact read_intercalate hne fun s hs => h.isIdentifier_of_mem_canonical hs
  have hcut : read c.canonical.toList = .ok c ↔
      cut pieces = (segments c.package.toList, c.names.map String.toList) := by
    rw [hread]
    constructor
    · intro hok
      have hpieces := (Except.ok.inj hok).trans (ofPieces_toList c).symm
      have hnames := (ofPieces_inj (cut_snd_ne_nil hne) (by simp [ClassName.names]) hpieces).2
      -- what is left for the package is what stands in front of the names
      have happend := append_cut pieces
      rw [hnames] at happend
      exact Prod.ext (List.append_cancel_right happend) hnames
    · intro hcut
      rw [hcut, intercalate_segments, ofPieces_toList]
  rw [hcut, Dottable, ← List.map_eq_nil_iff (f := String.toList)]
  exact cut_append_eq_iff

/-- **A class is written with dots alone** exactly when it can be. -/
theorem text_eq_canonical_iff (h : c.WellFormed) : c.text = c.canonical ↔ c.Dottable := by
  have hback : (ofText c.canonical).toOption = some c ↔ c.Dottable := by
    rw [← h.read_canonical_iff, ← ofText_eq_ok_iff fun x hx => h.isNameChar_of_mem_canonical hx]
    cases ofText c.canonical <;> simp [Except.toOption]
  rw [← hback, text]
  split
  · next hsome => simp [hsome]
  · next hnone => simp [hnone, h.packagedText_ne_canonical]

/-- And with a slash otherwise. -/
theorem text_eq_packagedText (h : c.WellFormed) (hdots : ¬ c.Dottable) :
    c.text = c.packagedText := by
  rw [← h.text_eq_canonical_iff] at hdots
  unfold text at hdots ⊢
  split
  · next hsome => exact absurd (if_pos hsome) hdots
  · rfl

/-- **The text of a class is read as the class**, since it has no blanks. -/
theorem ofText_text (h : c.WellFormed) : ofText c.text = .ok c := by
  have htrim : trim c.text.toList = c.text.toList := trim_of_forall_not_blank fun x hx =>
    TypeRef.isBlank_of_isTypeNameChar (h.isTypeNameChar_of_mem_text hx)
  rw [ofText, htrim, mapError_eq_ok_iff]
  exact h.read_text

/-- **So different classes have different texts.** -/
theorem eq_of_text_eq (h : c.WellFormed) (hd : d.WellFormed) (hsame : c.text = d.text) : c = d := by
  have hread := h.ofText_text
  rw [hsame, hd.ofText_text] at hread
  exact (Except.ok.inj hread).symm

end WellFormed

/-- The classes that can be read are those that are well-formed. -/
theorem wellFormed_iff : c.WellFormed ↔ ∃ input, ofText input = .ok c :=
  ⟨fun h => ⟨c.text, h.ofText_text⟩,
    fun ⟨_, hread⟩ => wellFormed_of_read (mapError_eq_ok_iff.1 hread)⟩

/-- **No text is read as a class and shorter** than the one it is written as. -/
theorem length_text_le {input : String} (h : ofText input = .ok c) :
    c.text.length ≤ input.length := by
  have hread := mapError_eq_ok_iff.1 h
  have hwf := wellFormed_of_read hread
  have hlonger := hwf.length_canonical_le
  have htrim := length_trim_le input.toList
  have hform : c.text.toList.length ≤ (trim input.toList).length := by
    rcases eq_or_eq_of_read hread with hdotted | hpackaged
    · -- the dotted form was read, so the class is written in it
      have hdots := hwf.read_canonical_iff.1 (hdotted ▸ hread)
      rw [hwf.text_eq_canonical_iff.2 hdots, hdotted]
    · rw [hpackaged]
      by_cases hdots : c.Dottable
      · rw [hwf.text_eq_canonical_iff.2 hdots]
        exact hlonger
      · rw [hwf.text_eq_packagedText hdots]
  rw [← String.length_toList, ← String.length_toList]
  omega

end ClassName

end Companion
