import Companion.Json.Reader

/-!
# Spelled values — texts that are read as a tree

A text spells a tree of objects, strings and whole numbers when its
braces, quotes, colons and commas stand where the tree has them, with
blanks between them at will, and each string and number of the tree is
what is read where it stands (`Spells`, `SpellsMembers`). The reader gives
back the tree that a text spells (`ofText_of_spells`), so nothing but the
strings and numbers is left to be told about a text. A string without
characters to escape is one (`readString_plain`), and so are the digits of
a number that fits (`readNumber_digits`).
-/

namespace Companion

namespace Json

/-- Blanks between the pieces of a text. -/
def IsGap (gap : List Char) : Prop := ∀ c ∈ gap, isSpace c = true

/-- The pieces may stand next to each other. -/
theorem isGap_nil : IsGap [] := List.forall_mem_nil _

mutual

/-- The front of a text is a value, and the rest is left. -/
inductive Spells : List Char → Value → List Char → Prop
  /-- A quote, behind which the string is read. -/
  | string {cs rest : List Char} {s : String} :
      readString {} cs = .read s rest → Spells ('"' :: cs) (.string s) rest
  /-- A digit, from which on the number is read. -/
  | natural {c : Char} {cs rest : List Char} {n : Nat} :
      c.isDigit = true → readNumber (c :: cs) = .read (.natural n) rest →
      Spells (c :: cs) (.ofNat n) rest
  /-- A brace and members. -/
  | object {gap cs rest : List Char} {ms : Members} :
      IsGap gap → SpellsMembers cs ms rest → Spells ('\x7b' :: (gap ++ '"' :: cs)) (.object ms) rest

/-- Behind the opening quote of a key, the front of a text is the key and its
value, and what else stands in the object. -/
inductive SpellsMembers : List Char → Members → List Char → Prop
  /-- The last member, and the brace behind it. -/
  | last {cs value rest a b d : List Char} {key : String} {v : Value} :
      readString {} cs = .read key (a ++ ':' :: (b ++ value)) → IsGap a → IsGap b →
      Spells value v (d ++ '\x7d' :: rest) → IsGap d →
      SpellsMembers cs (.member (some key) v .done) rest
  /-- A member with others behind it. -/
  | more {cs value others rest a b d e : List Char} {key : String} {v : Value} {ms : Members} :
      readString {} cs = .read key (a ++ ':' :: (b ++ value)) → IsGap a → IsGap b →
      Spells value v (d ++ ',' :: (e ++ '"' :: others)) → IsGap d → IsGap e →
      SpellsMembers others ms rest → SpellsMembers cs (.member (some key) v ms) rest

end

/-! ## Reading -/

/-- Blanks in front of a piece are skipped. -/
theorem skipSpace_append {gap : List Char} {c : Char} (hgap : IsGap gap) (hc : isSpace c = false)
    (cs : List Char) : skipSpace (gap ++ c :: cs) = c :: cs := by
  rw [skipSpace, List.dropWhile_append_of_pos hgap, List.dropWhile_cons_of_neg (by simp [hc])]

/-- A tree was read without a defect, and the rest of the text is left. -/
def Reads {α : Type} {size : Nat} (f : Front α size) (tree : α) (rest : List Char) : Prop :=
  f.tree = tree ∧ f.rest?.map Subtype.val = some rest

section Fronts

variable {α β : Type} {size larger : Nat} {tree : α} {rest : List Char}

/-- The tree of a front and what it leaves. -/
theorem reads_go (h : rest.length < size) : Reads (.go tree rest h) tree rest := ⟨rfl, rfl⟩

/-- A front in front of a longer text leaves the same. -/
theorem Reads.lift {f : Front α size} (hf : Reads f tree rest) (h : size ≤ larger) (g : α → β) :
    Reads (f.lift h g) (g tree) rest := by
  obtain ⟨htree, hrest⟩ := hf
  refine ⟨congrArg g htree, ?_⟩
  rw [Front.lift, Option.map_map]
  exact hrest

/-- What a front leaves is the rest. -/
theorem Reads.exists_rest {f : Front α size} (hf : Reads f tree rest) :
    ∃ h, f.rest? = some ⟨rest, h⟩ := by
  obtain ⟨⟨cs, h⟩, hcs, hrest⟩ := Option.map_eq_some_iff.1 hf.2
  obtain rfl : cs = rest := hrest
  exact ⟨h, hcs⟩

/-- The value of a lexeme that was read. -/
theorem reads_lexemeValue {a : α} {l : Lexeme α} {v : α → Value}
    {h : ∀ rest, l.rest? = some rest → rest.length < size} (hl : l = .read a rest) :
    Reads (lexemeValue l v h) (v a) rest := by
  subst hl
  exact reads_go _

end Fronts

section Members

variable {a b d e cs value behind others rest : List Char} {v : Value} {ms : Members}

/-- The brace behind the last member. -/
theorem reads_readMembers_done (hd : IsGap d) (rest : List Char) :
    Reads (readMembers (d ++ '\x7d' :: rest)) .done rest := by
  have hskip : skipSpace (d ++ '\x7d' :: rest) = '\x7d' :: rest :=
    skipSpace_append hd (by decide) rest
  rw [readMembers]
  split
  · next hnil => rw [hskip] at hnil; cases hnil
  · next cs hbrace =>
    rw [hskip] at hbrace
    cases hbrace
    exact reads_go _
  · next cs hcomma => rw [hskip] at hcomma; cases hcomma
  · next hbrace _ => exact absurd hskip (hbrace rest)

/-- The comma behind a member, and a key behind it. -/
theorem reads_readMembers_more (hd : IsGap d) (he : IsGap e)
    (hothers : Reads (readMember others) ms rest) :
    Reads (readMembers (d ++ ',' :: (e ++ '"' :: others))) ms rest := by
  have hskip : skipSpace (d ++ ',' :: (e ++ '"' :: others)) = ',' :: (e ++ '"' :: others) :=
    skipSpace_append hd (by decide) _
  have hquote : skipSpace (e ++ '"' :: others) = '"' :: others := skipSpace_append he (by decide) _
  rw [readMembers]
  split
  · next hnil => rw [hskip] at hnil; cases hnil
  · next cs hbrace => rw [hskip] at hbrace; cases hbrace
  · next cs hcomma =>
    rw [hskip] at hcomma
    cases hcomma
    dsimp only
    split
    · next hnil => rw [hquote] at hnil; cases hnil
    · next cs hnext =>
      rw [hquote] at hnext
      cases hnext
      exact hothers.lift _ id
    · next hnext => exact absurd hquote (hnext others)
  · next hcomma => exact absurd hskip (hcomma _)

/-- The colon behind a key, a value, and what else stands in the object. -/
theorem reads_readMemberValue {key : Option String} (ha : IsGap a)
    (hvalue : Reads (readValue value) v behind) (hbehind : Reads (readMembers behind) ms rest) :
    Reads (readMemberValue key (a ++ ':' :: value)) (.member key v ms) rest := by
  have hskip : skipSpace (a ++ ':' :: value) = ':' :: value := skipSpace_append ha (by decide) _
  obtain ⟨hshort, hrest⟩ := hvalue.exists_rest
  rw [readMemberValue]
  split
  · next hnil => rw [hskip] at hnil; cases hnil
  · next cs hcolon =>
    rw [hskip] at hcolon
    cases hcolon
    dsimp only
    split
    · next hnone => rw [hrest] at hnone; cases hnone
    · next cs hcs hsome =>
      rw [hrest] at hsome
      cases hsome
      rw [hvalue.1]
      exact hbehind.lift _ _
  · next hcolon => exact absurd hskip (hcolon _)

/-- A key behind its opening quote, and what belongs to it. -/
theorem reads_readMember {key : String} (hkey : readString {} cs = .read key behind)
    (hbehind : Reads (readMemberValue (some key) behind) ms rest) :
    Reads (readMember cs) ms rest := by
  rw [readMember]
  split
  · next s after hread =>
    rw [hkey] at hread
    cases hread
    exact hbehind.lift _ id
  · next hread => rw [hkey] at hread; cases hread
  · next hread => rw [hkey] at hread; cases hread

/-- The key of the first member, behind the opening brace of an object. -/
theorem reads_readObject (hgap : IsGap a) (hms : Reads (readMember cs) ms rest) :
    Reads (readObject (a ++ '"' :: cs)) ms rest := by
  have hskip : skipSpace (a ++ '"' :: cs) = '"' :: cs := skipSpace_append hgap (by decide) _
  rw [readObject]
  split
  · next hnil => rw [hskip] at hnil; cases hnil
  · next after hbrace => rw [hskip] at hbrace; cases hbrace
  · next after hquote =>
    rw [hskip] at hquote
    cases hquote
    exact hms.lift _ id
  · next hquote => exact absurd hskip (hquote _)

end Members

/-! ## Values -/

section Values

variable {gap cs rest : List Char}

/-- A string behind its opening quote. -/
theorem reads_readValue_string {s : String} (hgap : IsGap gap)
    (hs : readString {} cs = .read s rest) :
    Reads (readValue (gap ++ '"' :: cs)) (.string s) rest := by
  have hskip : skipSpace (gap ++ '"' :: cs) = '"' :: cs := skipSpace_append hgap (by decide) _
  rw [readValue]
  split
  · next hnil => rw [hskip] at hnil; cases hnil
  · next c after hquote =>
    rw [hskip] at hquote
    cases hquote
    exact reads_lexemeValue hs

/-- The members of an object behind its opening brace. -/
theorem reads_readValue_object {ms : Members} (hgap : IsGap gap)
    (hms : Reads (readObject cs) ms rest) :
    Reads (readValue (gap ++ '\x7b' :: cs)) (.object ms) rest := by
  have hskip : skipSpace (gap ++ '\x7b' :: cs) = '\x7b' :: cs :=
    skipSpace_append hgap (by decide) _
  rw [readValue]
  split
  · next hnil => rw [hskip] at hnil; cases hnil
  · next c after hbrace =>
    rw [hskip] at hbrace
    cases hbrace
    dsimp only
    rw [if_neg (by decide), if_neg (by decide), if_pos rfl]
    exact hms.lift _ Value.object

/-- A number from its first digit on. -/
theorem reads_readValue_natural {c : Char} {n : Nat} (hgap : IsGap gap) (hdigit : c.isDigit = true)
    (hn : readNumber (c :: cs) = .read (.natural n) rest) :
    Reads (readValue (gap ++ c :: cs)) (.ofNat n) rest := by
  -- a digit is none of the characters that other values start with
  have hne : ∀ {x : Char}, x.isDigit = false → c ≠ x := by
    rintro x hx rfl
    rw [hdigit] at hx
    cases hx
  have hspace : isSpace c = false := by
    simp [isSpace, hne (x := ' ') (by decide), hne (x := '\t') (by decide),
      hne (x := '\n') (by decide), hne (x := '\r') (by decide)]
  have hskip : skipSpace (gap ++ c :: cs) = c :: cs := skipSpace_append hgap hspace cs
  rw [readValue]
  split
  · next hnil => rw [hskip] at hnil; cases hnil
  · next x after hstart =>
    rw [hskip] at hstart
    cases hstart
    dsimp only
    rw [if_neg (hne (by decide)), if_neg (hne (by decide)), if_neg (hne (by decide)),
      if_neg (hne (by decide)), if_neg (hne (by decide)), if_neg (hne (by decide)),
      if_pos (Or.inr hdigit)]
    exact reads_lexemeValue hn

end Values

mutual

/-- **What a text spells is read**, behind any blanks. -/
theorem reads_of_spells {cs rest : List Char} {v : Value} :
    Spells cs v rest → ∀ {gap : List Char}, IsGap gap → Reads (readValue (gap ++ cs)) v rest
  | .string hs, _, hgap => reads_readValue_string hgap hs
  | .natural hdigit hn, _, hgap => reads_readValue_natural hgap hdigit hn
  | .object hinner hms, _, hgap =>
    reads_readValue_object hgap (reads_readObject hinner (reads_of_spellsMembers hms))

/-- And so are the members it spells. -/
theorem reads_of_spellsMembers {cs rest : List Char} {ms : Members} :
    SpellsMembers cs ms rest → Reads (readMember cs) ms rest
  | .last hkey ha hb hv hd =>
    reads_readMember hkey (reads_readMemberValue ha (reads_of_spells hv hb)
      (reads_readMembers_done hd _))
  | .more hkey ha hb hv hd he hms =>
    reads_readMember hkey (reads_readMemberValue ha (reads_of_spells hv hb)
      (reads_readMembers_more hd he (reads_of_spellsMembers hms)))

end

/-- **A text is read as the tree it spells**, with nothing behind it. -/
theorem ofText_of_spells {text : String} {v : Value} (h : Spells text.toList v []) :
    ofText text = (v, false) := by
  have hreads : Reads (readValue text.toList) v [] := reads_of_spells h isGap_nil
  obtain ⟨hshort, hrest⟩ := hreads.exists_rest
  rw [ofText, hreads.1, hrest]
  rfl

/-! ## Plain strings and numbers -/

/-- A character that stands for itself in a string. -/
def isPlain (c : Char) : Bool := c != '"' && c != '\\' && 0x20 ≤ c.toNat

section Plain

variable {s : Spelled} {cs ds rest : List Char}

/-- **Characters that need no escape are read as they are**, up to the
quote behind them. -/
theorem readString_plain (hhigh : s.high = none) (hunpaired : s.unpaired = false)
    (hplain : cs.all isPlain = true) :
    readString s (cs ++ '"' :: rest) = .read (String.ofList (s.chars.reverse ++ cs)) rest := by
  induction cs generalizing s with
  | nil =>
    rw [List.nil_append, readString, Spelled.close, hhigh, hunpaired, List.append_nil]
    rfl
  | cons c cs ih =>
    rw [List.all_cons, Bool.and_eq_true] at hplain
    obtain ⟨⟨hquote, hbackslash⟩, hprinted⟩ :
        (c ≠ '"' ∧ c ≠ '\\') ∧ 0x20 ≤ c.toNat := by
      simpa [isPlain] using hplain.1
    have hpushed : (s.push c).unpaired = false := by simp [Spelled.push, hhigh, hunpaired]
    have hrest := ih rfl hpushed hplain.2
    rw [List.cons_append, readString]
    · rw [if_neg (by omega), hrest]
      simp [Spelled.push]
    -- no escape begins here
    · exact hquote
    · exact fun _ _ _ _ _ hc _ => hbackslash hc
    · exact fun _ hc _ => hbackslash hc
    · exact fun _ _ hc _ => hbackslash hc
    · exact fun hc _ => hbackslash hc

/-- A text of such characters, behind its opening quote. -/
theorem readString_text (text : String) (hplain : text.toList.all isPlain = true) :
    readString {} (text.toList ++ '"' :: rest) = .read text rest := by
  have hread : readString {} (text.toList ++ '"' :: rest)
      = .read (String.ofList ([].reverse ++ text.toList)) rest := readString_plain rfl rfl hplain
  rwa [List.reverse_nil, List.nil_append, String.ofList_toList] at hread

/-- A key and a text of such characters, without blanks between the pieces. -/
theorem SpellsMembers.more_plain (key text : String) {others : List Char} {ms : Members}
    (hkey : key.toList.all isPlain = true) (htext : text.toList.all isPlain = true)
    (hothers : SpellsMembers others ms rest) :
    SpellsMembers (key.toList ++ '"' :: ':' :: '"' :: (text.toList ++ '"' :: ',' :: '"' :: others))
      (.member (some key) (.string text) ms) rest :=
  .more (readString_text key hkey) isGap_nil isGap_nil (.string (readString_text text htext))
    isGap_nil isGap_nil hothers

/-- Digits behind others make a number no smaller. -/
theorem le_foldl_digits (n : Nat) (ds : List Char) :
    n ≤ ds.foldl (fun n d => n * 10 + digitValue d) n := by
  induction ds generalizing n with
  | nil => exact Nat.le_refl n
  | cons d ds ih =>
    have hnext := ih (n * 10 + digitValue d)
    rw [List.foldl_cons]
    omega

/-- Digits that fit are all gathered. -/
theorem Gathered.whole_eq {g : Gathered}
    (hfits : ds.foldl (fun n d => n * 10 + digitValue d) g.significand ≤ significandLimit) :
    g.whole ds
      = { g with significand := ds.foldl (fun n d => n * 10 + digitValue d) g.significand } := by
  induction ds generalizing g with
  | nil => rfl
  | cons d ds ih =>
    rw [List.foldl_cons] at hfits ⊢
    have hnext := le_foldl_digits (g.significand * 10 + digitValue d) ds
    rw [whole, if_pos (by omega)]
    exact ih hfits

/-- Digits are taken from the front of a text up to the first other character. -/
theorem digits_append (hdigits : ∀ d ∈ ds, d.isDigit = true)
    (hrest : ∀ c ∈ rest.head?, c.isDigit = false) :
    digits (ds ++ rest) = ds ∧ behindDigits (ds ++ rest) = rest := by
  have hstop : rest.takeWhile Char.isDigit = [] ∧ rest.dropWhile Char.isDigit = rest := by
    cases rest with
    | nil => exact ⟨rfl, rfl⟩
    | cons c rest =>
      have hc := hrest c rfl
      exact ⟨List.takeWhile_cons_of_neg (by simp [hc]), List.dropWhile_cons_of_neg (by simp [hc])⟩
  constructor
  · rw [digits, List.takeWhile_append_of_pos hdigits, hstop.1, List.append_nil]
  · rw [behindDigits, List.dropWhile_append_of_pos hdigits, hstop.2]

/-- **Digits that fit are read as their number**, if no zero stands in front
without need and nothing behind them belongs to a number. -/
theorem readNumber_digits (ds : List Char) (hne : ds ≠ []) (hdigits : ds.all Char.isDigit = true)
    (hzero : ds.head? = some '0' → ds = ['0']) (hfits : natural ds ≤ significandLimit)
    (hrest : ∀ c ∈ rest.head?, c.isDigit = false ∧ c ≠ '.' ∧ c ≠ 'e' ∧ c ≠ 'E') :
    readNumber (ds ++ rest) = .read (.natural (natural ds)) rest := by
  obtain ⟨d, ds, rfl⟩ := List.exists_cons_of_ne_nil hne
  rw [List.all_eq_true] at hdigits
  obtain ⟨htaken, hleft⟩ := digits_append hdigits fun c hc => (hrest c hc).1
  have hwhole : ({} : Gathered).whole (d :: ds) = { significand := natural (d :: ds), power := 0 } :=
    Gathered.whole_eq hfits
  have hfraction : readFraction false { significand := natural (d :: ds), power := 0 } rest
      = .read (.natural (natural (d :: ds))) rest := by
    rw [readFraction]
    · rfl
    · rintro cs rfl
      exact (hrest _ rfl).2.1 rfl
    · rintro cs rfl
      exact (hrest _ rfl).2.2.1 rfl
    · rintro cs rfl
      exact (hrest _ rfl).2.2.2 rfl
  have hminus : d ≠ '-' := by
    rintro rfl
    exact absurd (hdigits '-' List.mem_cons_self) (by decide)
  rw [readNumber]
  · rw [readUnsigned, htaken, hleft]
    split
    · next hnil => cases hnil
    · next hneedless =>
      cases hneedless
      cases hzero rfl
    · rw [hwhole, hfraction]
  · exact fun cs hcs => hminus (List.cons.inj hcs).1

end Plain

end Json

end Companion
