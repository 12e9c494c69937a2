import Companion.Text.Sorted
import Mathlib.Tactic.SplitIfs
import Mathlib.Data.String.Basic

/-!
# Bytes — the order of texts is that of their bytes

Texts are compared character by character, and a file is compared byte by
byte. The two orders are one: of two characters, the smaller has the
smaller bytes, whatever comes behind them (`encode_append_lt`). So the
order of texts does not depend on which way one looks at them
(`bytes_lt_iff`). A mark at the end of every text leaves them in order,
unless one text goes on from another with a smaller character than the
mark (`concat_lt_concat_iff`).
-/

namespace Companion

namespace Text

variable {c d mark : Char} {s t : String} {cs ds : List Char}

/-- The bytes of a text as it is stored. -/
def bytes (s : String) : List UInt8 := s.toUTF8.data.toList

/-- They are those of its characters. -/
theorem bytes_eq (s : String) : bytes s = s.toList.flatMap String.utf8EncodeChar := by
  rw [bytes, String.toUTF8_eq_toByteArray, ← String.utf8Encode_toList, List.utf8Encode,
    List.data_toByteArray]

/-! ## Characters -/

/-- A small number is a byte of the same value, so bytes are compared as numbers. -/
theorem ofNat_lt_ofNat_iff {a b : Nat} (ha : a < 256) (hb : b < 256) :
    UInt8.ofNat a < UInt8.ofNat b ↔ a < b := by
  rw [UInt8.lt_iff_toNat_lt, UInt8.toNat_ofNat', UInt8.toNat_ofNat', Nat.mod_eq_of_lt ha,
    Nat.mod_eq_of_lt hb]

/-- And equal only when the numbers are. -/
theorem ofNat_eq_ofNat_iff {a b : Nat} (ha : a < 256) (hb : b < 256) :
    UInt8.ofNat a = UInt8.ofNat b ↔ a = b := by
  rw [← UInt8.toNat_inj, UInt8.toNat_ofNat', UInt8.toNat_ofNat', Nat.mod_eq_of_lt ha,
    Nat.mod_eq_of_lt hb]

/-- **The smaller character has the smaller bytes.** The first byte grows
with the number of bytes, and among characters of one length the bytes are
the digits of the character in base 64, the highest first. -/
theorem encode_append_lt (h : c < d) (xs ys : List UInt8) :
    String.utf8EncodeChar c ++ xs < String.utf8EncodeChar d ++ ys := by
  have hlt : c.val.toNat < d.val.toNat := UInt32.lt_iff_toNat_lt.1 (Char.lt_def.1 h)
  have hmax : d.val.toNat < 1114112 := by
    rcases d.valid with hlow | ⟨-, hhigh⟩ <;> omega
  have hthird : ∀ k : Nat, k / 4096 = k / 64 / 64 := fun k => (Nat.div_div_eq_div_mul k 64 64).symm
  have hfourth : ∀ k : Nat, k / 262144 = k / 64 / 64 / 64 := by
    intro k
    rw [Nat.div_div_eq_div_mul, Nat.div_div_eq_div_mul]
  simp only [String.utf8EncodeChar, hthird, hfourth]
  generalize c.val.toNat = m at *
  generalize d.val.toNat = n at *
  -- one case for each pair of lengths; the longer one first is impossible
  split_ifs
  all_goals try omega
  all_goals simp only [List.cons_append, List.nil_append, List.cons_lt_cons_iff]
  all_goals simp (disch := omega) only [ofNat_lt_ofNat_iff, ofNat_eq_ofNat_iff]
  all_goals omega

/-- Every character has a byte. -/
theorem encode_ne_nil (c : Char) : String.utf8EncodeChar c ≠ [] := by
  rw [← List.length_pos_iff, String.length_utf8EncodeChar]
  exact Char.utf8Size_pos c

/-! ## Texts -/

/-- The bytes of the smaller characters are smaller. -/
theorem flatMap_encode_lt (h : cs < ds) :
    cs.flatMap String.utf8EncodeChar < ds.flatMap String.utf8EncodeChar := by
  induction cs generalizing ds with
  | nil =>
    cases ds with
    | nil => exact absurd h (List.lt_irrefl [])
    | cons d ds =>
      obtain ⟨b, bs, hd⟩ := List.exists_cons_of_ne_nil (encode_ne_nil d)
      rw [List.flatMap_nil, List.flatMap_cons, hd]
      exact List.nil_lt_cons b _
  | cons c cs ih =>
    cases ds with
    | nil => exact absurd h (List.not_lt_nil _)
    | cons d ds =>
      rw [List.flatMap_cons, List.flatMap_cons]
      rcases List.cons_lt_cons_iff.1 h with hlt | ⟨rfl, hlt⟩
      · exact encode_append_lt hlt _ _
      · exact List.append_left_lt (ih hlt)

/-- **Texts are ordered as their bytes are.** -/
theorem bytes_lt_iff : bytes s < bytes t ↔ s < t := by
  have hgrows : ∀ {s t : String}, s < t → bytes s < bytes t := by
    intro s t h
    rw [bytes_eq, bytes_eq]
    exact flatMap_encode_lt (String.lt_iff_toList_lt.1 h)
  refine ⟨fun h => ?_, hgrows⟩
  rcases lt_trichotomy s t with hlt | rfl | hgt
  · exact hlt
  · exact absurd h (List.lt_irrefl _)
  · exact absurd h (List.lt_asymm (hgrows hgt))

/-! ## Texts between two marks -/

/-- A common beginning does not count. -/
theorem append_lt_append_iff {es : List Char} : es ++ cs < es ++ ds ↔ cs < ds := by
  induction es with
  | nil => rfl
  | cons e es ih => simp [ih]

/-- **Two texts stay in order when both get a mark at the end**, unless the
larger goes on from the smaller with a character below the mark. -/
theorem concat_lt_concat_iff (h : cs < ds) :
    cs ++ [mark] < ds ++ [mark] ↔ ∀ d rest, ds = cs ++ d :: rest → ¬ d < mark := by
  induction cs generalizing ds with
  | nil =>
    cases ds with
    | nil => exact absurd h (List.lt_irrefl [])
    | cons d rest =>
      have hrest : [] < rest ++ [mark] := by cases rest <;> exact List.nil_lt_cons _ _
      -- the mark of the smaller text meets a character of the larger one
      rw [List.nil_append, List.cons_append, List.cons_lt_cons_iff, and_iff_left hrest,
        ← le_iff_lt_or_eq, ← not_lt]
      simp
  | cons c cs ih =>
    cases ds with
    | nil => exact absurd h (List.not_lt_nil _)
    | cons d ds =>
      rw [List.cons_append, List.cons_append, List.cons_lt_cons_iff]
      rcases List.cons_lt_cons_iff.1 h with hlt | ⟨rfl, hlt⟩
      · simp [hlt, hlt.ne']
      · simp [ih hlt]

end Text

end Companion
