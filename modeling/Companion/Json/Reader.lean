import Companion.Json.Quote

/-!
# Reading a JSON text

A text is read into a tree in one pass from left to right. Where the format is broken
the tree gets a defect and reading stops. Reading a value uses up part of the text, so
what is left is shorter and the reader ends.
-/

namespace Companion

namespace Json

/-- The blanks that may stand between the pieces of a text. -/
def isSpace (c : Char) : Bool := c == ' ' || c == '\t' || c == '\n' || c == '\r'

/-- The text without its leading blanks. -/
def skipSpace (cs : List Char) : List Char := cs.dropWhile isSpace

theorem length_skipSpace_le (cs : List Char) : (skipSpace cs).length ≤ cs.length :=
  (List.dropWhile_sublist isSpace).length_le

theorem length_lt_of_skipSpace {cs rest : List Char} {c : Char} (h : skipSpace cs = c :: rest) :
    rest.length < cs.length := by
  have := length_skipSpace_le cs
  rw [h, List.length_cons] at this
  omega

/-- The rest of a text behind the remaining letters of a word. -/
def readWord : List Char → List Char → Except Defect (List Char)
  | [], cs => .ok cs
  | _ :: _, [] => .error .truncated
  | w :: ws, c :: cs => if w = c then readWord ws cs else .error .malformed

theorem length_readWord_le {ws cs rest : List Char} (h : readWord ws cs = .ok rest) :
    rest.length ≤ cs.length := by
  induction ws generalizing cs with
  | nil => cases h; exact Nat.le_refl _
  | cons w ws ih =>
    cases cs with
    | nil => cases h
    | cons c cs =>
      rw [readWord] at h
      split at h
      · exact Nat.le_succ_of_le (ih h)
      · cases h

/-- A tree read from the front of a text of `size` characters, and what is left of the text unless a
defect ended the reading. -/
structure Front (α : Type) (size : Nat) where
  /-- The tree. -/
  tree : α
  /-- The rest of the text. -/
  rest? : Option { cs : List Char // cs.length < size }

namespace Front

variable {α β : Type} {size larger : Nat}

/-- A tree that ends in a defect. -/
def stop (tree : α) : Front α size := ⟨tree, none⟩

/-- A tree and what is left of the text. -/
def go (tree : α) (cs : List Char) (h : cs.length < size) : Front α size := ⟨tree, some ⟨cs, h⟩⟩

/-- The given tree in place of the one that was read, and in front of a longer text. -/
def lift (f : Front α size) (h : size ≤ larger) (g : α → β) : Front β larger :=
  ⟨g f.tree, f.rest?.map fun r => ⟨r.1, Nat.lt_of_lt_of_le r.2 h⟩⟩

end Front

/-- The value of a word of which the first letter has been read. -/
def wordValue (v : Value) (ws : List Char) {size : Nat} (cs : List Char) (h : cs.length < size) :
    Front Value size :=
  match word : readWord ws cs with
  | .ok rest => .go v rest (Nat.lt_of_le_of_lt (length_readWord_le word) h)
  | .error d => .stop (.broken d (some d))

/-- The value of a lexeme that leaves a shorter text. -/
def lexemeValue {α : Type} (l : Lexeme α) (v : α → Value) {size : Nat}
    (h : ∀ rest, l.rest? = some rest → rest.length < size) : Front Value size :=
  match l with
  | .read a rest => .go (v a) rest (h rest rfl)
  | .unusable rest => .go (.broken .malformed none) rest (h rest rfl)
  | .broken used passed => .stop (.broken used (some passed))

mutual

/-- A value at the front of a text. -/
def readValue (cs : List Char) : Front Value cs.length :=
  match start : skipSpace cs with
  | [] => .stop (.broken .truncated (some .truncated))
  | c :: rest =>
    have short := length_lt_of_skipSpace start
    if c = '"' then
      lexemeValue (readString {} rest) .string fun _ h =>
        Nat.lt_trans (length_readString_lt h) short
    else if c = '[' then (readList rest).lift (Nat.le_of_lt short) .list
    else if c = '\x7b' then (readObject rest).lift (Nat.le_of_lt short) .object
    else if c = 'n' then wordValue .null ['u', 'l', 'l'] rest short
    else if c = 't' then wordValue (.bool true) ['r', 'u', 'e'] rest short
    else if c = 'f' then wordValue (.bool false) ['a', 'l', 's', 'e'] rest short
    else if c = '-' ∨ c.isDigit then
      lexemeValue (readNumber (c :: rest)) .number fun _ h => by
        have := length_readNumber_lt h
        rw [List.length_cons] at this
        omega
    else .stop (.broken .malformed (some .malformed))
termination_by 3 * cs.length

/-- The values of a list behind its opening bracket. -/
def readList (cs : List Char) : Front Items cs.length :=
  match start : skipSpace cs with
  | [] => .stop (.broken .truncated)
  | ']' :: rest => .go .done rest (length_lt_of_skipSpace start)
  | _ => readItem cs
termination_by 3 * cs.length + 2

/-- A value of a list, and those behind it. What would follow a value in which a defect ended the
reading is not asked for. -/
def readItem (cs : List Char) : Front Items cs.length :=
  let f := readValue cs
  match f.rest? with
  | none => .stop (.item f.tree .done)
  | some ⟨rest, short⟩ => (readItems rest).lift (Nat.le_of_lt short) (.item f.tree)
termination_by 3 * cs.length + 1

/-- The values of a list behind another one. -/
def readItems (cs : List Char) : Front Items cs.length :=
  match start : skipSpace cs with
  | [] => .stop (.broken .truncated)
  | ']' :: rest => .go .done rest (length_lt_of_skipSpace start)
  | ',' :: rest =>
    have short := length_lt_of_skipSpace start
    (readItem rest).lift (Nat.le_of_lt short) id
  | _ => .stop (.broken .malformed)
termination_by 3 * cs.length

/-- The members of an object behind its opening brace. -/
def readObject (cs : List Char) : Front Members cs.length :=
  match start : skipSpace cs with
  | [] => .stop (.broken .truncated .truncated)
  | '\x7d' :: rest => .go .done rest (length_lt_of_skipSpace start)
  | '"' :: rest =>
    have short := length_lt_of_skipSpace start
    (readMember rest).lift (Nat.le_of_lt short) id
  | _ => .stop (.broken .malformed .malformed)
termination_by 3 * cs.length

/-- A member of an object behind the opening quote of its key, and those behind it. -/
def readMember (cs : List Char) : Front Members cs.length :=
  match key : readString {} cs with
  | .read s rest =>
    have short := length_readString_lt (by rw [key]; rfl)
    (readMemberValue (some s) rest).lift (Nat.le_of_lt short) id
  | .unusable rest =>
    have short := length_readString_lt (by rw [key]; rfl)
    (readMemberValue none rest).lift (Nat.le_of_lt short) id
  | .broken used passed => .stop (.broken used passed)
termination_by 3 * cs.length

/-- The value of a member behind its key, and the members behind it. -/
def readMemberValue (key : Option String) (cs : List Char) : Front Members cs.length :=
  match start : skipSpace cs with
  | [] => .stop (.member key (.broken .truncated (some .truncated)) .done)
  | ':' :: rest =>
    have short := length_lt_of_skipSpace start
    let f := readValue rest
    match f.rest? with
    | none => .stop (.member key f.tree .done)
    | some ⟨behind, shorter⟩ =>
      (readMembers behind).lift (Nat.le_of_lt (Nat.lt_trans shorter short)) (.member key f.tree)
  | _ => .stop (.member key (.broken .malformed (some .malformed)) .done)
termination_by 3 * cs.length

/-- The members of an object behind another one. -/
def readMembers (cs : List Char) : Front Members cs.length :=
  match start : skipSpace cs with
  | [] => .stop (.broken .truncated .truncated)
  | '\x7d' :: rest => .go .done rest (length_lt_of_skipSpace start)
  | ',' :: rest =>
    have short := length_lt_of_skipSpace start
    match next : skipSpace rest with
    | [] => .stop (.broken .truncated .truncated)
    | '"' :: rest =>
      have shorter := length_lt_of_skipSpace next
      (readMember rest).lift (Nat.le_of_lt (Nat.lt_trans shorter short)) id
    | _ => .stop (.broken .malformed .malformed)
  | _ => .stop (.broken .malformed .malformed)
termination_by 3 * cs.length

end

/-- The tree of a whole text, and whether something other than blanks is left behind it. -/
def ofText (text : String) : Value × Bool :=
  let f := readValue text.toList
  (f.tree, f.rest?.any fun rest => !(skipSpace rest.1).isEmpty)

end Json

end Companion
