import Companion.Proofs.Type.Spelled

/-!
# Word trees — what the text of a type tells

The text of a type does not tell its classes, only the words they are
spelled with. A word tree is a type as far as its text tells it: each
keyword and each class is a word, with the trees of its arguments and the
number of brackets behind it. No two trees are written alike
(`chars_append_inj`), so two types are spelled alike exactly when they
have the same word tree (`spelled_eq_iff`); and when the words tell the
classes, the word tree tells the type (`ofTree_tree`).
-/

namespace Companion

open Text TypeRef

/-- A type as it is written, up to its words. -/
inductive WordTree where
  /-- A word with its type arguments, if it has any, and a number of bracket pairs. -/
  | word (text : String) (args : List WordTree) (dims : Nat)
  /-- The type argument that may be any type. -/
  | wildcard
  /-- The type argument that may be any type on one side of the bound. -/
  | bounded (side : Bound) (bound : WordTree)

namespace WordTree

/-! ## Texts of trees -/

/-- Pairs of brackets. -/
def brackets : Nat → List Char
  | 0 => []
  | dims + 1 => '[' :: ']' :: brackets dims

mutual

/-- The text of a tree. -/
def chars : WordTree → List Char
  | word text args dims => text.toList ++ (openArgs args ++ brackets dims)
  | wildcard => ['?']
  | bounded side bound => '?' :: ' ' :: (side.keyword.toList ++ ' ' :: chars bound)

/-- The text of the arguments of a word; nothing when it has none. -/
def openArgs : List WordTree → List Char
  | [] => []
  | arg :: args => '<' :: (chars arg ++ closeArgs args)

/-- The text of the arguments behind another one, up to the end of their list. -/
def closeArgs : List WordTree → List Char
  | [] => ['>']
  | arg :: args => ',' :: ' ' :: (chars arg ++ closeArgs args)

end

mutual

/-- The words of a tree. -/
def words : WordTree → List String
  | word text args _ => text :: wordsOfArgs args
  | wildcard => []
  | bounded _ bound => words bound

/-- The words of the trees of a list. -/
def wordsOfArgs : List WordTree → List String
  | [] => []
  | arg :: args => words arg ++ wordsOfArgs args

end

/-- A word is a run of characters of names that is not empty. -/
structure IsWord (text : String) : Prop where
  /-- It is not empty. -/
  ne_nil : text.toList ≠ []
  /-- It is made of characters of names. -/
  chars : ∀ x ∈ text.toList, isTypeNameChar x = true

/-! ## No two trees are written alike -/

/-- What stands behind a tree: nothing, or what separates it from the next
or ends the list. -/
def AtEnd (rest : List Char) : Prop := ∀ x ∈ rest.head?, x = ',' ∨ x = '>'

variable {rest rest' : List Char}

/-- Behind the arguments of a word stand brackets, or the word ends. -/
theorem head?_brackets (h : AtEnd rest) (dims : Nat) :
    ∀ x ∈ (brackets dims ++ rest).head?, x = '[' ∨ x = ',' ∨ x = '>' := by
  intro x hx
  cases dims with
  | zero => exact Or.inr (h x hx)
  | succ dims =>
    cases hx
    exact Or.inl rfl

/-- No word goes on behind itself. -/
theorem stops_openArgs (h : AtEnd rest) (args : List WordTree) (dims : Nat) :
    Stops (openArgs args ++ (brackets dims ++ rest)) := by
  intro x hx
  cases args with
  | nil =>
    rcases head?_brackets h dims x hx with rfl | rfl | rfl
    · exact (punctuation '[' (by decide)).1
    · exact (punctuation ',' (by decide)).1
    · exact (punctuation '>' (by decide)).1
  | cons arg args =>
    rw [openArgs] at hx
    cases hx
    exact (punctuation '<' (by decide)).1

/-- An argument ends where the next one or the end of the list begins. -/
theorem atEnd_closeArgs (args : List WordTree) (rest : List Char) :
    AtEnd (closeArgs args ++ rest) := by
  intro x hx
  cases args with
  | nil =>
    rw [closeArgs] at hx
    cases hx
    exact Or.inr rfl
  | cons arg args =>
    rw [closeArgs] at hx
    cases hx
    exact Or.inl rfl

/-- **A word ends where its characters end.** -/
theorem word_append_inj {text text' : String} (hw : IsWord text) (hw' : IsWord text')
    (hrest : Stops rest) (hrest' : Stops rest')
    (h : text.toList ++ rest = text'.toList ++ rest') : text = text' ∧ rest = rest' := by
  obtain ⟨hname, hbehind⟩ := nameOf_append blanks_nil hw.chars hw.ne_nil hrest
  obtain ⟨hname', hbehind'⟩ := nameOf_append blanks_nil hw'.chars hw'.ne_nil hrest'
  rw [List.nil_append, h] at hname hbehind
  rw [List.nil_append] at hname' hbehind'
  have htext : text.toList = text'.toList := hname.symm.trans hname'
  exact ⟨String.toList_inj.1 htext, hbehind.symm.trans hbehind'⟩

/-- Brackets end where no further pair stands. -/
theorem brackets_append_inj {dims dims' : Nat} (hrest : AtEnd rest) (hrest' : AtEnd rest')
    (h : brackets dims ++ rest = brackets dims' ++ rest') : dims = dims' ∧ rest = rest' := by
  have hnone : ∀ {r : List Char} (more : List Char), AtEnd r → r ≠ '[' :: more := by
    rintro r more hr rfl
    rcases hr '[' rfl with hx | hx <;> exact absurd hx (by decide)
  induction dims generalizing dims' with
  | zero =>
    cases dims' with
    | zero => exact ⟨rfl, h⟩
    | succ dims' => exact absurd h (hnone _ hrest)
  | succ dims ih =>
    cases dims' with
    | zero => exact absurd h.symm (hnone _ hrest')
    | succ dims' =>
      simp only [brackets, List.cons_append, List.cons.injEq, true_and] at h
      obtain ⟨hdims, hrests⟩ := ih h
      exact ⟨by rw [hdims], hrests⟩

/-- A wildcard is no word. -/
theorem word_append_ne {text : String} (hw : IsWord text) (rest cs : List Char) :
    text.toList ++ rest ≠ '?' :: cs := by
  intro h
  obtain ⟨x, xs, hx⟩ := List.exists_cons_of_ne_nil hw.ne_nil
  rw [hx, List.cons_append, List.cons.injEq] at h
  have hchar : isTypeNameChar x = true := hw.chars x (by simp [hx])
  rw [h.1, (punctuation '?' (by decide)).1] at hchar
  cases hchar

/-- No blank stands behind a wildcard without a bound. -/
theorem atEnd_ne_space (h : AtEnd rest) (cs : List Char) : rest ≠ ' ' :: cs := by
  rintro rfl
  rcases h ' ' rfl with hx | hx <;> exact absurd hx (by decide)

/-- The keywords of the two sides begin with different letters. -/
theorem keyword_append_inj {side side' : Bound} {cs cs' : List Char}
    (h : side.keyword.toList ++ cs = side'.keyword.toList ++ cs') : side = side' ∧ cs = cs' := by
  cases side <;> cases side'
  · exact ⟨rfl, List.append_cancel_left h⟩
  · simp [Bound.keyword] at h
  · simp [Bound.keyword] at h
  · exact ⟨rfl, List.append_cancel_left h⟩

mutual

/-- **A tree is told by its text**, whatever stands behind it. -/
theorem chars_append_inj : ∀ (s s' : WordTree) {rest rest' : List Char},
    (∀ w ∈ s.words, IsWord w) → (∀ w ∈ s'.words, IsWord w) → AtEnd rest → AtEnd rest' →
    s.chars ++ rest = s'.chars ++ rest' → s = s' ∧ rest = rest'
  | word text args dims, word text' args' dims', rest, rest', hs, hs', hrest, hrest', h => by
    simp only [words, List.mem_cons, forall_eq_or_imp] at hs hs'
    simp only [chars, List.append_assoc] at h
    obtain ⟨htext, hbehind⟩ := word_append_inj hs.1 hs'.1 (stops_openArgs hrest args dims)
      (stops_openArgs hrest' args' dims') h
    obtain ⟨hargs, hbrackets⟩ := openArgs_append_inj args args' hs.2 hs'.2
      (head?_brackets hrest dims) (head?_brackets hrest' dims') hbehind
    obtain ⟨hdims, hrests⟩ := brackets_append_inj hrest hrest' hbrackets
    exact ⟨by rw [htext, hargs, hdims], hrests⟩
  | word text args dims, wildcard, _, rest', hs, _, _, _, h => by
    simp only [chars, List.append_assoc] at h
    exact absurd h (word_append_ne (hs text (by simp [words])) _ _)
  | word text args dims, bounded side bound, _, rest', hs, _, _, _, h => by
    simp only [chars, List.append_assoc] at h
    exact absurd h (word_append_ne (hs text (by simp [words])) _ _)
  | wildcard, word text args dims, rest, _, _, hs', _, _, h => by
    simp only [chars, List.append_assoc] at h
    exact absurd h.symm (word_append_ne (hs' text (by simp [words])) _ _)
  | wildcard, wildcard, _, _, _, _, _, _, h => ⟨rfl, List.append_cancel_left h⟩
  | wildcard, bounded side bound, rest, rest', _, _, hrest, _, h => by
    simp only [chars, List.cons_append, List.nil_append, List.cons.injEq, true_and] at h
    exact absurd h (atEnd_ne_space hrest _)
  | bounded side bound, word text args dims, rest, _, _, hs', _, _, h => by
    simp only [chars, List.append_assoc] at h
    exact absurd h.symm (word_append_ne (hs' text (by simp [words])) _ _)
  | bounded side bound, wildcard, rest, rest', _, _, _, hrest', h => by
    simp only [chars, List.cons_append, List.nil_append, List.cons.injEq, true_and] at h
    exact absurd h.symm (atEnd_ne_space hrest' _)
  | bounded side bound, bounded side' bound', rest, rest', hs, hs', hrest, hrest', h => by
    simp only [chars, List.cons_append, List.append_assoc, List.cons.injEq, true_and] at h
    obtain ⟨hside, hbehind⟩ := keyword_append_inj h
    obtain ⟨hbound, hrests⟩ := chars_append_inj bound bound' hs hs' hrest hrest'
      (List.cons.inj hbehind).2
    exact ⟨by rw [hside, hbound], hrests⟩

/-- So are the arguments of a word, when no argument list follows. -/
theorem openArgs_append_inj : ∀ (args args' : List WordTree) {rest rest' : List Char},
    (∀ w ∈ wordsOfArgs args, IsWord w) → (∀ w ∈ wordsOfArgs args', IsWord w) →
    (∀ x ∈ rest.head?, x = '[' ∨ x = ',' ∨ x = '>') →
    (∀ x ∈ rest'.head?, x = '[' ∨ x = ',' ∨ x = '>') →
    openArgs args ++ rest = openArgs args' ++ rest' → args = args' ∧ rest = rest'
  | [], [], _, _, _, _, _, _, h => ⟨rfl, h⟩
  | [], arg :: args, rest, _, _, _, hrest, _, h => by
    rw [openArgs, openArgs, List.nil_append] at h
    rcases hrest '<' (by rw [h]; rfl) with hx | hx | hx <;> exact absurd hx (by decide)
  | arg :: args, [], _, rest', _, _, _, hrest', h => by
    rw [openArgs, openArgs, List.nil_append] at h
    rcases hrest' '<' (by rw [← h]; rfl) with hx | hx | hx <;> exact absurd hx (by decide)
  | arg :: args, arg' :: args', rest, rest', hs, hs', _, _, h => by
    simp only [wordsOfArgs, List.mem_append, or_imp, forall_and] at hs hs'
    simp only [openArgs, List.cons_append, List.append_assoc, List.cons.injEq, true_and] at h
    obtain ⟨harg, hbehind⟩ := chars_append_inj arg arg' hs.1 hs'.1 (atEnd_closeArgs args rest)
      (atEnd_closeArgs args' rest') h
    obtain ⟨hargs, hrests⟩ := closeArgs_append_inj args args' hs.2 hs'.2 hbehind
    exact ⟨by rw [harg, hargs], hrests⟩

/-- And the arguments up to the end of their list. -/
theorem closeArgs_append_inj : ∀ (args args' : List WordTree) {rest rest' : List Char},
    (∀ w ∈ wordsOfArgs args, IsWord w) → (∀ w ∈ wordsOfArgs args', IsWord w) →
    closeArgs args ++ rest = closeArgs args' ++ rest' → args = args' ∧ rest = rest'
  | [], [], _, _, _, _, h => ⟨rfl, List.append_cancel_left h⟩
  | [], arg :: args, _, _, _, _, h => by simp [closeArgs] at h
  | arg :: args, [], _, _, _, _, h => by simp [closeArgs] at h
  | arg :: args, arg' :: args', rest, rest', hs, hs', h => by
    simp only [wordsOfArgs, List.mem_append, or_imp, forall_and] at hs hs'
    simp only [closeArgs, List.cons_append, List.append_assoc, List.cons.injEq, true_and] at h
    obtain ⟨harg, hbehind⟩ := chars_append_inj arg arg' hs.1 hs'.1 (atEnd_closeArgs args rest)
      (atEnd_closeArgs args' rest') h
    obtain ⟨hargs, hrests⟩ := closeArgs_append_inj args args' hs.2 hs'.2 hbehind
    exact ⟨by rw [harg, hargs], hrests⟩

end

end WordTree

namespace TypeRef

open WordTree

/-! ## The word tree of a type -/

mutual

/-- The word tree of a type with further brackets behind it. -/
def tree (spell : ClassName → String) : TypeRef → Nat → WordTree
  | primitive p, dims => .word p.keyword [] dims
  | named c, dims => .word (spell c) [] dims
  | parameterized raw args, dims => .word (spell raw) (treesOfArgs spell args) dims
  | array t, dims => tree spell t (dims + 1)
  | wildcard, _ => .wildcard
  | bounded side t, _ => .bounded side (tree spell t 0)

/-- The word trees of type arguments. -/
def treesOfArgs (spell : ClassName → String) : List TypeRef → List WordTree
  | [] => []
  | arg :: args => tree spell arg 0 :: treesOfArgs spell args

end

/-- The word tree of a type whose classes are spelled by `spell`. -/
def wordTree (spell : ClassName → String) (t : TypeRef) : WordTree := tree spell t 0

variable {spell : ClassName → String} {t u : TypeRef}

/-- Joined texts are the first one and the others, each behind a comma and a space. -/
theorem toList_intercalate_comma (text : String) (texts : List String) :
    (", ".intercalate (text :: texts)).toList
      = text.toList ++ texts.flatMap fun s => ',' :: ' ' :: s.toList := by
  rw [String.toList_intercalate]
  induction texts generalizing text with
  | nil => simp
  | cons next texts ih =>
    have hrest := ih next
    rw [List.map_cons] at hrest ⊢
    rw [List.map_cons, List.intercalate_cons_cons, hrest]
    simp

mutual

/-- **The text of a type is that of its word tree.** -/
theorem chars_tree : ∀ (t : TypeRef) (dims : Nat), t.declarable false = true →
    (tree spell t dims).chars = (spelled spell t).toList ++ brackets dims
  | primitive p, dims, _ => by simp [tree, spelled, chars, openArgs]
  | named c, dims, _ => by simp [tree, spelled, chars, openArgs]
  | parameterized raw [], dims, hshape => by simp [declarable] at hshape
  | parameterized raw (arg :: args), dims, hshape => by
    simp only [declarable, declarableArgs, List.isEmpty_cons, Bool.not_false, Bool.true_and,
      Bool.and_eq_true] at hshape
    have harg := chars_tree_arg arg hshape.1
    have hargs := closeArgs_treesOfArgs args hshape.2
    have htext := toList_intercalate_comma (spelled spell arg) (spelledArgs spell args)
    simp [tree, treesOfArgs, spelled, spelledArgs, chars, openArgs, harg, hargs, htext]
  | array t, dims, hshape => by
    have ht := chars_tree t (dims + 1) hshape
    rw [tree, ht]
    simp [spelled, brackets]

/-- So is that of an argument. -/
theorem chars_tree_arg : ∀ t : TypeRef, t.declarable true = true →
    (tree spell t 0).chars = (spelled spell t).toList
  | primitive p, hshape => by simpa [brackets] using chars_tree (primitive p) 0 hshape
  | named c, hshape => by simpa [brackets] using chars_tree (named c) 0 hshape
  | parameterized raw args, hshape => by
    simpa [brackets] using chars_tree (parameterized raw args) 0 hshape
  | array t, hshape => by simpa [brackets] using chars_tree (array t) 0 hshape
  | wildcard, _ => by simp [tree, spelled, chars]
  | bounded side t, hshape => by
    simp only [declarable, Bool.true_and, Bool.and_eq_true] at hshape
    have ht := chars_tree t 0 hshape.1
    simp [tree, spelled, chars, brackets, ht]

/-- And that of further arguments. -/
theorem closeArgs_treesOfArgs : ∀ args : List TypeRef, declarableArgs args = true →
    closeArgs (treesOfArgs spell args)
      = ((spelledArgs spell args).flatMap fun s => ',' :: ' ' :: s.toList) ++ ['>']
  | [], _ => rfl
  | arg :: args, hshape => by
    rw [declarableArgs, Bool.and_eq_true] at hshape
    have harg := chars_tree_arg arg hshape.1
    have hargs := closeArgs_treesOfArgs args hshape.2
    simp [treesOfArgs, spelledArgs, closeArgs, harg, hargs]

end

/-- A keyword is a word. -/
theorem isWord_keyword (p : Primitive) : IsWord p.keyword := by
  obtain ⟨hne, hchars⟩ := isTypeNameChar_of_keyword (Primitive.ofKeyword?_keyword p)
  exact ⟨hne, hchars⟩

mutual

/-- The words of the tree are words when the classes are spelled by words. -/
theorem isWord_of_mem_tree : ∀ (t : TypeRef) (dims : Nat),
    (∀ c ∈ t.classes, IsWord (spell c)) → ∀ w ∈ (tree spell t dims).words, IsWord w
  | primitive p, _, _, w, hw => by
    simp only [tree, words, wordsOfArgs, List.mem_singleton] at hw
    exact hw ▸ isWord_keyword p
  | named c, _, h, w, hw => by
    simp only [tree, words, wordsOfArgs, List.mem_singleton] at hw
    exact hw ▸ h c (by simp [classes])
  | parameterized raw args, _, h, w, hw => by
    rw [tree, words, List.mem_cons] at hw
    rcases hw with rfl | hw
    · exact h raw (by simp [classes])
    · exact isWord_of_mem_treesOfArgs args (fun c hc => h c (by simp [classes, hc])) w hw
  | array t, dims, h, w, hw => isWord_of_mem_tree t (dims + 1) h w hw
  | wildcard, _, _, w, hw => by simp [tree, words] at hw
  | bounded _ t, _, h, w, hw => isWord_of_mem_tree t 0 h w hw

theorem isWord_of_mem_treesOfArgs : ∀ args : List TypeRef,
    (∀ c ∈ classesOfArgs args, IsWord (spell c)) →
      ∀ w ∈ wordsOfArgs (treesOfArgs spell args), IsWord w
  | [], _, w, hw => by simp [treesOfArgs, wordsOfArgs] at hw
  | arg :: args, h, w, hw => by
    rw [treesOfArgs, wordsOfArgs, List.mem_append] at hw
    rcases hw with hw | hw
    · exact isWord_of_mem_tree arg 0 (fun c hc => h c (by simp [classesOfArgs, hc])) w hw
    · exact isWord_of_mem_treesOfArgs args (fun c hc => h c (by simp [classesOfArgs, hc])) w hw

end

/-- **Two types are spelled alike** exactly when they have the same word tree. -/
theorem spelled_eq_iff (ht : t.declarable false = true) (hu : u.declarable false = true)
    (hwt : ∀ c ∈ t.classes, IsWord (spell c)) (hwu : ∀ c ∈ u.classes, IsWord (spell c)) :
    t.spelled spell = u.spelled spell ↔ t.wordTree spell = u.wordTree spell := by
  have htext : ∀ {v : TypeRef}, v.declarable false = true →
      (v.wordTree spell).chars = (spelled spell v).toList := by
    intro v hv
    have hchars : (v.wordTree spell).chars = (spelled spell v).toList ++ brackets 0 :=
      chars_tree v 0 hv
    rwa [brackets, List.append_nil] at hchars
  have hend : AtEnd [] := by simp [AtEnd]
  constructor
  · intro h
    have hchars : (t.wordTree spell).chars ++ [] = (u.wordTree spell).chars ++ [] := by
      rw [htext ht, htext hu, h]
    exact (chars_append_inj _ _ (isWord_of_mem_tree t 0 hwt) (isWord_of_mem_tree u 0 hwu)
      hend hend hchars).1
  · intro h
    rw [← String.toList_inj, ← htext ht, ← htext hu, h]

/-! ## The type of a word tree -/

/-- A type with a number of brackets behind it. -/
def arrays : Nat → TypeRef → TypeRef
  | 0, t => t
  | dims + 1, t => arrays dims (array t)

mutual

/-- The type of a word tree, when words that are no keywords name the classes they give. -/
def ofTree (back : String → ClassName) : WordTree → TypeRef
  | .word text args dims =>
    arrays dims <|
      match Primitive.ofKeyword? text.toList, ofTrees back args with
      | some p, _ => primitive p
      | none, [] => named (back text)
      | none, arg :: args => parameterized (back text) (arg :: args)
  | .wildcard => wildcard
  | .bounded side bound => bounded side (ofTree back bound)

/-- The types of word trees. -/
def ofTrees (back : String → ClassName) : List WordTree → List TypeRef
  | [] => []
  | tree :: trees => ofTree back tree :: ofTrees back trees

end

variable {back : String → ClassName}

mutual

/-- **The word tree tells the type** when the words tell the classes and
none of them is a keyword. -/
theorem ofTree_tree : ∀ (t : TypeRef) (dims : Nat), t.declarable false = true →
    (∀ c ∈ t.classes, back (spell c) = c ∧ Primitive.ofKeyword? (spell c).toList = none) →
    ofTree back (tree spell t dims) = arrays dims t
  | primitive p, _, _, _ => by
    simp only [tree, ofTree, Primitive.ofKeyword?_keyword]
  | named c, _, _, h => by
    obtain ⟨hback, hkey⟩ := h c (by simp [classes])
    simp only [tree, ofTree, ofTrees, hkey, hback]
  | parameterized raw [], _, hshape, _ => by simp [declarable] at hshape
  | parameterized raw (arg :: args), _, hshape, h => by
    simp only [declarable, List.isEmpty_cons, Bool.not_false, Bool.true_and] at hshape
    obtain ⟨hback, hkey⟩ := h raw (by simp [classes])
    have hargs := ofTrees_treesOfArgs (arg :: args) hshape fun c hc => h c (by simp [classes, hc])
    simp only [tree, ofTree, hargs, hkey, hback]
  | array t, dims, hshape, h => by
    rw [tree, ofTree_tree t (dims + 1) hshape h, arrays]

/-- And so do the word trees of arguments. -/
theorem ofTree_tree_arg : ∀ t : TypeRef, t.declarable true = true →
    (∀ c ∈ t.classes, back (spell c) = c ∧ Primitive.ofKeyword? (spell c).toList = none) →
    ofTree back (tree spell t 0) = t
  | primitive p, hshape, h => ofTree_tree (primitive p) 0 hshape h
  | named c, hshape, h => ofTree_tree (named c) 0 hshape h
  | parameterized raw args, hshape, h => ofTree_tree (parameterized raw args) 0 hshape h
  | array t, hshape, h => ofTree_tree (array t) 0 hshape h
  | wildcard, _, _ => rfl
  | bounded side t, hshape, h => by
    simp only [declarable, Bool.true_and, Bool.and_eq_true] at hshape
    have ht := ofTree_tree t 0 hshape.1 h
    rw [tree, ofTree, ht, arrays]

theorem ofTrees_treesOfArgs : ∀ args : List TypeRef, declarableArgs args = true →
    (∀ c ∈ classesOfArgs args, back (spell c) = c ∧
      Primitive.ofKeyword? (spell c).toList = none) →
    ofTrees back (treesOfArgs spell args) = args
  | [], _, _ => rfl
  | arg :: args, hshape, h => by
    rw [declarableArgs, Bool.and_eq_true] at hshape
    have harg := ofTree_tree_arg arg hshape.1 fun c hc => h c (by simp [classesOfArgs, hc])
    have hargs := ofTrees_treesOfArgs args hshape.2 fun c hc => h c (by simp [classesOfArgs, hc])
    rw [treesOfArgs, ofTrees, harg, hargs]

end

end TypeRef

end Companion
