import Companion.Proofs.Type.Grammar
import Companion.Type.Text

/-!
# Spelled types — the texts a tree is written as

Not every tree is a type: a wildcard stands only as a type argument, its
bound is no bare primitive, and a class with arguments has at least one.
`declarable` is that shape, and every tree of the grammar has it
(`TypeText.declarable`). Conversely a tree of that shape whose classes
are spelled by words that are read as classes is written as a text of
the grammar (`typeText_spelled`), which is therefore read as the tree
with each class replaced by what its word is read as.
-/

namespace Companion

namespace TypeRef

open Text

/-! ## The shape of a declared type -/

mutual

/-- The tree may be declared, or stand as a type argument: arguments are
never missing, and wildcards are arguments with a proper bound. -/
def declarable (asArg : Bool) : TypeRef → Bool
  | primitive _ => true
  | named _ => true
  | parameterized _ args => !args.isEmpty && declarableArgs args
  | array t => declarable false t
  | wildcard => asArg
  | bounded _ t => asArg && declarable false t && !t.isPrimitive

/-- Each of the trees may stand as a type argument. -/
def declarableArgs : List TypeRef → Bool
  | [] => true
  | arg :: args => declarable true arg && declarableArgs args

end

/-- What may be declared may also be an argument. -/
theorem declarable_true {t : TypeRef} (h : declarable false t = true) :
    declarable true t = true := by
  cases t <;> simp_all [declarable]

/-! ## Replacing classes -/

mutual

/-- The tree with each class replaced. -/
def mapClasses (f : ClassName → ClassName) : TypeRef → TypeRef
  | primitive p => primitive p
  | named c => named (f c)
  | parameterized raw args => parameterized (f raw) (mapClassesArgs f args)
  | array t => array (mapClasses f t)
  | wildcard => wildcard
  | bounded side t => bounded side (mapClasses f t)

/-- The type arguments with each class replaced. -/
def mapClassesArgs (f : ClassName → ClassName) : List TypeRef → List TypeRef
  | [] => []
  | arg :: args => mapClasses f arg :: mapClassesArgs f args

end

mutual

/-- Classes that are replaced and then replaced back leave the tree as it was. -/
theorem mapClasses_mapClasses {f g : ClassName → ClassName} :
    ∀ t : TypeRef, (∀ c ∈ t.classes, g (f c) = c) → mapClasses g (mapClasses f t) = t
  | primitive _, _ => rfl
  | named c, h => congrArg named (h c (by simp [classes]))
  | parameterized raw args, h => by
    have hargs := mapClassesArgs_mapClassesArgs args fun c hc => h c (by simp [classes, hc])
    rw [mapClasses, mapClasses, hargs, h raw (by simp [classes])]
  | array t, h => congrArg array (mapClasses_mapClasses t h)
  | wildcard, _ => rfl
  | bounded side t, h => congrArg (bounded side) (mapClasses_mapClasses t h)

theorem mapClassesArgs_mapClassesArgs {f g : ClassName → ClassName} :
    ∀ args : List TypeRef, (∀ c ∈ classesOfArgs args, g (f c) = c) →
      mapClassesArgs g (mapClassesArgs f args) = args
  | [], _ => rfl
  | arg :: args, h => by
    have harg := mapClasses_mapClasses arg fun c hc => h c (by simp [classesOfArgs, hc])
    have hargs := mapClassesArgs_mapClassesArgs args fun c hc => h c (by simp [classesOfArgs, hc])
    rw [mapClassesArgs, mapClassesArgs, harg, hargs]

end

mutual

/-- Replacing each class by itself changes nothing. -/
theorem mapClasses_id : ∀ t : TypeRef, mapClasses id t = t
  | primitive _ => rfl
  | named _ => rfl
  | parameterized _ args => congrArg (parameterized _) (mapClassesArgs_id args)
  | array t => congrArg array (mapClasses_id t)
  | wildcard => rfl
  | bounded side t => congrArg (bounded side) (mapClasses_id t)

theorem mapClassesArgs_id : ∀ args : List TypeRef, mapClassesArgs id args = args
  | [] => rfl
  | arg :: args => congrArg₂ List.cons (mapClasses_id arg) (mapClassesArgs_id args)

end

/-- Replacing classes makes no type primitive. -/
theorem isPrimitive_mapClasses (f : ClassName → ClassName) (t : TypeRef) :
    (mapClasses f t).isPrimitive = t.isPrimitive := by
  cases t <;> rfl

/-! ## Trees of the grammar -/

mutual

/-- **The tree of a type has the shape of one**, and its classes are well-formed. -/
theorem TypeText.declarable {text : List Char} {t : TypeRef} (h : TypeText text t) :
    t.declarable false = true ∧ ∀ c ∈ t.classes, c.WellFormed := by
  match h with
  | .keyword _ _ => exact ⟨rfl, by simp [classes]⟩
  | .name _ hw =>
    refine ⟨rfl, fun c hc => ?_⟩
    rw [classes, List.mem_singleton] at hc
    exact hc ▸ ClassName.wellFormed_of_read hw.read
  | .applied _ hw _ hlist _ =>
    obtain ⟨hne, hargs, hclasses⟩ := hlist.declarable
    refine ⟨by simp [TypeRef.declarable, hne, hargs], fun c hc => ?_⟩
    rcases List.mem_cons.1 hc with rfl | hc
    · exact ClassName.wellFormed_of_read hw.read
    · exact hclasses c hc
  | .brackets hu _ _ => exact hu.declarable

/-- The tree of a type argument has the shape of one. -/
theorem ArgText.declarable {text : List Char} {t : TypeRef} (h : ArgText text t) :
    t.declarable true = true ∧ ∀ c ∈ t.classes, c.WellFormed := by
  match h with
  | .type hu => exact ⟨declarable_true hu.declarable.1, hu.declarable.2⟩
  | .wildcard _ => exact ⟨rfl, by simp [classes]⟩
  | .bounded _ _ hu _ hprim =>
    exact ⟨by simp [TypeRef.declarable, hu.declarable.1, hprim], hu.declarable.2⟩

/-- And so have the trees of a list of them, of which there is at least one. -/
theorem ArgsText.declarable {text : List Char} {ts : List TypeRef} (h : ArgsText text ts) :
    ts ≠ [] ∧ declarableArgs ts = true ∧ ∀ c ∈ classesOfArgs ts, c.WellFormed := by
  match h with
  | .one harg =>
    exact ⟨by simp, by simp [declarableArgs, harg.declarable.1],
      by simpa [classesOfArgs] using harg.declarable.2⟩
  | .more harg _ hlist =>
    obtain ⟨-, hargs, hclasses⟩ := hlist.declarable
    refine ⟨by simp, by simp [declarableArgs, harg.declarable.1, hargs], fun c hc => ?_⟩
    rcases List.mem_append.1 hc with hc | hc
    · exact harg.declarable.2 c hc
    · exact hclasses c hc

end

/-! ## Texts of trees -/

variable {b text : List Char} {t : TypeRef} {ts : List TypeRef}

/-- Blanks together are blanks. -/
theorem blanks_append {b d : List Char} (hb : Blanks b) (hd : Blanks d) : Blanks (b ++ d) := by
  intro c hc
  rcases List.mem_append.1 hc with hc | hc
  · exact hb c hc
  · exact hd c hc

/-- Further blanks may stand in front of a type. -/
theorem TypeText.blanks_append {b text : List Char} {t : TypeRef} (h : TypeText text t)
    (hb : Blanks b) : TypeText (b ++ text) t := by
  match h with
  | .keyword hb' hkey =>
    rw [← List.append_assoc]
    exact .keyword (TypeRef.blanks_append hb hb') hkey
  | .name hb' hw =>
    rw [← List.append_assoc]
    exact .name (TypeRef.blanks_append hb hb') hw
  | .applied hb' hw hgap hlist hlast =>
    have happlied := TypeText.applied (TypeRef.blanks_append hb hb') hw hgap hlist hlast
    simpa only [List.append_assoc] using happlied
  | .brackets hu hgap hinside =>
    rw [← List.append_assoc]
    exact .brackets (hu.blanks_append hb) hgap hinside

/-- And in front of an argument. -/
theorem ArgText.blanks_append (h : ArgText text t) (hb : Blanks b) : ArgText (b ++ text) t := by
  cases h with
  | type hu => exact .type (hu.blanks_append hb)
  | wildcard hb' =>
    rw [← List.append_assoc]
    exact .wildcard (TypeRef.blanks_append hb hb')
  | bounded hb' hgap hu hhead hprim =>
    rw [← List.append_assoc]
    exact .bounded (TypeRef.blanks_append hb hb') hgap hu hhead hprim

/-- And in front of a list of arguments. -/
theorem ArgsText.blanks_append (h : ArgsText text ts) (hb : Blanks b) :
    ArgsText (b ++ text) ts := by
  cases h with
  | one harg => exact .one (harg.blanks_append hb)
  | more harg hgap hlist =>
    rw [← List.append_assoc]
    exact .more (harg.blanks_append hb) hgap hlist

theorem blanks_space : Blanks [' '] := by
  intro c hc
  rw [List.mem_singleton.1 hc]
  decide +kernel

section Spelled

variable {spell : ClassName → String} {f : ClassName → ClassName}

/-- A wildcard whose bound is spelled as a type is spelled as an argument. -/
theorem argText_bounded {side : Bound} (h : TypeText (spelled spell t).toList (mapClasses f t))
    (hprim : t.isPrimitive = false) :
    ArgText (spelled spell (bounded side t)).toList (mapClasses f (bounded side t)) := by
  have htext : (spelled spell (bounded side t)).toList
      = [] ++ '?' :: ([' '] ++ side.keyword.toList ++ ([' '] ++ (spelled spell t).toList)) := by
    simp [spelled]
  rw [htext]
  refine .bounded blanks_nil blanks_space (h.blanks_append blanks_space) ?_ ?_
  · rintro x ⟨⟩
    decide +kernel
  · rwa [isPrimitive_mapClasses]

mutual

/-- **A tree is written as a text of the grammar** when its classes are
spelled by words that are read as classes. -/
theorem typeText_spelled :
    ∀ t : TypeRef, t.declarable false = true →
      (∀ c ∈ t.classes, ClassWord (spell c).toList (f c)) →
      TypeText (spelled spell t).toList (mapClasses f t)
  | primitive p, _, _ => .keyword blanks_nil (Primitive.ofKeyword?_keyword p)
  | named c, _, h => .name blanks_nil (h c (by simp [classes]))
  | parameterized raw args, hshape, h => by
    simp only [declarable, Bool.and_eq_true, Bool.not_eq_true', List.isEmpty_eq_false_iff] at hshape
    have hraw := h raw (by simp [classes])
    have hlist := argsText_spelled args hshape.1 hshape.2 fun c hc => h c (by simp [classes, hc])
    have htext : (spelled spell (parameterized raw args)).toList
        = [] ++ (spell raw).toList
          ++ ([] ++ '<' :: ((", ".intercalate (spelledArgs spell args)).toList ++ ([] ++ ['>']))) := by
      simp [spelled]
    rw [htext]
    exact .applied blanks_nil hraw blanks_nil hlist blanks_nil
  | array t, hshape, h => by
    have ht := typeText_spelled t hshape h
    have htext : (spelled spell (array t)).toList
        = (spelled spell t).toList ++ ([] ++ '[' :: ([] ++ [']'])) := by
      simp [spelled]
    rw [htext]
    exact .brackets ht blanks_nil blanks_nil

/-- And so are type arguments. -/
theorem argText_spelled :
    ∀ t : TypeRef, t.declarable true = true →
      (∀ c ∈ t.classes, ClassWord (spell c).toList (f c)) →
      ArgText (spelled spell t).toList (mapClasses f t)
  | primitive p, hshape, h => .type (typeText_spelled (primitive p) hshape h)
  | named c, hshape, h => .type (typeText_spelled (named c) hshape h)
  | parameterized raw args, hshape, h => .type (typeText_spelled (parameterized raw args) hshape h)
  | array t, hshape, h => .type (typeText_spelled (array t) hshape h)
  | wildcard, _, _ => by
    have htext : (spelled spell wildcard).toList = [] ++ ['?'] := by simp [spelled]
    rw [htext]
    exact .wildcard blanks_nil
  | bounded side t, hshape, h => by
    simp only [declarable, Bool.true_and, Bool.and_eq_true, Bool.not_eq_true'] at hshape
    exact argText_bounded (typeText_spelled t hshape.1 h) hshape.2

/-- And lists of them, with a comma and a space between two. -/
theorem argsText_spelled :
    ∀ args : List TypeRef, args ≠ [] → declarableArgs args = true →
      (∀ c ∈ classesOfArgs args, ClassWord (spell c).toList (f c)) →
      ArgsText (", ".intercalate (spelledArgs spell args)).toList (mapClassesArgs f args)
  | [], hne, _, _ => absurd rfl hne
  | [arg], _, hshape, h => by
    simp only [declarableArgs, Bool.and_true] at hshape
    have harg := argText_spelled arg hshape fun c hc => h c (by simpa [classesOfArgs] using hc)
    simpa [spelledArgs, mapClassesArgs] using ArgsText.one harg
  | arg :: arg' :: args, _, hshape, h => by
    rw [declarableArgs, Bool.and_eq_true] at hshape
    have harg := argText_spelled arg hshape.1 fun c hc => h c (by simp [classesOfArgs, hc])
    have hlist := argsText_spelled (arg' :: args) (by simp) hshape.2
      fun c hc => h c (List.mem_append_right _ hc)
    have htext : (", ".intercalate (spelledArgs spell (arg :: arg' :: args))).toList
        = (spelled spell arg).toList ++ ([] ++ ',' ::
          ([' '] ++ (", ".intercalate (spelledArgs spell (arg' :: args))).toList)) := by
      simp [spelledArgs]
    rw [htext]
    exact .more harg blanks_nil (hlist.blanks_append blanks_space)

end

end Spelled

/-- **A spelled tree is read back** with each class as its word is read. -/
theorem ofText_spelled {spell : ClassName → String} {f : ClassName → ClassName}
    (hshape : t.declarable false = true)
    (h : ∀ c ∈ t.classes, ClassWord (spell c).toList (f c)) :
    ofText (t.spelled spell) = .ok (mapClasses f t) :=
  ofText_eq_ok_iff.2
    ⟨_, [], (List.append_nil _).symm, typeText_spelled t hshape h, blanks_nil⟩

/-- What was read as a type has the shape of one, and its classes are well-formed. -/
theorem declarable_of_ofText {s : String} (h : ofText s = .ok t) :
    t.declarable false = true ∧ ∀ c ∈ t.classes, c.WellFormed := by
  obtain ⟨text, blanks, -, ht, -⟩ := ofText_eq_ok_iff.1 h
  exact ht.declarable

end TypeRef

end Companion
