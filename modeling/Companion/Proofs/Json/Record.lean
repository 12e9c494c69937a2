import Companion.Json.Decode
import Companion.Proofs.Result

/-!
# Decoded records — what holds of a record that was decoded

A record is decoded by putting one member after the other into a blank
one, from an object or from a list. An invariant of putting therefore
holds of what was decoded, and every required member was put
(`invariant_of_decode`).
-/

namespace Companion

namespace Json

/-- A value of the wrong kind is reported. -/
theorem Value.unwanted_ne_ok {α : Type} {wanted : String} {v : Value} {a : α} :
    v.unwanted wanted ≠ .ok a := by
  cases v <;> simp [unwanted, mismatched]

/-- A text that is given has the meaning it is read with. -/
theorem Value.toMeaning_string_eq_ok_iff {α : Type} {read : String → Except TypeError α}
    {text : String} {a : α} : (string text).toMeaning read = .ok a ↔ read text = .ok a :=
  mapError_eq_ok_iff

namespace Record

variable {α : Type} {record : Record α} {Inv : List String → α → Prop}

/-- A record is decoded from an object member by member. -/
theorem decode_object (members : Members) :
    record.decode (.object members) = record.fromMembers [] record.blank members := rfl

/-- A fact about a record and the members put so far that putting a
further member keeps. -/
def Keeps (record : Record α) (Inv : List String → α → Prop) : Prop :=
  ∀ m ∈ record.members, ∀ seen a v a', Inv seen a → m.put a v = .ok a' → Inv (m.name :: seen) a'

/-- Members given as a list are put in their order, and none that is
required is left out at the end. -/
theorem invariant_of_fromItems (hput : record.Keeps Inv) :
    ∀ (items : Items) (gone left : List (Member α)) (position : Nat) (seen : List String) (a a' : α),
      record.members = gone ++ left → (∀ m ∈ gone, m.name ∈ seen) → Inv seen a →
      record.fromItems left position a items = .ok a' →
      ∃ seen, Inv seen a' ∧ ∀ m ∈ record.members, m.required = true → m.name ∈ seen
  | .done, gone, left, position, seen, a, a', hmembers, hgone, ha, h => by
    rw [fromItems] at h
    split at h
    · next hnone =>
      cases h
      refine ⟨seen, ha, fun m hm hreq => ?_⟩
      rcases List.mem_append.1 (hmembers ▸ hm) with hm | hm
      · exact hgone m hm
      · have hno := List.findIdx?_eq_none_iff.1 hnone m hm
        rw [hreq] at hno
        cases hno
    · cases h
  | .item v rest, gone, left, position, seen, a, a', hmembers, hgone, ha, h => by
    rcases left with - | ⟨m, left⟩
    · rw [fromItems] at h
      cases h
    · rw [fromItems] at h
      obtain ⟨b, hv, h⟩ := exists_of_bind_eq_ok h
      have hm : m ∈ record.members := by simp [hmembers]
      refine invariant_of_fromItems hput rest (gone ++ [m]) left (position + 1) (m.name :: seen)
        b a' (by simp [hmembers]) (fun k hk => ?_) (hput m hm seen a v b ha hv) h
      rcases List.mem_append.1 hk with hk | hk
      · exact List.mem_cons_of_mem _ (hgone k hk)
      · rw [List.mem_singleton.1 hk]
        exact List.mem_cons_self
  | .broken d, gone, left, position, seen, a, a', hmembers, hgone, ha, h => by
    rw [fromItems] at h
    cases h

/-- Members given by their keys are put as they come, and none that is
required is missing at the end. -/
theorem invariant_of_fromMembers (hput : record.Keeps Inv) :
    ∀ (members : Members) (seen : List String) (a a' : α), Inv seen a →
      record.fromMembers seen a members = .ok a' →
      ∃ seen, Inv seen a' ∧ ∀ m ∈ record.members, m.required = true → m.name ∈ seen
  | .done, seen, a, a', ha, h => by
    rw [fromMembers] at h
    split at h
    · next hnone =>
      cases h
      refine ⟨seen, ha, fun m hm hreq => ?_⟩
      have hno := List.find?_eq_none.1 hnone m hm
      simpa [hreq] using hno
    · cases h
  | .member none v rest, seen, a, a', ha, h => by
    rw [fromMembers] at h
    cases h
  | .member (some key) v rest, seen, a, a', ha, h => by
    rw [fromMembers] at h
    split at h
    · split at h
      · cases h
      · exact invariant_of_fromMembers hput rest seen a a' ha h
    · next m hfind =>
      split at h
      · cases h
      · obtain ⟨b, hv, h⟩ := exists_of_bind_eq_ok h
        have hkey : m.name = key := by simpa using List.find?_some hfind
        have hb : Inv (key :: seen) b :=
          hkey ▸ hput m (List.mem_of_find?_eq_some hfind) seen a v b ha hv
        exact invariant_of_fromMembers hput rest (key :: seen) b a' hb h
  | .broken used passed, seen, a, a', ha, h => by
    rw [fromMembers] at h
    cases h

/-- **An invariant of putting members holds of a decoded record**, and
every required member was put. -/
theorem invariant_of_decode {v : Value} {a : α} (hblank : Inv [] record.blank)
    (hput : record.Keeps Inv) (h : record.decode v = .ok a) :
    ∃ seen, Inv seen a ∧ ∀ m ∈ record.members, m.required = true → m.name ∈ seen := by
  unfold decode at h
  split at h
  · next items =>
    exact invariant_of_fromItems hput items [] record.members 0 [] record.blank a rfl (by simp)
      hblank h
  · next members => exact invariant_of_fromMembers hput members [] record.blank a hblank h
  · next v _ _ => exact absurd h Value.unwanted_ne_ok

end Record

end Json

end Companion
