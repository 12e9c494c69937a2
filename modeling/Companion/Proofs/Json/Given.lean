import Companion.Proofs.Json.Record

/-!
# Given members — what a decoded record has from its value

A value gives a member of a record under its key, when it is an object, or
in the place of the member, when it is a list (`Record.Gives`). No member
is put twice, so a component of the record that only one member changes is
what was read from the value of that member, whatever else the value gives
before and behind it (`read_of_decode`).
-/

namespace Companion

namespace Json

/-- An object has a member of the given name and value. -/
inductive Members.Has (name : String) (w : Value) : Members → Prop
  /-- The first member is it. -/
  | here {rest : Members} : Has name w (.member (some name) w rest)
  /-- It is behind the first member. -/
  | there {key : Option String} {v : Value} {rest : Members} :
      Has name w rest → Has name w (.member key v rest)

/-- A list has the given value at a position. -/
inductive Items.Has (w : Value) : Nat → Items → Prop
  /-- It is the first one. -/
  | here {rest : Items} : Has w 0 (.item w rest)
  /-- It is behind the first one. -/
  | there {i : Nat} {v : Value} {rest : Items} : Has w i rest → Has w (i + 1) (.item v rest)

namespace Record

variable {α β : Type} {record : Record α} {name : String} {get : α → β}
variable {read : Value → Decoded β} {w : Value}

/-- **A value gives a member of a record** under its key or in its place. -/
inductive Gives (record : Record α) (name : String) (w : Value) : Value → Prop
  /-- An object has it under the key of the member. -/
  | key {members : Members} : members.Has name w → Gives record name w (.object members)
  /-- A list has it in the place of the member. -/
  | place {items : Items} {i : Nat} : (record.members.map (·.name))[i]? = some name →
      items.Has w i → Gives record name w (.list items)

/-- A component of a record is that of one member: putting the member
makes it what is read from the value, and putting any other one leaves it
as it is. -/
structure IsMember (record : Record α) (name : String) (get : α → β)
    (read : Value → Decoded β) : Prop where
  /-- There is such a member. -/
  mem : name ∈ record.members.map (·.name)
  /-- It sets the component, and no other member changes it. -/
  put : ∀ m ∈ record.members, ∀ a v b, m.put a v = .ok b →
    if m.name = name then read v = .ok (get b) else get b = get a

/-- The member of a component sets it. -/
theorem IsMember.read_of_put (hmember : record.IsMember name get read) {m : Member α}
    (hm : m ∈ record.members) (hname : m.name = name) {a b : α} (h : m.put a w = .ok b) :
    read w = .ok (get b) := by
  have hput := hmember.put m hm a w b h
  rwa [if_pos hname] at hput

/-- Any other member leaves it as it is. -/
theorem IsMember.get_of_put (hmember : record.IsMember name get read) {m : Member α}
    (hm : m ∈ record.members) (hname : m.name ≠ name) {a b : α} (h : m.put a w = .ok b) :
    get b = get a := by
  have hput := hmember.put m hm a w b h
  rwa [if_neg hname] at hput

/-- A member whose key was seen is not put again. -/
theorem get_of_fromMembers (hmember : record.IsMember name get read) :
    ∀ (members : Members) (seen : List String) (a b : α), name ∈ seen →
      record.fromMembers seen a members = .ok b → get b = get a
  | .done, seen, a, b, hseen, h => by
    rw [fromMembers] at h
    split at h
    · cases h
      rfl
    · cases h
  | .member none v rest, seen, a, b, hseen, h => by
    rw [fromMembers] at h
    cases h
  | .member (some key) v rest, seen, a, b, hseen, h => by
    rw [fromMembers] at h
    split at h
    · split at h
      · cases h
      · exact get_of_fromMembers hmember rest seen a b hseen h
    · next m hfind =>
      split at h
      · cases h
      · next hnew =>
        obtain ⟨a', hput, h⟩ := exists_of_bind_eq_ok h
        have hkey : m.name = key := by simpa using List.find?_some hfind
        have hne : m.name ≠ name := by
          rintro rfl
          exact hnew (by simpa [hkey] using hseen)
        have hrest : get b = get a' :=
          get_of_fromMembers hmember rest _ a' b (List.mem_cons_of_mem key hseen) h
        rw [hrest]
        exact hmember.get_of_put (List.mem_of_find?_eq_some hfind) hne hput
  | .broken used passed, seen, a, b, hseen, h => by
    rw [fromMembers] at h
    cases h

/-- So a component is what the object gives for it. -/
theorem read_of_fromMembers (hmember : record.IsMember name get read) {members : Members}
    (hhas : members.Has name w) {seen : List String} {a b : α}
    (h : record.fromMembers seen a members = .ok b) : read w = .ok (get b) := by
  induction hhas generalizing seen a with
  | here =>
    rw [fromMembers] at h
    split at h
    · next hnone =>
      -- the name is that of a member, so it is found among them
      obtain ⟨m, hm, hname⟩ := List.mem_map.1 hmember.mem
      exact absurd (by simpa using hname) (List.find?_eq_none.1 hnone m hm)
    · next m hfind =>
      split at h
      · cases h
      · obtain ⟨a', hput, h⟩ := exists_of_bind_eq_ok h
        have hname : m.name = name := by simpa using List.find?_some hfind
        have hread : read w = .ok (get a') :=
          hmember.read_of_put (List.mem_of_find?_eq_some hfind) hname hput
        rw [hread, get_of_fromMembers hmember _ _ a' b List.mem_cons_self h]
  | @there key v rest hrest ih =>
    cases key with
    | none =>
      rw [fromMembers] at h
      cases h
    | some key =>
      rw [fromMembers] at h
      split at h
      · split at h
        · cases h
        · exact ih h
      · split at h
        · cases h
        · obtain ⟨a', -, h⟩ := exists_of_bind_eq_ok h
          exact ih h

/-- Members that are given as a list change no component of others. -/
theorem get_of_fromItems (hmember : record.IsMember name get read) :
    ∀ (items : Items) (left : List (Member α)) (position : Nat) (a b : α),
      (∀ m ∈ left, m ∈ record.members) → name ∉ left.map (·.name) →
      record.fromItems left position a items = .ok b → get b = get a
  | .done, left, position, a, b, hleft, hname, h => by
    rw [fromItems] at h
    split at h
    · cases h
      rfl
    · cases h
  | .item v rest, left, position, a, b, hleft, hname, h => by
    rcases left with - | ⟨m, left⟩
    · rw [fromItems] at h
      cases h
    · rw [fromItems] at h
      obtain ⟨a', hput, h⟩ := exists_of_bind_eq_ok h
      rw [List.map_cons, List.mem_cons, not_or] at hname
      obtain ⟨hne, hname⟩ := hname
      have hrest : get b = get a' := get_of_fromItems hmember rest left _ a' b
        (fun k hk => hleft k (List.mem_cons_of_mem m hk)) hname h
      rw [hrest]
      exact hmember.get_of_put (hleft m List.mem_cons_self) (Ne.symm hne) hput
  | .broken d, left, position, a, b, hleft, hname, h => by
    rw [fromItems] at h
    cases h

/-- So a component is what the list gives in its place. -/
theorem read_of_fromItems (hmember : record.IsMember name get read) {items : Items} {i : Nat}
    (hhas : items.Has w i) {left : List (Member α)} {position : Nat} {a b : α}
    (hleft : ∀ m ∈ left, m ∈ record.members) (hnodup : (left.map (·.name)).Nodup)
    (hplace : (left.map (·.name))[i]? = some name)
    (h : record.fromItems left position a items = .ok b) : read w = .ok (get b) := by
  induction hhas generalizing left position a with
  | here =>
    rcases left with - | ⟨m, left⟩
    · cases hplace
    · rw [fromItems] at h
      obtain ⟨a', hput, h⟩ := exists_of_bind_eq_ok h
      have hname : m.name = name := Option.some.inj hplace
      have hbehind : name ∉ left.map (·.name) := hname ▸ (List.nodup_cons.1 hnodup).1
      have hread : read w = .ok (get a') :=
        hmember.read_of_put (hleft m List.mem_cons_self) hname hput
      rw [hread, get_of_fromItems hmember _ left _ a' b
        (fun k hk => hleft k (List.mem_cons_of_mem m hk)) hbehind h]
  | there hrest ih =>
    rcases left with - | ⟨m, left⟩
    · cases hplace
    · rw [fromItems] at h
      obtain ⟨a', -, h⟩ := exists_of_bind_eq_ok h
      exact ih (fun k hk => hleft k (List.mem_cons_of_mem m hk)) (List.nodup_cons.1 hnodup).2
        hplace h

/-- **A component of a decoded record is what was read from the value that
is given for its member.** -/
theorem read_of_decode (hmember : record.IsMember name get read)
    (hnodup : (record.members.map (·.name)).Nodup) {v : Value} {a : α}
    (hgives : record.Gives name w v) (h : record.decode v = .ok a) : read w = .ok (get a) := by
  cases hgives with
  | key hhas => exact read_of_fromMembers hmember hhas h
  | place hplace hhas => exact read_of_fromItems hmember hhas (fun m hm => hm) hnodup hplace h

end Record

end Json

end Companion
