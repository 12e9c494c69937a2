import Companion.Proofs.Generator.Outcome

/-!
# Noninterference — what a companion leaves out leaves no trace

A companion shows the eligible fields of its declaration and says which
of them are the primary key or not persisted. Two rounds may differ in
everything else and give the same output (`process_of_corresponds`): in
static and transient fields, in entries of the marker that name no
eligible field, in the order of these entries and how often they occur,
in the packages of nested declarations, and in all fields of those
without the marker.
-/

namespace Companion

/-- **Declarations that correspond** have the same name and link, the same
package if there is none around them, and the same marker or none; if
they carry it, they look alike. -/
structure Declaration.Corresponds (d d' : Declaration) : Prop where
  /-- The simple names are the same. -/
  name : d'.name = d.name
  /-- The links are the same. -/
  enclosing : d'.enclosing = d.enclosing
  /-- The packages are, where they count. -/
  package : d.enclosing = none → d'.package = d.package
  /-- Both carry the marker, or neither. -/
  isEntity : d'.isEntity = d.isEntity
  /-- What the companion shows is the same. -/
  alike : d.isEntity = true → d.Alike d'

namespace Round

variable {r r' : Round} {i : Nat} {d : Declaration}

/-- **Rounds that correspond** have as many declarations, each of which
corresponds to the one at its position. -/
def Corresponds (r r' : Round) : Prop :=
  List.Forall₂ Declaration.Corresponds r.declarations r'.declarations

/-- At each position there is one on both sides. -/
theorem Corresponds.exists_get? (h : r.Corresponds r') (hget : r.get? i = some d) :
    ∃ d', r'.get? i = some d' ∧ d.Corresponds d' := by
  obtain ⟨hi, rfl⟩ := List.getElem?_eq_some_iff.1 hget
  have hi' : i < r'.declarations.length := h.length_eq ▸ hi
  exact ⟨_, List.getElem?_eq_getElem hi', h.get hi hi'⟩

/-- So all of them keep their names. -/
theorem Corresponds.relocates (h : r.Corresponds r') :
    Relocates id r.declarations r'.declarations := by
  intro i d here
  obtain ⟨d', here', hd⟩ := h.exists_get? here
  exact ⟨d', here', hd.name, hd.enclosing.trans Option.map_id_apply.symm, hd.package⟩

/-- And their markers. -/
theorem Corresponds.isMarked_eq (h : r.Corresponds r') (hi : i < r.size) :
    r'.isMarked i = r.isMarked i := by
  have hget : r.get? i = some r.declarations[i] := List.getElem?_eq_getElem hi
  obtain ⟨d', hget', hd⟩ := h.exists_get? hget
  rw [isMarked, isMarked, hget, hget', Option.any_some, Option.any_some, hd.isEntity]

end Round

namespace Settings

/-- **What a companion leaves out leaves no trace**: rounds that correspond
give the same artifacts and the same diagnostics. -/
theorem process_of_corresponds (s : Settings) (r r' : Round) (h : r.Corresponds r') :
    s.process r = s.process r' := by
  have hsize : r.size = r'.size := h.length_eq
  have hshare : ∀ i ∈ List.range r.size, s.share r i = s.share r' i := by
    intro i hi
    rw [List.mem_range] at hi
    have hfirst := isFirst_iff_of_relocates h.relocates (fun j hj => h.isMarked_eq hj) hi
    refine (share_of_relocates h.relocates hi hfirst fun d d' hyes hget hget' => ?_).symm
    obtain ⟨d'', hget'', hd⟩ := h.exists_get? hget
    have hsame : d'' = d' := Option.some.inj (hget''.symm.trans hget')
    have hmarked : d.isEntity = true := by
      have hyes := hyes.1
      rwa [Round.isMarked, hget, Option.any_some] at hyes
    exact hsame ▸ hd.alike hmarked
  rw [process_eq_join, process_eq_join, ← hsize, List.map_congr_left hshare]

/-- A shop with an order inside. -/
def shop (package : String) (goods fields : List Field) (mark : EntityMark) : Round where
  declarations := [{ name := "Shop", package := "shop", fields := goods },
    { name := "Order", package := package, enclosing := some 0, fields := fields,
      entity := some mark }]
  ends := ends_of_all rfl

/-- Goods of the shop, a cached total of the order and two more entries of
its marker change nothing. -/
theorem process_of_corresponds_shop :
    let key : Field := { name := "id", type := .primitive .long }
    let note : Field := { name := "note", type := .named (.ofTopLevel "java.lang" "String") }
    let total : Field := { name := "total", type := .primitive .int, isTransient := true }
    let r := shop "" [] [key, note] { primaryKey := "id", ignores := ["note"] }
    let r' := shop "elsewhere" [key] [total, key, note]
      { primaryKey := "id", ignores := ["total", "note", "note"] }
    r.Corresponds r' ∧ ({} : Settings).process r = ({} : Settings).process r' ∧
      (({} : Settings).process r).artifacts.map (·.name) = ["shop.RealmShop_Order"] := by
  intro key note total r r'
  have h : r.Corresponds r' := by
    refine .cons ?_ (.cons ?_ .nil)
    · exact ⟨rfl, rfl, fun _ => rfl, rfl, nofun⟩
    · exact ⟨rfl, rfl, nofun, rfl, fun _ => ⟨by decide, by decide, by decide⟩⟩
  exact ⟨h, process_of_corresponds _ r r' h, by decide +kernel⟩

end Settings

end Companion
