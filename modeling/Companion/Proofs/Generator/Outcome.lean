import Companion.Proofs.Generator.Contents
import Companion.Proofs.Round.Relocation

/-!
# Outcomes — what one declaration adds to the output of its round

A declaration that is the first of its name adds an artifact, perhaps
with a warning, or an error, and any other adds nothing: `share` is what
it adds, and the output of a round is its shares one after the other
(`process_eq_join`). A share depends on the names of the declaration and
on what its eligible fields and its marker say of them (`Alike`), and on
nothing else of the round: this is why it stays the same when the
declaration is found in another round (`share_of_relocates`).
-/

namespace Companion

/-! ## What counts of a declaration -/

namespace Declaration

/-- What the entity marker says. Without the marker there is no primary
key, and every field is persisted. -/
def mark (d : Declaration) : EntityMark := d.entity.getD {}

/-- The primary key is an eligible field, and listed among those that are
not persisted. -/
def IgnoresKey (d : Declaration) : Prop :=
  d.mark.primaryKey ∈ d.mark.ignores ∧ ∃ f ∈ d.eligible, f.name = d.mark.primaryKey

instance (d : Declaration) : Decidable d.IgnoresKey := instDecidableAnd

/-- **Declarations that look alike**: they have the same eligible fields, by
name and type, and of these the same are ignored and the same are the
primary key. -/
structure Alike (d d' : Declaration) : Prop where
  /-- The eligible fields have the same names and types, in the same order. -/
  shown : d.eligible.map (fun f => (f.name, f.type)) = d'.eligible.map fun f => (f.name, f.type)
  /-- The same of them are listed among those that are not persisted. -/
  ignored : ∀ f ∈ d.eligible, f.name ∈ d.mark.ignores ↔ f.name ∈ d'.mark.ignores
  /-- The same of them are the primary key. -/
  key : ∀ f ∈ d.eligible, f.name = d.mark.primaryKey ↔ f.name = d'.mark.primaryKey

variable {d d' : Declaration}

/-- A declaration looks like one with the same fields and the same marker. -/
theorem alike_of_eq (hfields : d'.fields = d.fields) (hentity : d'.entity = d.entity) :
    d.Alike d' := by
  have heligible : d'.eligible = d.eligible := by rw [eligible, hfields, eligible]
  have hmark : d'.mark = d.mark := by rw [mark, hentity, mark]
  refine ⟨by rw [heligible], fun f _ => by rw [hmark], fun f _ => by rw [hmark]⟩

namespace Alike

/-- A name of an eligible field is one on the other side. -/
theorem exists_name_iff (h : d.Alike d') (name : String) :
    (∃ f ∈ d.eligible, f.name = name) ↔ ∃ f ∈ d'.eligible, f.name = name := by
  have hnames : d.eligible.map (·.name) = d'.eligible.map (·.name) := by
    have hfst := congrArg (List.map Prod.fst) h.shown
    rwa [List.map_map, List.map_map] at hfst
  rw [← List.mem_map, hnames, List.mem_map]

/-- The eligible fields have the same roles. -/
theorem roleOf_eq (h : d.Alike d') {f : Field} (hf : f ∈ d.eligible) :
    d'.roleOf f.name = d.roleOf f.name := by
  have hkey := h.key f hf
  have hignored := h.ignored f hf
  simp only [mark] at hkey hignored
  simp only [roleOf, hkey, hignored]

/-- And the same warning is given, if any. -/
theorem ignoresKey_iff (h : d.Alike d') : d.IgnoresKey ↔ d'.IgnoresKey := by
  constructor
  · rintro ⟨hmem, f, hf, hname⟩
    have hkey : d.mark.primaryKey = d'.mark.primaryKey := hname.symm.trans ((h.key f hf).1 hname)
    have hmem' : f.name ∈ d'.mark.ignores := (h.ignored f hf).1 (hname ▸ hmem)
    refine ⟨by rwa [← hkey, ← hname], ?_⟩
    rw [← h.exists_name_iff, ← hkey]
    exact ⟨f, hf, hname⟩
  · rintro ⟨hmem, hexists⟩
    obtain ⟨f, hf, hname⟩ := (h.exists_name_iff _).2 hexists
    have hkey : f.name = d.mark.primaryKey := (h.key f hf).2 hname
    have hmem' : f.name ∈ d.mark.ignores := (h.ignored f hf).2 (hname ▸ hmem)
    exact ⟨by rwa [← hkey], f, hf, hkey⟩

/-- It names the same primary key. -/
theorem primaryKey_eq (h : d.Alike d') (hkey : d.IgnoresKey) :
    d'.mark.primaryKey = d.mark.primaryKey := by
  obtain ⟨-, f, hf, hname⟩ := hkey
  exact ((h.key f hf).1 hname).symm.trans hname

end Alike

end Declaration

/-- The warning about a primary key that is listed among the fields that
are not persisted. -/
def Diagnostic.keyIgnored (source : QualifiedName) (key : String) : Diagnostic where
  severity := .warning
  message := "field `" ++ key ++ "` is both the primary key and listed in ignores"
  origin := some source
  notes := ["the primary-key marker takes precedence; the field is not marked ignored"]
  hints := ["remove `" ++ key ++ "` from ignores"]

/-- The error about a declaration without an eligible field. -/
def Diagnostic.nothingEligible (source : QualifiedName) : Diagnostic where
  severity := .error
  message := "cannot generate a companion for `" ++ source.text
    ++ "`: every field is static or marked transient"
  origin := some source
  hints := ["declare at least one instance field without the transient marker"]

namespace Settings

variable {s : Settings} {r r' : Round} {id id' : Nat} {d d' : Declaration}

/-! ## One declaration -/

/-- The view of a declaration asks for a warning when the declaration does. -/
theorem ignoresPrimaryKey_ofDeclaration (source : QualifiedName) :
    (Entity.ofDeclaration source d).ignoresPrimaryKey = true ↔ d.IgnoresKey := by
  have hignored : (Entity.ofDeclaration source d).ignores.contains d.mark.primaryKey = true
      ↔ d.mark.primaryKey ∈ d.mark.ignores := by
    rw [List.contains_iff_mem]
    exact Text.mem_sorted
  have hkey : (Entity.ofDeclaration source d).primaryKey = d.mark.primaryKey := rfl
  rw [Entity.ignoresPrimaryKey, Bool.and_eq_true, hkey, hignored, eligible_ofDeclaration,
    List.any_map, List.any_eq_true, Declaration.IgnoresKey]
  simp [Field.classify]

/-- **What a declaration comes to**: an artifact when it has an eligible
field, with a warning if its key is ignored, and an error otherwise. -/
theorem outcome_eq (hget : r.get? id = some d) : s.outcome r id =
    if d.eligible = [] then ⟨[], [.nothingEligible (r.qualifiedName id)]⟩
    else ⟨[(s.companionOf r id d).artifact s.layout],
      if d.IgnoresKey then [.keyIgnored (r.qualifiedName id) d.mark.primaryKey] else []⟩ := by
  split
  · next hfields =>
    rw [outcome, generate_of_not_eligible hget hfields]
    rfl
  · next hfields =>
    rw [outcome, generate_of_eligible hget hfields]
    simp only [ignoresPrimaryKey_ofDeclaration]
    rfl

/-- **Declarations that look alike and have the same names come to the same.** -/
theorem outcome_congr (hget : r.get? id = some d) (hget' : r'.get? id' = some d')
    (hpath : r'.path id' = r.path id) (hpackage : r'.outermostPackage id' = r.outermostPackage id)
    (hd : d.Alike d') : s.outcome r' id' = s.outcome r id := by
  have hname : s.nameOf r' id' = s.nameOf r id := by rw [nameOf, nameOf, hpath, hpackage]
  have hsource : r'.qualifiedName id' = r.qualifiedName id := by
    rw [Round.qualifiedName_eq, Round.qualifiedName_eq, hpath, hpackage]
  have hempty : d'.eligible = [] ↔ d.eligible = [] := by
    rw [← List.map_eq_nil_iff (f := fun f : Field => (f.name, f.type)), ← hd.shown,
      List.map_eq_nil_iff]
  have hcompanion : s.companionOf r' id' d' = s.companionOf r id d := by
    -- the role of a field is told from its name, so the fields are told from names and types
    have hfields (e : Declaration) :
        e.eligible.map (fun f => (⟨f.name, f.type, d'.roleOf f.name⟩ : CompanionField))
          = (e.eligible.map fun f => (f.name, f.type)).map fun p => ⟨p.1, p.2, d'.roleOf p.1⟩ := by
      rw [List.map_map]
      rfl
    have hroles : d.eligible.map (fun f => (⟨f.name, f.type, d'.roleOf f.name⟩ : CompanionField))
        = d.eligible.map fun f => ⟨f.name, f.type, d.roleOf f.name⟩ :=
      List.map_congr_left fun f hf => by rw [hd.roleOf_eq hf]
    rw [companionOf, companionOf, hname, hsource, hfields, ← hd.shown, ← hfields, hroles]
  rw [outcome_eq hget, outcome_eq hget', hcompanion, hsource]
  simp only [hempty, ← hd.ignoresKey_iff]
  split
  · rfl
  · split
    · next hkey => rw [hd.primaryKey_eq hkey]
    · rfl

end Settings

/-! ## A round -/

/-- Outputs one after the other. -/
def Output.join (os : List Output) : Output :=
  ⟨os.flatMap (·.artifacts), os.flatMap (·.diagnostics)⟩

/-- What is joined in two parts is joined. -/
theorem Output.join_append (os os' : List Output) : join (os ++ os') =
    ⟨(join os).artifacts ++ (join os').artifacts,
      (join os).diagnostics ++ (join os').diagnostics⟩ := by
  simp [join]

namespace Settings

variable {s : Settings} {r r' : Round} {place : Nat → Nat}

/-- **What a declaration adds to the output of its round**: what it comes to
if it is the first of its name, and else nothing. -/
def share (s : Settings) (r : Round) (id : Nat) : Output :=
  if r.IsFirst id then s.outcome r id else {}

/-- **The output of a round is what its declarations add**, one after the
other. -/
theorem process_eq_join (s : Settings) (r : Round) :
    s.process r = .join ((List.range r.size).map (s.share r)) := by
  have hfilter {α : Type} (part : Output → List α) (hnone : part {} = []) (ids : List Nat) :
      ((ids.filter fun id => r.IsFirst id).map (s.outcome r)).flatMap part
        = (ids.map (s.share r)).flatMap part := by
    induction ids with
    | nil => rfl
    | cons id ids ih =>
      rw [List.map_cons, List.flatMap_cons, ← ih, List.filter_cons, share]
      by_cases hfirst : r.IsFirst id
      · simp [hfirst]
      · simp [hfirst, hnone]
  have hartifacts := hfilter (·.artifacts) rfl (List.range r.size)
  have hdiagnostics := hfilter (·.diagnostics) rfl (List.range r.size)
  rw [process, Round.entities_eq_filter, Output.join, ← hartifacts, ← hdiagnostics]

/-- Where every declaration stays in its place and keeps its marker, it is
the first of its name if it was. -/
theorem isFirst_iff_of_relocates {i : Nat} (h : Relocates id r.declarations r'.declarations)
    (hmarked : ∀ j < r.size, r'.isMarked j = r.isMarked j) (hi : i < r.size) :
    r'.IsFirst i ↔ r.IsFirst i := by
  have hname : ∀ j < r.size, r'.qualifiedName j = r.qualifiedName j := fun j hj =>
    Round.qualifiedName_of_relocates h hj
  rw [Round.IsFirst, Round.IsFirst, hmarked i hi, hname i hi]
  refine and_congr_right fun _ => forall₂_congr fun j hj => ?_
  rw [hmarked j (hj.trans hi), hname j (hj.trans hi)]

/-- **A declaration that is found elsewhere adds the same there**, if it
looks alike and is the first of its name on both sides or on none. -/
theorem share_of_relocates (h : Relocates place r.declarations r'.declarations) {id : Nat}
    (hid : id < r.size) (hfirst : r'.IsFirst (place id) ↔ r.IsFirst id)
    (halike : ∀ d d', r.IsFirst id → r.get? id = some d → r'.get? (place id) = some d' →
      d.Alike d') :
    s.share r' (place id) = s.share r id := by
  obtain ⟨hpath, hpackage⟩ := Round.names_of_relocates h hid
  have hget : r.get? id = some r.declarations[id] := List.getElem?_eq_getElem hid
  obtain ⟨d', hget', -⟩ := h id _ hget
  simp only [share, hfirst]
  split
  · next hyes => exact outcome_congr hget hget' hpath hpackage (halike _ d' hyes hget hget')
  · rfl

end Settings

end Companion
