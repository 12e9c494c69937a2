import Companion.Proofs.Sink.History
import Companion.Sink.Directory

/-!
# Offers — what sinks answer, one artifact at a time

To offer an artifact to a sink is to submit it and to note the answer:
nothing, or the reason to refuse it (`offer`). Two kinds of sink can be
told apart by their answers only, so one stands for the other when some
relation between their states makes them answer alike and outlasts every
offer (`offerAll_of_step`).
-/

namespace Companion

/-- One artifact is offered: the sink afterwards, and why it was refused if it was. -/
def offer {σ : Type} [Sink σ] (sink : σ) (a : Artifact) : σ × Option SinkError :=
  match Sink.submit sink a with
  | .ok next => (next, none)
  | .error e => (sink, some e)

/-- One artifact is offered after the other: what it comes to, and all answers. -/
def offerAll {σ : Type} (step : σ → Artifact → σ × Option SinkError) (state : σ) :
    List Artifact → σ × List (Option SinkError)
  | [] => (state, [])
  | a :: as =>
    let next := step state a
    let rest := offerAll step next.1 as
    (rest.1, next.2 :: rest.2)

/-- **What holds of one offer holds of all**: states that answer alike and
stay related give the same answers to any artifacts. -/
theorem offerAll_of_step {σ τ : Type} {step : σ → Artifact → σ × Option SinkError}
    {step' : τ → Artifact → τ × Option SinkError} (R : σ → τ → Prop) (P : Artifact → Prop)
    (hstep : ∀ s t a, P a → R s t → (step s a).2 = (step' t a).2 ∧ R (step s a).1 (step' t a).1)
    {as : List Artifact} (has : ∀ a ∈ as, P a) {s : σ} {t : τ} (h : R s t) :
    (offerAll step s as).2 = (offerAll step' t as).2 ∧
      R (offerAll step s as).1 (offerAll step' t as).1 := by
  induction as generalizing s t with
  | nil => exact ⟨rfl, h⟩
  | cons a as ih =>
    obtain ⟨hanswer, hnext⟩ := hstep s t a (has a List.mem_cons_self) h
    obtain ⟨hrest, hfinal⟩ := ih (fun b hb => has b (List.mem_cons_of_mem a hb)) hnext
    exact ⟨by rw [offerAll, offerAll, hanswer, hrest], hfinal⟩

/-- Answers that each step can give to its artifact are given to all. -/
theorem forall₂_offerAll {σ : Type} {step : σ → Artifact → σ × Option SinkError}
    {Q : Artifact → Option SinkError → Prop} (hstep : ∀ s a, Q a (step s a).2)
    (state : σ) (as : List Artifact) : List.Forall₂ Q as (offerAll step state as).2 := by
  induction as generalizing state with
  | nil => exact .nil
  | cons a as ih => exact .cons (hstep state a) (ih (step state a).1)

variable {a : Artifact} {place : List String}

section Offer

variable {σ : Type} [Sink σ] (sink : σ) {next : σ} {e : SinkError}

/-- What a sink takes, it does not answer. -/
theorem offer_of_ok (h : Sink.submit sink a = .ok next) : offer sink a = (next, none) := by
  rw [offer, h]

/-- What a sink refuses, it leaves alone. -/
theorem offer_of_error (h : Sink.submit sink a = .error e) : offer sink a = (sink, some e) := by
  rw [offer, h]

end Offer

/-! ## The directory sink -/

namespace DirectorySink

variable {sink : DirectorySink}

/-- The storage can have a file in a place: the root is no file, and the
names on the way can be had. -/
def Admits (sink : DirectorySink) (place : List String) : Prop :=
  sink.rooted = true ∧ place.all isFileName = true

/-- The sink looks at this before it makes a file. -/
theorem refuses_iff (sink : DirectorySink) (place : List String) :
    (!sink.rooted || !place.all isFileName) = true ↔ ¬ sink.Admits place := by
  rw [Admits]
  cases sink.rooted <;> cases place.all isFileName <;> simp

/-- An artifact that leaves the root is refused. -/
theorem submit_of_location?_eq_none (h : a.location? = none) :
    sink.submit a = .error (.outsideRoot a.name) := by
  simp only [submit, h]

/-- An artifact that the storage cannot have is refused. -/
theorem submit_of_not_admits (h : a.location? = some place) (hadmits : ¬ sink.Admits place) :
    sink.submit a = .error (.unwritable a.name) := by
  simp only [submit, h]
  exact if_pos ((sink.refuses_iff place).2 hadmits)

/-- An artifact whose place is taken is refused. -/
theorem submit_of_taken (h : a.location? = some place) (hadmits : sink.Admits place)
    (htaken : (sink.get? place).isSome) : sink.submit a = .error (.alreadyExists a.name) := by
  simp only [submit, h]
  rw [if_neg fun hrefused => (sink.refuses_iff place).1 hrefused hadmits]
  split
  · rfl
  · next hnone =>
    rw [hnone] at htaken
    cases htaken

/-- **Every other artifact becomes a file.** -/
theorem submit_of_free (h : a.location? = some place) (hadmits : sink.Admits place)
    (hfree : sink.get? place = none) :
    ∃ next, sink.submit a = .ok next ∧ next.rooted = sink.rooted ∧
      next.files = sink.files ++ [(place, a.contents)] := by
  simp only [submit, h]
  rw [if_neg fun hrefused => (sink.refuses_iff place).1 hrefused hadmits]
  split
  · next contents htaken =>
    rw [hfree] at htaken
    cases htaken
  · exact ⟨_, rfl, rfl, rfl⟩

/-- A file that was made is found, and all others as before. -/
theorem get?_of_files_eq {next : DirectorySink} {contents : String}
    (hnone : sink.get? place = none) (h : next.files = sink.files ++ [(place, contents)])
    (other : List String) :
    next.get? other = if other = place then some contents else sink.get? other := by
  rw [get?, h, List.lookup_append]
  split_ifs with hother
  · rw [hother]
    have hbefore : sink.files.lookup place = none := hnone
    simp [hbefore]
  · have hbeq : (other == place) = false := beq_eq_false_iff_ne.2 hother
    simp [get?, List.lookup_cons, hbeq]

/-- **A directory sink keeps its files**: no artifact changes one that was made. -/
theorem get?_offer {contents : String} (h : sink.get? place = some contents) (a : Artifact) :
    (offer sink a).1.get? place = some contents := by
  cases hlocation : a.location? with
  | none =>
    rw [offer_of_error sink (submit_of_location?_eq_none hlocation)]
    exact h
  | some target =>
    by_cases hadmits : sink.Admits target
    · by_cases hfree : sink.get? target = none
      · obtain ⟨next, hmakes, -, hfiles⟩ := submit_of_free hlocation hadmits hfree
        have hne : place ≠ target := by
          rintro rfl
          rw [hfree] at h
          cases h
        rw [offer_of_ok sink hmakes, get?_of_files_eq hfree hfiles, if_neg hne]
        exact h
      · have htaken := Option.isSome_iff_ne_none.2 hfree
        rw [offer_of_error sink (submit_of_taken hlocation hadmits htaken)]
        exact h
    · rw [offer_of_error sink (submit_of_not_admits hlocation hadmits)]
      exact h

end DirectorySink

end Companion
