import Companion.Proofs.Sink.Delivery
import Mathlib.Data.List.Induction

/-!
# Histories — what a memory sink holds after any number of deliveries

A memory sink is used by submitting single artifacts and by running
rounds. Whatever the order, a name keeps the artifact that came first,
and a refusal is a warning: `get?_deliver` and `warnings_deliver` say so
of one delivery, and `keeps_first` of a whole history. Which artifacts
of a delivery are refused is told by the names before them alone
(`refused`).
-/

namespace Companion

variable {sink : MemorySink} {a : Artifact} {name : String}

/-! ## One artifact -/

namespace MemorySink

/-- What the sink keeps under a name has that name. -/
theorem name_of_get? (h : sink.get? name = some a) : a.name = name := by
  have hname := List.find?_some h
  simpa using hname

/-- **The sink holds what it finds**: every artifact under its own name. -/
theorem mem_artifacts_iff : a ∈ sink.artifacts ↔ sink.get? a.name = some a := by
  constructor
  · intro hmem
    have hsome : (sink.get? a.name).isSome := by
      rw [get?, List.find?_isSome]
      exact ⟨a, hmem, by simp⟩
    obtain ⟨b, hb⟩ := Option.isSome_iff_exists.1 hsome
    have hbmem : b ∈ sink.artifacts := List.mem_of_find?_eq_some hb
    -- names are distinct, so the artifact found under the name is the one that has it
    have hba : b = a := List.inj_on_of_nodup_map sink.distinct hbmem hmem (name_of_get? hb)
    rw [hb, hba]
  · intro hget
    exact List.mem_of_find?_eq_some hget

/-- An artifact whose name is taken is refused. -/
theorem submit_of_isSome (h : (sink.get? a.name).isSome) :
    sink.submit a = .error (.alreadyExists a.name) := by
  unfold submit
  split
  · rfl
  · next hnone =>
    rw [hnone] at h
    cases h

/-- **What a memory sink does with an artifact.** -/
theorem submit_cases (sink : MemorySink) (a : Artifact) :
    ((sink.get? a.name).isSome ∧ sink.submit a = .error (.alreadyExists a.name)) ∨
    (sink.get? a.name = none ∧
      ∃ sink', sink.submit a = .ok sink' ∧ sink'.artifacts = sink.artifacts ++ [a]) := by
  by_cases htaken : sink.get? a.name = none
  · exact Or.inr ⟨htaken, submit_of_notMem (get?_eq_none_iff.1 htaken)⟩
  · have hsome : (sink.get? a.name).isSome := Option.isSome_iff_ne_none.2 htaken
    exact Or.inl ⟨hsome, submit_of_isSome hsome⟩

/-- The sink after an artifact was submitted to it, and whether it was refused. -/
theorem deliver_singleton (sink : MemorySink) (a : Artifact) :
    ((sink.get? a.name).isSome ∧
      deliver sink [a] = (sink, [.writeFailed a (.alreadyExists a.name)])) ∨
    ((sink.get? a.name).isSome = false ∧
      ∃ sink', deliver sink [a] = (sink', []) ∧ sink'.artifacts = sink.artifacts ++ [a]) := by
  have hdeliver : deliver sink [a] = match sink.submit a with
      | .ok next => (next, [])
      | .error e => (sink, [.writeFailed a e]) := by
    have hsubmit : Sink.submit sink a = sink.submit a := rfl
    rw [deliver, hsubmit]
    cases sink.submit a <;> rfl
  rcases sink.submit_cases a with ⟨htaken, hsubmit⟩ | ⟨hfree, sink', hsubmit, hkept⟩
  · exact Or.inl ⟨htaken, by rw [hdeliver, hsubmit]⟩
  · exact Or.inr ⟨by rw [hfree]; rfl, sink', by rw [hdeliver, hsubmit], hkept⟩

end MemorySink

/-! ## One delivery -/

/-- **Artifacts may be handed over in two parts.** -/
theorem deliver_append {σ : Type} [Sink σ] (sink : σ) (as bs : List Artifact) :
    deliver sink (as ++ bs) =
      ((deliver (deliver sink as).1 bs).1,
        (deliver sink as).2 ++ (deliver (deliver sink as).1 bs).2) := by
  induction as generalizing sink with
  | nil => rfl
  | cons a as ih =>
    rw [List.cons_append, deliver, deliver]
    cases Sink.submit sink a with
    | ok next => exact ih next
    | error e => simp only [ih sink, List.cons_append]

namespace MemorySink

/-- **A name keeps what came first**: what the sink held under it before,
and else the first artifact of that name. -/
theorem get?_deliver (sink : MemorySink) (as : List Artifact) (name : String) :
    (deliver sink as).1.get? name = (sink.get? name).or (as.find? (·.name == name)) := by
  -- the last artifact meets a sink that holds what came before it
  induction as using List.reverseRecOn with
  | nil => simp [deliver]
  | append_singleton as a ih =>
    rw [deliver_append, List.find?_append, ← Option.or_assoc, ← ih]
    rcases deliver_singleton (deliver sink as).1 a with
      ⟨htaken, hdeliver⟩ | ⟨-, sink', hdeliver, hkept⟩
    · rw [hdeliver]
      by_cases hname : a.name = name
      · rw [← hname, Option.or_of_isSome htaken]
      · simp [hname]
    · rw [hdeliver]
      simp only [get?, hkept, List.find?_append]

/-- The artifacts of a delivery that are refused: those whose name the
sink held before, or an earlier artifact of the delivery has. -/
def refused (sink : MemorySink) (as : List Artifact) : List Artifact :=
  (as.zipIdx.filter fun p =>
    (sink.get? p.1.name).isSome || (as.take p.2).any (·.name == p.1.name)).map (·.1)

/-- The last artifact of a delivery is refused for what came before it. -/
theorem refused_concat (sink : MemorySink) (as : List Artifact) (a : Artifact) :
    sink.refused (as ++ [a]) = sink.refused as ++
      if (sink.get? a.name).isSome || as.any (·.name == a.name) then [a] else [] := by
  have hbefore : ∀ p ∈ as.zipIdx, (as ++ [a]).take p.2 = as.take p.2 := by
    intro p hp
    have hlt : p.2 < as.length := by
      have := List.snd_lt_of_mem_zipIdx hp
      omega
    rw [List.take_append_of_le_length (Nat.le_of_lt hlt)]
  have hfilter : (as.zipIdx.filter fun p =>
        (sink.get? p.1.name).isSome || ((as ++ [a]).take p.2).any (·.name == p.1.name))
      = as.zipIdx.filter fun p =>
        (sink.get? p.1.name).isSome || (as.take p.2).any (·.name == p.1.name) :=
    List.filter_congr fun p hp => by rw [hbefore p hp]
  have htake : (as ++ [a]).take as.length = as := List.take_left
  rw [refused, List.zipIdx_append, List.filter_append, List.map_append, hfilter, refused]
  simp only [List.zipIdx_singleton, Nat.zero_add, List.filter_cons, htake, List.filter_nil]
  split <;> rfl

end MemorySink

/-- The warning about an artifact whose name is taken. It is about the
declaration the artifact was generated from. -/
def Diagnostic.nameTaken (a : Artifact) : Diagnostic where
  severity := .warning
  message := "could not write generated class " ++ a.name ++ ": " ++ a.name ++ " already exists"
  origin := some a.originating
  notes := ["a previous write of the same class is assumed to be identical"]

/-- It is what a delivery reports. -/
theorem writeFailed_alreadyExists (a : Artifact) :
    Diagnostic.writeFailed a (.alreadyExists a.name) = .nameTaken a := by
  have hmessage : (SinkError.alreadyExists a.name).message = a.name ++ " already exists" := rfl
  rw [Diagnostic.writeFailed, Diagnostic.nameTaken, hmessage, ← String.append_assoc]

namespace MemorySink

/-- **Each refused artifact gives one warning**, in the order of the artifacts. -/
theorem warnings_deliver (sink : MemorySink) (as : List Artifact) :
    (deliver sink as).2 = (sink.refused as).map .nameTaken := by
  induction as using List.reverseRecOn with
  | nil => rfl
  | append_singleton as a ih =>
    have htaken : ((deliver sink as).1.get? a.name).isSome
        = ((sink.get? a.name).isSome || as.any (·.name == a.name)) := by
      rw [get?_deliver, Option.isSome_or, List.isSome_find?]
    rw [deliver_append, refused_concat, List.map_append, ih, ← htaken]
    rcases deliver_singleton (deliver sink as).1 a with ⟨hsome, hdeliver⟩ | ⟨hnone, _, hdeliver, -⟩
    · rw [hdeliver, if_pos hsome, writeFailed_alreadyExists]
      rfl
    · rw [hdeliver, hnone]
      rfl

/-- A sink that holds every name of a delivery refuses all of it and stays as it was. -/
theorem deliver_of_forall_isSome (sink : MemorySink) (as : List Artifact)
    (h : ∀ a ∈ as, (sink.get? a.name).isSome) :
    deliver sink as = (sink, as.map .nameTaken) := by
  induction as with
  | nil => rfl
  | cons a as ih =>
    have hsubmit : Sink.submit sink a = .error (.alreadyExists a.name) :=
      submit_of_isSome (h a List.mem_cons_self)
    have hrest := ih fun b hb => h b (List.mem_cons_of_mem a hb)
    rw [deliver, hsubmit, hrest, List.map_cons]
    simp only [writeFailed_alreadyExists]

/-- The sink answers for every artifact that was handed over. -/
theorem isSome_get?_deliver (sink : MemorySink) {as : List Artifact} (h : a ∈ as) :
    ((deliver sink as).1.get? a.name).isSome := by
  have hfind : (as.find? (·.name == a.name)).isSome := by
    rw [List.find?_isSome]
    exact ⟨a, h, by simp⟩
  rw [get?_deliver, Option.isSome_or, hfind, Bool.or_true]

end MemorySink

/-! ## Histories -/

/-- A use of a memory sink. -/
inductive Delivery where
  /-- One artifact is submitted. -/
  | artifact (a : Artifact)
  /-- A round is processed under some settings, and its artifacts are handed over. -/
  | round (s : Settings) (r : Round)

/-- The artifacts that are submitted by it, in their order. -/
def Delivery.artifacts : Delivery → List Artifact
  | artifact a => [a]
  | round s r => (s.process r).artifacts

namespace MemorySink

/-- The sink after one use. An artifact that is refused leaves it as it was. -/
def use (sink : MemorySink) : Delivery → MemorySink
  | .artifact a => ((sink.submit a).toOption).getD sink
  | .round s r => (s.run r sink).2

/-- The sink after uses one after the other. -/
def uses (sink : MemorySink) (history : List Delivery) : MemorySink := history.foldl use sink

/-- Each use hands over its artifacts. -/
theorem use_eq (sink : MemorySink) (d : Delivery) : sink.use d = (deliver sink d.artifacts).1 := by
  cases d with
  | artifact a =>
    have hsubmit : Sink.submit sink a = sink.submit a := rfl
    rw [use, Delivery.artifacts, deliver, hsubmit]
    cases sink.submit a <;> rfl
  | round s r => rfl

/-- **A history hands over the artifacts of all its uses**, one after the other. -/
theorem uses_eq (sink : MemorySink) (history : List Delivery) :
    sink.uses history = (deliver sink (history.flatMap (·.artifacts))).1 := by
  induction history generalizing sink with
  | nil => rfl
  | cons d history ih =>
    have hstep : sink.uses (d :: history) = (sink.use d).uses history := rfl
    rw [hstep, ih, use_eq, List.flatMap_cons, deliver_append]

/-- **The first artifact of a name is kept for ever**, after any history
and whatever the sink held at first; it holds nothing else. A round gives
the artifacts and diagnostics of its processing, and a warning for each
artifact that is refused, which makes no round fail. The same round once
more changes nothing and gives a warning for each of its artifacts. -/
theorem keeps_first (sink : MemorySink) (history : List Delivery) :
    let after := sink.uses history
    (∀ name, after.get? name
      = (sink.get? name).or ((history.flatMap (·.artifacts)).find? (·.name == name))) ∧
    (∀ a, a ∈ after.artifacts ↔ after.get? a.name = some a) ∧
    ∀ (s : Settings) (r : Round),
      let alone := s.process r
      let once := s.run r after
      let twice := s.run r once.2
      once.1.artifacts = alone.artifacts ∧
      once.1.diagnostics = alone.diagnostics ++ (after.refused alone.artifacts).map .nameTaken ∧
      once.1.hasErrors = alone.hasErrors ∧
      twice.2 = once.2 ∧
      twice.1.diagnostics = alone.diagnostics ++ alone.artifacts.map .nameTaken := by
  intro after
  refine ⟨fun name => ?_, fun a => mem_artifacts_iff, fun s r => ?_⟩
  · have hafter : after = (deliver sink (history.flatMap (·.artifacts))).1 := uses_eq sink history
    rw [hafter, get?_deliver]
  intro alone once twice
  have honce : once = ({ alone with diagnostics := alone.diagnostics
      ++ (after.refused alone.artifacts).map .nameTaken }, (deliver after alone.artifacts).1) := by
    rw [← warnings_deliver]
    rfl
  -- after the first run every name of the round is taken
  have hagain : deliver once.2 alone.artifacts = (once.2, alone.artifacts.map .nameTaken) := by
    rw [honce]
    exact deliver_of_forall_isSome _ _ fun a ha => isSome_get?_deliver after ha
  have htwice : twice = ({ alone with
      diagnostics := alone.diagnostics ++ alone.artifacts.map .nameTaken }, once.2) := by
    have hrun : twice = ({ alone with
        diagnostics := alone.diagnostics ++ (deliver once.2 alone.artifacts).2 },
        (deliver once.2 alone.artifacts).1) := rfl
    rw [hrun, hagain]
  have hwarnings : ((after.refused alone.artifacts).map Diagnostic.nameTaken).any (·.isError)
      = false := by
    rw [List.any_map, List.any_eq_false]
    intro a _
    exact Bool.false_ne_true
  refine ⟨by rw [honce], by rw [honce], ?_, by rw [htwice], by rw [htwice]⟩
  rw [honce, Output.hasErrors, Output.hasErrors, List.any_append, hwarnings, Bool.or_false]

end MemorySink

end Companion
