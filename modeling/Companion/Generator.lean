import Companion.Class.Source
import Companion.Diagnostic
import Companion.Sink.Basic

/-!
# The generator — from a round to artifacts and diagnostics

Every entity of a round gives one artifact, or one error when it has no eligible field;
an artifact may come with a warning. What a round gives depends on the round and the
settings alone. Handing the artifacts to a sink adds a warning for each that the sink
refuses, since an earlier artifact of that name is taken to be the same.
-/

namespace Companion

/-! ## Diagnostics -/

namespace Diagnostic

/-- A companion could not be generated. -/
def generationFailed (e : GenerationError) : Diagnostic :=
  { severity := .error, message := e.message, origin := e.declaration?, hints := [e.help] }

/-- A sink refused an artifact. -/
def writeFailed (a : Artifact) (e : SinkError) : Diagnostic :=
  { severity := .warning
    message := "could not write generated class " ++ a.name ++ ": " ++ e.message
    origin := some a.originating
    notes := ["a previous write of the same class is assumed to be identical"] }

/-- The primary key is also among the fields that are not persisted. -/
def primaryKeyIgnored (e : Entity) : Diagnostic :=
  { severity := .warning
    message := "field `" ++ e.primaryKey ++ "` is both the primary key and listed in ignores"
    origin := some e.source
    notes := ["the primary-key marker takes precedence; the field is not marked ignored"]
    hints := ["remove `" ++ e.primaryKey ++ "` from ignores"] }

end Diagnostic

/-! ## Generation -/

/-- What a round gives. -/
structure Output where
  /-- The artifacts in the order of their entities. -/
  artifacts : List Artifact := []
  /-- The diagnostics in the order of their entities. -/
  diagnostics : List Diagnostic := []
  deriving DecidableEq, Repr

namespace Output

/-- The diagnostics that report a failure. -/
def errors (o : Output) : List Diagnostic := o.diagnostics.filter (·.isError)

/-- The diagnostics that report no failure. -/
def warnings (o : Output) : List Diagnostic := o.diagnostics.filter (!·.isError)

/-- Some declaration failed. -/
def hasErrors (o : Output) : Bool := o.diagnostics.any (·.isError)

end Output

namespace CompanionClass

/-- The artifact of a companion. -/
def artifact (layout : Layout) (c : CompanionClass) : Artifact :=
  ⟨c.name.qualified, c.originating, c.source layout⟩

end CompanionClass

namespace Settings

variable (s : Settings) (r : Round)

/-- The companion class of the declaration at a position. -/
def companion (id : Nat) : Except GenerationError CompanionClass := do
  let e ← r.entity id
  let name ← r.companionName id s.leading
  .ok (.ofEntity s name e)

/-- The artifact of the declaration at a position, and warnings about the declaration. -/
def generate (id : Nat) : Except GenerationError (Artifact × List Diagnostic) := do
  let e ← r.entity id
  let c ← s.companion r id
  .ok (c.artifact s.layout, if e.ignoresPrimaryKey then [.primaryKeyIgnored e] else [])

/-- What the declaration at a position adds to the output of the round. -/
def outcome (id : Nat) : Output :=
  match s.generate r id with
  | .ok (a, warnings) => ⟨[a], warnings⟩
  | .error e => ⟨[], [.generationFailed e]⟩

/-- What a round gives: the outcomes of its entities, one after the other. -/
def process : Output :=
  let outcomes := r.entities.map (s.outcome r)
  ⟨outcomes.flatMap (·.artifacts), outcomes.flatMap (·.diagnostics)⟩

end Settings

/-! ## Delivery -/

/-- Hand artifacts to a sink one after the other. A refusal leaves the sink as it was and gives a
warning. -/
def deliver {σ : Type} [Sink σ] (sink : σ) : List Artifact → σ × List Diagnostic
  | [] => (sink, [])
  | a :: rest =>
    match Sink.submit sink a with
    | .ok sink => deliver sink rest
    | .error e =>
      let (sink, warnings) := deliver sink rest
      (sink, .writeFailed a e :: warnings)

namespace Settings

/-- Process a round and hand its artifacts to a sink. The warnings about refused artifacts follow
the diagnostics of the round. -/
def run {σ : Type} [Sink σ] (s : Settings) (r : Round) (sink : σ) : Output × σ :=
  let output := s.process r
  let (sink, warnings) := deliver sink output.artifacts
  ({ output with diagnostics := output.diagnostics ++ warnings }, sink)

end Settings

end Companion
