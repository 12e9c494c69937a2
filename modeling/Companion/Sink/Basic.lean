import Companion.Artifact

/-!
# Sinks — where artifacts go

A sink takes artifacts one at a time and keeps each under its name. It never replaces
what it already holds: a second artifact of one name is refused, and the caller decides
what a refusal means.
-/

namespace Companion

/-- Why a sink refuses an artifact. -/
inductive SinkError where
  /-- The sink already holds an artifact of that name. -/
  | alreadyExists (name : String)
  /-- The storage behind the sink cannot hold the artifact. -/
  | unwritable (name : String)
  /-- The path of the artifact leaves the sink's root, which the host does not allow. -/
  | outsideRoot (name : String)
  deriving DecidableEq, Repr

namespace SinkError

/-- The report of a refusal. What the storage has to say stands as a mark of its own. -/
def message : SinkError → String
  | alreadyExists name => name ++ " already exists"
  | unwritable name => "failed to write " ++ name ++ ": <io>"
  | outsideRoot name => name ++ " lies outside the root"

end SinkError

/-- The states of a sink. -/
class Sink (σ : Type) where
  /-- The sink after it took the artifact, or its reason to refuse it. -/
  submit : σ → Artifact → Except SinkError σ

end Companion
