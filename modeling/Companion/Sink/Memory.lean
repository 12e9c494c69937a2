import Companion.Sink.Basic

/-!
# The memory sink

Artifacts are kept in the order in which they came, one for each name. The first
artifact of a name stays.
-/

namespace Companion

/-- The artifacts a memory sink holds, in the order in which they came. -/
structure MemorySink where
  /-- The artifacts. -/
  artifacts : List Artifact := []
  /-- No two of them have the same name. -/
  distinct : (artifacts.map (·.name)).Nodup := by simp
  deriving DecidableEq

namespace MemorySink

/-- The artifact kept under a name. -/
def get? (sink : MemorySink) (name : String) : Option Artifact :=
  sink.artifacts.find? (·.name == name)

/-- The number of artifacts. -/
def size (sink : MemorySink) : Nat := sink.artifacts.length

/-- The names under which artifacts are kept, in increasing order. -/
def names (sink : MemorySink) : List String :=
  (sink.artifacts.map (·.name)).mergeSort fun a b => decide (a ≤ b)

/-- No artifact is kept under a name exactly when none of those kept has it. -/
theorem get?_eq_none_iff {sink : MemorySink} {name : String} :
    sink.get? name = none ↔ name ∉ sink.artifacts.map (·.name) := by
  simp only [get?, List.find?_eq_none, beq_iff_eq, List.mem_map, not_exists, not_and]

/-- Keep an artifact unless its name is taken. -/
def submit (sink : MemorySink) (a : Artifact) : Except SinkError MemorySink :=
  match taken : sink.get? a.name with
  | some _ => .error (.alreadyExists a.name)
  | none =>
    .ok ⟨sink.artifacts ++ [a], by
      rw [List.map_append, List.nodup_append]
      refine ⟨sink.distinct, by simp, fun name old other new same => ?_⟩
      simp only [List.map_cons, List.map_nil, List.mem_singleton] at new
      exact get?_eq_none_iff.1 taken (new ▸ same ▸ old)⟩

instance : Sink MemorySink := ⟨submit⟩

end MemorySink

end Companion
