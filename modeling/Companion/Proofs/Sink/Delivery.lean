import Companion.Generator
import Companion.Sink.Memory
import Mathlib.Data.List.Nodup

/-!
# Delivery — handing artifacts to a memory sink

A memory sink takes an artifact when it keeps none of that name, and
refuses it otherwise. So artifacts whose names are all different and new
are all kept, in their order and as they are, and nothing is said about
them (`deliver_of_nodup`).
-/

namespace Companion

variable {sink : MemorySink} {a : Artifact}

namespace MemorySink

/-- **An artifact with a new name is kept behind the others.** -/
theorem submit_of_notMem (h : a.name ∉ sink.artifacts.map (·.name)) :
    ∃ sink', sink.submit a = .ok sink' ∧ sink'.artifacts = sink.artifacts ++ [a] := by
  unfold submit
  split
  · next b htaken =>
    rw [get?_eq_none_iff.2 h] at htaken
    cases htaken
  · exact ⟨_, rfl, rfl⟩

end MemorySink

/-- **Artifacts with new and different names are kept without a word.** -/
theorem deliver_of_nodup (sink : MemorySink) (as : List Artifact)
    (h : ((sink.artifacts ++ as).map (·.name)).Nodup) :
    ∃ sink', deliver sink as = (sink', []) ∧ sink'.artifacts = sink.artifacts ++ as := by
  induction as generalizing sink with
  | nil => exact ⟨sink, rfl, (List.append_nil _).symm⟩
  | cons a rest ih =>
    have hnew : a.name ∉ sink.artifacts.map (·.name) := by
      rw [List.map_append, List.nodup_append] at h
      exact fun hmem => h.2.2 _ hmem _ (by simp) rfl
    obtain ⟨middle, hsubmit, hmiddle⟩ := MemorySink.submit_of_notMem hnew
    have hrest : ((middle.artifacts ++ rest).map (·.name)).Nodup := by
      rwa [hmiddle, List.append_assoc, List.singleton_append]
    obtain ⟨sink', hdeliver, hsink'⟩ := ih middle hrest
    refine ⟨sink', ?_, ?_⟩
    · have hsubmit' : Sink.submit sink a = .ok middle := hsubmit
      rw [deliver, hsubmit']
      exact hdeliver
    · rw [hsink', hmiddle, List.append_assoc, List.singleton_append]

end Companion
