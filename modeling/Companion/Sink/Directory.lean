import Companion.Sink.Basic

/-!
# The directory sink

Each artifact becomes a file below a root directory, in the directories that its package
names. A file is made new and never overwritten. The names of directories hold no dot
and those of files hold one, so a file is never in the way of a directory; the sink is
therefore described by its files alone, each under the names on the way to it.

A file cannot be made when the root is no directory, or when a name on the way to it is
longer than a file system allows or holds a null character.

A path that begins anew with a slash leads out of the root. The sink itself does not look
for that: the refusal `outsideRoot` stands for the guard of the host that runs it, which
keeps all that is written below the root.
-/

namespace Companion

/-- The files below the root of a directory sink. -/
structure DirectorySink where
  /-- The root is a directory, or nothing stands there yet. -/
  rooted : Bool := true
  /-- The contents of each file with the names on the way to it, in the order of making. -/
  files : List (List String × String) := []
  /-- No two files are in the same place. -/
  distinct : (files.map (·.1)).Nodup := by simp
  deriving DecidableEq

namespace DirectorySink

/-- The sink whose root is an ordinary file, in which no directory can be made. -/
def onFile : DirectorySink := { rooted := false }

/-- The longest name of a file or directory, in bytes. -/
def nameLimit : Nat := 255

/-- A name that a file or directory can have. -/
def isFileName (name : String) : Bool :=
  name.utf8ByteSize ≤ nameLimit && !name.toList.contains '\x00'

/-- The contents of a file. -/
def get? (sink : DirectorySink) (location : List String) : Option String :=
  sink.files.lookup location

/-- There is no file in a place exactly when no file that was made is there. -/
theorem get?_eq_none_iff {sink : DirectorySink} {location : List String} :
    sink.get? location = none ↔ location ∉ sink.files.map (·.1) := by
  simp only [get?, List.lookup_eq_none_iff, bne_iff_ne, List.mem_map, not_exists, not_and]
  exact forall₂_congr fun file _ => ne_comm

/-- Make the file of an artifact. -/
def submit (sink : DirectorySink) (a : Artifact) : Except SinkError DirectorySink :=
  match a.location? with
  | none => .error (.outsideRoot a.name)
  | some location =>
    if !sink.rooted || !location.all isFileName then .error (.unwritable a.name)
    else
      match taken : sink.get? location with
      | some _ => .error (.alreadyExists a.name)
      | none =>
        .ok ⟨sink.rooted, sink.files ++ [(location, a.contents)], by
          rw [List.map_append, List.nodup_append]
          refine ⟨sink.distinct, by simp, fun place old other new same => ?_⟩
          simp only [List.map_cons, List.map_nil, List.mem_singleton] at new
          exact get?_eq_none_iff.1 taken (new ▸ same ▸ old)⟩

instance : Sink DirectorySink := ⟨submit⟩

/-- The files in the order of a walk through the directories, each of which lists its entries by
name: the relative path and the contents. -/
def listing (sink : DirectorySink) : List (String × String) :=
  (sink.files.mergeSort fun a b => (compare a.1 b.1).isLE).map fun file =>
    ("/".intercalate file.1, file.2)

end DirectorySink

end Companion
