import Companion.Json.Decode
import Companion.Name.ClassText
import Companion.Settings

/-!
# Settings as JSON

Settings come from the host as an object in which every member may be left out; one that
is keeps its default. Classes are given as texts.
-/

namespace Companion

open Json

namespace Layout

/-- How a layout is written. -/
def record : Record Layout where
  name := "FormatConfig"
  blank := {}
  members := [
    ⟨"indent_width", false, fun l v => do .ok { l with indentWidth := ← v.toNatural }⟩,
    ⟨"blank_lines_members", false, fun l v => do .ok { l with memberGap := ← v.toNatural }⟩]

/-- The object that is decoded as the layout. -/
def toJson (l : Layout) : Value :=
  .ofMembers [("indent_width", .ofNat l.indentWidth), ("blank_lines_members", .ofNat l.memberGap)]

end Layout

namespace Settings

/-- How settings are written. -/
def record : Record Settings where
  name := "GeneratorConfig"
  blank := {}
  members := [
    ⟨"prefix", false, fun s v => do .ok { s with leading := ← v.toText }⟩,
    ⟨"base_class", false, fun s v => do
      .ok { s with baseClass := ← v.toMeaning ClassName.ofText }⟩,
    ⟨"primary_key_marker", false, fun s v => do
      .ok { s with primaryKeyMarker := ← v.toMeaning ClassName.ofText }⟩,
    ⟨"ignore_marker", false, fun s v => do
      .ok { s with ignoreMarker := ← v.toMeaning ClassName.ofText }⟩,
    ⟨"entity_marker", false, fun s v => do
      .ok { s with entityMarker := ← v.toMeaning ClassName.ofText }⟩,
    ⟨"transient_marker", false, fun s v => do
      .ok { s with transientMarker := ← v.toMeaning ClassName.ofText }⟩,
    ⟨"format", false, fun s v => do .ok { s with layout := ← Layout.record.decode v }⟩]

/-- The object that is decoded as the settings. -/
def toJson (s : Settings) : Value :=
  .ofMembers [("prefix", .string s.leading), ("base_class", .string s.baseClass.text),
    ("primary_key_marker", .string s.primaryKeyMarker.text),
    ("ignore_marker", .string s.ignoreMarker.text),
    ("entity_marker", .string s.entityMarker.text),
    ("transient_marker", .string s.transientMarker.text), ("format", s.layout.toJson)]

/-- The settings that a text describes. -/
def ofText (text : String) : Decoded Settings := record.ofText text

/-- The report of a problem with a text that should describe settings. -/
def problemMessage (p : Problem) : String := p.message "generator config"

end Settings

end Companion
