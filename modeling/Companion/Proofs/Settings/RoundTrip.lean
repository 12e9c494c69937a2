import Companion.Proofs.Json.Record
import Companion.Proofs.Json.Spelling
import Companion.Proofs.Name.ShortestText
import Companion.Settings.Json

/-!
# Settings survive writing

Settings that were read name well-formed classes only, since the defaults
do and no class is put that was not read (`wellFormed_of_decode`). The
text of such a class is read as the class, so the object of the settings
is decoded as the settings (`decode_toJson`), and so is every text that
spells the object. What holds of the texts of classes and of settings is
put together in `texts_read_back`.
-/

namespace Companion

open Json Text

/-- A layout is decoded from its object. -/
theorem Layout.decode_toJson (l : Layout) : Layout.record.decode l.toJson = .ok l := by
  simp [record, toJson, Record.decode, Value.ofMembers, Members.ofList, Record.fromMembers,
    Value.ofNat, Value.toNatural, bind, Except.bind]

/-- The text of a well-formed class is decoded as the class. -/
theorem ClassName.WellFormed.toMeaning_text {c : ClassName} (h : c.WellFormed) :
    (Value.string c.text).toMeaning ClassName.ofText = .ok c :=
  Value.toMeaning_string_eq_ok_iff.2 h.ofText_text

/-- A class that was decoded is well-formed. -/
theorem ClassName.wellFormed_of_toMeaning {c : ClassName} {v : Value}
    (h : v.toMeaning ClassName.ofText = .ok c) : c.WellFormed := by
  obtain ⟨input, -, hread⟩ := exists_of_bind_eq_ok h
  exact wellFormed_iff.2 ⟨input, mapError_eq_ok_iff.1 hread⟩

namespace Settings

variable {s : Settings} {v : Value}

/-- The classes that settings name. -/
def classes (s : Settings) : List ClassName :=
  [s.baseClass, s.primaryKeyMarker, s.ignoreMarker, s.entityMarker, s.transientMarker]

/-- **Decoded settings name well-formed classes.** -/
theorem wellFormed_of_decode (h : record.decode v = .ok s) : ∀ c ∈ s.classes, c.WellFormed := by
  have hblank : ∀ c ∈ record.blank.classes, c.WellFormed := by decide +kernel
  have hput : record.Keeps fun _ s => ∀ c ∈ s.classes, c.WellFormed := by
    intro m hm seen s v s' hs hv
    simp only [classes, List.forall_mem_cons] at hs ⊢
    obtain ⟨hbase, hkey, hignore, hentity, htransient, hnil⟩ := hs
    simp only [record, List.mem_cons, List.not_mem_nil, or_false] at hm
    rcases hm with rfl | rfl | rfl | rfl | rfl | rfl | rfl
    · obtain ⟨leading, -, hs'⟩ := exists_of_bind_eq_ok hv
      cases hs'
      exact ⟨hbase, hkey, hignore, hentity, htransient, hnil⟩
    · obtain ⟨c, hc, hs'⟩ := exists_of_bind_eq_ok hv
      cases hs'
      exact ⟨ClassName.wellFormed_of_toMeaning hc, hkey, hignore, hentity, htransient, hnil⟩
    · obtain ⟨c, hc, hs'⟩ := exists_of_bind_eq_ok hv
      cases hs'
      exact ⟨hbase, ClassName.wellFormed_of_toMeaning hc, hignore, hentity, htransient, hnil⟩
    · obtain ⟨c, hc, hs'⟩ := exists_of_bind_eq_ok hv
      cases hs'
      exact ⟨hbase, hkey, ClassName.wellFormed_of_toMeaning hc, hentity, htransient, hnil⟩
    · obtain ⟨c, hc, hs'⟩ := exists_of_bind_eq_ok hv
      cases hs'
      exact ⟨hbase, hkey, hignore, ClassName.wellFormed_of_toMeaning hc, htransient, hnil⟩
    · obtain ⟨c, hc, hs'⟩ := exists_of_bind_eq_ok hv
      cases hs'
      exact ⟨hbase, hkey, hignore, hentity, ClassName.wellFormed_of_toMeaning hc, hnil⟩
    · obtain ⟨layout, -, hs'⟩ := exists_of_bind_eq_ok hv
      cases hs'
      exact ⟨hbase, hkey, hignore, hentity, htransient, hnil⟩
  obtain ⟨-, hinv, -⟩ := Record.invariant_of_decode hblank hput h
  exact hinv

/-- **Settings that name well-formed classes are decoded from their object.** -/
theorem decode_toJson (h : ∀ c ∈ s.classes, c.WellFormed) : record.decode s.toJson = .ok s := by
  simp only [classes, List.forall_mem_cons] at h
  obtain ⟨hbase, hkey, hignore, hentity, htransient, -⟩ := h
  simp [record, toJson, Record.decode_object, Value.ofMembers, Members.ofList, Record.fromMembers,
    Value.toText, bind, Except.bind, hbase.toMeaning_text, hkey.toMeaning_text,
    hignore.toMeaning_text, hentity.toMeaning_text, htransient.toMeaning_text,
    Layout.decode_toJson]

/-- A text that spells a value is read as what the value is decoded as. -/
theorem ofText_of_spells {output : String} (hspells : Spells output.toList v [])
    (h : record.decode v = .ok s) : ofText output = .ok s := by
  rw [ofText, Record.ofText, Json.ofText_of_spells hspells]
  dsimp only
  rw [h]
  rfl

/-- Settings that were read were decoded from a tree. -/
theorem exists_decode_of_ofText {input : String} (h : ofText input = .ok s) :
    ∃ v, record.decode v = .ok s := by
  obtain ⟨s', hdecode, hend⟩ := exists_of_bind_eq_ok h
  split at hend
  · cases hend
  · cases hend
    exact ⟨_, hdecode⟩

end Settings

/-- **Class names and settings survive writing.** The well-formed classes
are those that can be read. Each is read from its text, which is the
dotted form exactly when no segment of the package starts with a capital
and the top-level class does or is the only class, and the form with a
slash otherwise; no shorter text is read as the class. So different
classes have different texts. Settings that were read are decoded from
their object, and read from every text that spells it. -/
theorem texts_read_back :
    (∀ c : ClassName, c.WellFormed ↔ ∃ input, ClassName.ofText input = .ok c) ∧
    (∀ c : ClassName, c.WellFormed →
      ClassName.ofText c.text = .ok c ∧
      (c.text = c.canonical ↔
        (∀ segment ∈ segments c.package.toList, startsUpper segment = false) ∧
          (startsUpper c.outer.toList = true ∨ c.nested = [])) ∧
      (c.text ≠ c.canonical → c.text = c.package ++ "/" ++ c.path) ∧
      ∀ input, ClassName.ofText input = .ok c → c.text.length ≤ input.length) ∧
    (∀ c d : ClassName, c.WellFormed → d.WellFormed → c.text = d.text → c = d) ∧
    ∀ input s, Settings.ofText input = .ok s →
      Settings.record.decode s.toJson = .ok s ∧
      ∀ output : String, Spells output.toList s.toJson [] → Settings.ofText output = .ok s := by
  refine ⟨fun c => ClassName.wellFormed_iff,
    fun c hc => ⟨hc.ofText_text, hc.text_eq_canonical_iff, ?_, ?_⟩,
    fun c d hc hd => hc.eq_of_text_eq hd, fun input s hs => ?_⟩
  · intro hslash
    rw [Ne, hc.text_eq_canonical_iff] at hslash
    exact hc.text_eq_packagedText hslash
  · exact fun input hinput => ClassName.length_text_le hinput
  · obtain ⟨v, hdecode⟩ := Settings.exists_decode_of_ofText hs
    have hback := Settings.decode_toJson (Settings.wellFormed_of_decode hdecode)
    exact ⟨hback, fun output hspells => Settings.ofText_of_spells hspells hback⟩

/-- A base class whose package has a capital is written with a slash, and
the settings are read from the text that has all their members. -/
theorem texts_read_back_packaged :
    (⟨"com.Example", "Foo", []⟩ : ClassName).text = "com.Example/Foo" ∧
    Settings.ofText "\x7b\"base_class\":\"com.Example/Foo\"\x7d"
      = .ok { baseClass := ⟨"com.Example", "Foo", []⟩ } ∧
    Settings.ofText ("\x7b\"prefix\":\"Realm\",\"base_class\":\"com.Example/Foo\"," ++
        "\"primary_key_marker\":\"io.realm.annotations.PrimaryKey\"," ++
        "\"ignore_marker\":\"io.realm.annotations.Ignore\"," ++
        "\"entity_marker\":\"com.realm.annotation.api.Entity\"," ++
        "\"transient_marker\":\"com.realm.annotation.api.Transient\"," ++
        "\"format\":\x7b\"indent_width\":2,\"blank_lines_members\":1\x7d\x7d")
      = .ok { baseClass := ⟨"com.Example", "Foo", []⟩ } := by
  obtain ⟨-, hclass, -, hsettings⟩ := texts_read_back
  have hread : Settings.ofText "\x7b\"base_class\":\"com.Example/Foo\"\x7d"
      = .ok { baseClass := ⟨"com.Example", "Foo", []⟩ } := by
    decide +kernel
  have hwf : (⟨"com.Example", "Foo", []⟩ : ClassName).WellFormed := by decide +kernel
  obtain ⟨-, hdotted, hslash, -⟩ := hclass _ hwf
  have htext : (⟨"com.Example", "Foo", []⟩ : ClassName).text = "com.Example/Foo" := by
    refine hslash fun hcanonical => ?_
    exact absurd (hdotted.1 hcanonical).1 (by decide +kernel)
  have hjson : Settings.toJson { baseClass := ⟨"com.Example", "Foo", []⟩ } = .ofMembers [
      ("prefix", .string "Realm"), ("base_class", .string "com.Example/Foo"),
      ("primary_key_marker", .string "io.realm.annotations.PrimaryKey"),
      ("ignore_marker", .string "io.realm.annotations.Ignore"),
      ("entity_marker", .string "com.realm.annotation.api.Entity"),
      ("transient_marker", .string "com.realm.annotation.api.Transient"),
      ("format", .ofMembers [("indent_width", .ofNat 2), ("blank_lines_members", .ofNat 1)])] := by
    have hmarkers : ({} : Settings).classes.map ClassName.text
        = ["io.realm.RealmObject", "io.realm.annotations.PrimaryKey",
          "io.realm.annotations.Ignore", "com.realm.annotation.api.Entity",
          "com.realm.annotation.api.Transient"] := by
      decide +kernel
    simp only [Settings.classes, List.map_cons, List.map_nil, List.cons.injEq] at hmarkers
    obtain ⟨-, hkey, hignore, hentity, htransient, -⟩ := hmarkers
    rw [Settings.toJson, htext, hkey, hignore, hentity, htransient]
    rfl
  have hindent {rest : List Char} :
      readNumber ('2' :: ',' :: rest) = .read (.natural 2) (',' :: rest) :=
    readNumber_digits ['2'] (by decide) (by decide) (by decide) (by decide)
      (by rintro c ⟨⟩; decide)
  have hgap : readNumber ['1', '\x7d', '\x7d'] = .read (.natural 1) ['\x7d', '\x7d'] :=
    readNumber_digits ['1'] (by decide) (by decide) (by decide) (by decide)
      (by rintro c ⟨⟩; decide)
  have hlayout := Spells.object isGap_nil <|
    .more (readString_text "indent_width" rfl) isGap_nil isGap_nil
      (.natural (by decide) hindent) isGap_nil isGap_nil <|
    .last (readString_text "blank_lines_members" rfl) isGap_nil isGap_nil
      (.natural (by decide) hgap) isGap_nil
  have hspells := Spells.object isGap_nil <|
    .more_plain "prefix" "Realm" rfl rfl <|
    .more_plain "base_class" "com.Example/Foo" rfl rfl <|
    .more_plain "primary_key_marker" "io.realm.annotations.PrimaryKey" rfl rfl <|
    .more_plain "ignore_marker" "io.realm.annotations.Ignore" rfl rfl <|
    .more_plain "entity_marker" "com.realm.annotation.api.Entity" rfl rfl <|
    .more_plain "transient_marker" "com.realm.annotation.api.Transient" rfl rfl <|
    .last (readString_text "format" rfl) isGap_nil isGap_nil hlayout isGap_nil
  refine ⟨htext, hread, (hsettings _ _ hread).2 _ ?_⟩
  rw [hjson]
  convert hspells using 1
  · simp only [String.toList_append]
    decide +kernel
  · rfl

end Companion
