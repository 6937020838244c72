import Mathlib.Data.Set.List
import ClusterConsole.Proofs.Settings.Load
import ClusterConsole.Proofs.Toml.Assignment

/-! # What a file can set

A file can set each setting to each value, in lines in any order, among other entries and in front of tables. It sets
nothing else, whatever these tables hold. -/

namespace ClusterConsole.Settings
open Toml (Item Part Joined Assigns)

/-- A value for one of the settings. -/
inductive Setting where
  | bindAddress (text : String)
  | apiUrl (text : String)
  | displayUtc (value : Bool)
  | requestTimeout (n : UInt64)

namespace Setting

/-- The key of a setting. -/
def key : Setting → String
  | bindAddress _ => "bind_addr"
  | apiUrl _ => "api_url"
  | displayUtc _ => "display_utc"
  | requestTimeout _ => "request_timeout_ms"

/-- What stands under the key in a document. -/
def item : Setting → Item
  | bindAddress text => .string text
  | apiUrl text => .string text
  | displayUtc value => .boolean value
  | requestTimeout n => .integer n.toNat

/-- The keys of all settings. -/
def keys : List String :=
  ["bind_addr", "api_url", "display_utc", "request_timeout_ms"]

theorem key_mem (setting : Setting) : setting.key ∈ keys := by
  cases setting <;> simp [key, keys]

end Setting

/-- The settings that are set. -/
def FromFile.settings (f : FromFile) : List Setting :=
  f.bindAddress.toList.map .bindAddress ++ f.apiUrl.toList.map .apiUrl ++ f.displayUtc.toList.map .displayUtc ++
    f.requestTimeout.toList.map .requestTimeout

/-- A line that sets a setting. -/
structure SettingLine where
  setting : Setting
  text : List Char
  assigns : Assigns setting.key setting.item text

/-- The line as a document. -/
def SettingLine.part (line : SettingLine) : Part :=
  line.assigns.part

/-- A document with lines for settings and for other entries in any order, and tables of other names behind them. -/
structure Document where
  settings : List SettingLine
  others : List Part
  lines : List Part
  tables : List Part
  mixed : lines.Perm (settings.map SettingLine.part ++ others)
  plain : ∀ part ∈ others, part.IsPlain
  begins : ∀ part ∈ tables, part.BeginsTable
  apart : (others ++ tables).Pairwise Part.Apart
  foreign : ∀ part ∈ others ++ tables, ∀ key ∈ part.entries.keys, key ∉ Setting.keys

/-- The text of a document that sets what `f` does: the parts of the document each on lines of its own, and maybe a byte
    order mark in front. -/
inductive FileText (f : FromFile) (text : String) : Prop
  | intro (document : Document) (hsettings : document.settings.map SettingLine.setting = f.settings) {input : List Char}
    (hjoined : Joined ((document.lines ++ document.tables).map Part.text) input)
    (hmark : text.toList = input ∨ text.toList = '\ufeff' :: input)

/-! ### Reading the document -/

section
variable {f : FromFile} {document : Document} {key : String} {item : Item}

theorem FromFile.nodup_keys (f : FromFile) : (f.settings.map Setting.key).Nodup := by
  obtain ⟨bindAddress, apiUrl, displayUtc, requestTimeout⟩ := f
  cases bindAddress <;> cases apiUrl <;> cases displayUtc <;> cases requestTimeout <;>
    simp [FromFile.settings, Setting.key]

namespace SettingLine
variable {line : SettingLine}

theorem mem_keys_part : key ∈ line.part.entries.keys ↔ key = line.setting.key :=
  List.mem_singleton

theorem lookup_part : line.part.entries.lookup key = some item ↔ line.setting.key = key ∧ line.setting.item = item := by
  show List.lookup key [(line.setting.key, line.setting.item)] = some item ↔ _
  by_cases hkey : key = line.setting.key
  · subst hkey
    simp
  · simp [beq_false_of_ne hkey, Ne.symm hkey, List.lookup_cons]

end SettingLine

namespace Document

theorem perm_parts (document : Document) : (document.lines ++ document.tables).Perm
    (document.settings.map SettingLine.part ++ (document.others ++ document.tables)) :=
  (document.mixed.append_right document.tables).trans (.of_eq (List.append_assoc _ _ _))

theorem pairwise_apart (hsettings : document.settings.map SettingLine.setting = f.settings) :
    (document.lines ++ document.tables).Pairwise Part.Apart := by
  refine (document.perm_parts.pairwise_iff Part.Apart.symm).mpr (List.pairwise_append.mpr ⟨?_, document.apart, ?_⟩)
  · have hkeys := f.nodup_keys
    rw [← hsettings, List.map_map] at hkeys
    refine List.pairwise_map.mpr ((List.pairwise_map.mp hkeys).imp fun hne key hfirst hsecond => ?_)
    exact hne ((SettingLine.mem_keys_part.mp hfirst).symm.trans (SettingLine.mem_keys_part.mp hsecond))
  · intro part hpart other hother key hkey hmem
    obtain ⟨line, -, rfl⟩ := List.mem_map.mp hpart
    refine document.foreign other hother key hmem ?_
    rw [SettingLine.mem_keys_part.mp hkey]
    exact line.setting.key_mem

/-- What stands under the key of a setting comes from the line that sets it. -/
theorem lookup_eq_some_iff (hsettings : document.settings.map SettingLine.setting = f.settings)
    (hkey : key ∈ Setting.keys) :
    ((document.lines ++ document.tables).flatMap Part.entries).lookup key = some item ↔
      ∃ setting ∈ f.settings, setting.key = key ∧ setting.item = item := by
  rw [Toml.lookup_parts_eq_some_iff (pairwise_apart hsettings), ← hsettings]
  constructor
  · rintro ⟨part, hmem, hitem⟩
    rcases List.mem_append.mp (document.perm_parts.mem_iff.mp hmem) with hset | hother
    · obtain ⟨line, hline, rfl⟩ := List.mem_map.mp hset
      exact ⟨line.setting, List.mem_map_of_mem hline, SettingLine.lookup_part.mp hitem⟩
    · have hnone := Toml.Entries.lookup_eq_none_iff_keys.mpr fun hmem => document.foreign part hother key hmem hkey
      cases hnone.symm.trans hitem
  · rintro ⟨setting, hmem, hitem⟩
    obtain ⟨line, hline, rfl⟩ := List.mem_map.mp hmem
    have hpart : line.part ∈ document.settings.map SettingLine.part := List.mem_map_of_mem hline
    have hpart := List.mem_append_left (document.others ++ document.tables) hpart
    exact ⟨line.part, document.perm_parts.mem_iff.mpr hpart, SettingLine.lookup_part.mpr hitem⟩

theorem sets (hsettings : document.settings.map SettingLine.setting = f.settings) :
    Sets ((document.lines ++ document.tables).flatMap Part.entries) f := by
  constructor <;>
  · refine Option.ext fun item => ?_
    rw [lookup_eq_some_iff hsettings (by decide)]
    simp only [FromFile.settings, List.mem_append, List.mem_map, or_and_right, exists_or, exists_exists_and_eq_and]
    simp [Setting.key, Setting.item]

end Document

theorem Setting.keyText (setting : Setting) : Toml.KeyText setting.key setting.key.toList := by
  have hall : ∀ key ∈ Setting.keys, key.toList ≠ [] ∧ key.toList.all Toml.isBare := by decide
  obtain ⟨hne, hbare⟩ := hall _ setting.key_mem
  have hkey := Toml.KeyText.bare hne (List.all_eq_true.mp hbare)
  rwa [String.ofList_toList] at hkey

/-- Each setting can be set by a line. -/
theorem exists_settingLine (setting : Setting) (hfits : ∀ n, setting = .requestTimeout n → n.toNat < Word.signedLimit) :
    ∃ line : SettingLine, line.setting = setting := by
  have hvalue : ∃ text, Toml.ValueText setting.item text := by
    cases setting with
    | bindAddress text | apiUrl text =>
      obtain ⟨spelled, h⟩ := Toml.exists_spelled text.toList
      have hvalue := Toml.ValueText.string h
      rw [String.ofList_toList] at hvalue
      exact ⟨_, hvalue⟩
    | displayUtc value => exact ⟨_, .truth value⟩
    | requestTimeout n =>
      exact ⟨_, .number (hfits n rfl) (.decimal (.inl rfl) (Toml.separated_self Nat.toDigits_ne_nil))⟩
  obtain ⟨valueText, hvalue⟩ := hvalue
  obtain ⟨text, h⟩ := Toml.Assigns.exists_assigns setting.keyText hvalue
  exact ⟨⟨setting, text, h⟩, rfl⟩

theorem exists_fileText (hfits : ∀ n ∈ f.requestTimeout, n.toNat < Word.signedLimit) : ∃ text, FileText f text := by
  have hlines : f.settings ∈ Set.range (List.map SettingLine.setting) := by
    rw [Set.range_list_map]
    refine fun setting hmem => exists_settingLine setting ?_
    rintro n rfl
    refine hfits n ?_
    simpa [FromFile.settings] using hmem
  obtain ⟨lines, hlines⟩ := hlines
  obtain ⟨input, hjoined⟩ := Toml.exists_joined ((lines.map SettingLine.part ++ []).map Part.text)
  refine ⟨String.ofList input, .intro ⟨lines, [], lines.map SettingLine.part, [], ?_, nofun, nofun, .nil, nofun⟩ hlines
    hjoined (.inl String.toList_ofList)⟩
  rw [List.append_nil]

end

/-- A file can set any of the settings to any values, the number up to the greatest word with a sign. It leaves the
    others as they were, whatever else it holds in other entries and tables, and nothing is reported. -/
theorem applyFile_of_fileText (f : FromFile) (hfits : ∀ n ∈ f.requestTimeout, n.toNat < Word.signedLimit) :
    (∃ text, FileText f text) ∧ ∀ (s : Settings) (text : String), FileText f text → s.applyFile text =
      ({ bindAddress := f.bindAddress.getD s.bindAddress
         apiUrl := f.apiUrl.getD s.apiUrl
         displayUtc := f.displayUtc.getD s.displayUtc
         requestTimeout := f.requestTimeout.getD s.requestTimeout }, []) := by
  refine ⟨exists_fileText hfits, fun s text htext => ?_⟩
  obtain ⟨document, hsettings, hjoined, hmark⟩ := htext
  have hplain : ∀ part ∈ document.lines, part.IsPlain := by
    intro part hmem
    rcases List.mem_append.mp (document.mixed.mem_iff.mp hmem) with hset | hother
    · obtain ⟨line, -, rfl⟩ := List.mem_map.mp hset
      exact line.assigns.isPlain_part
    · exact document.plain part hother
  have hparse := Toml.parse_parts hplain document.begins (document.pairwise_apart hsettings) hmark hjoined
  have hsets := (ofEntries?_eq_some_iff_of_parse hparse).mpr (document.sets hsettings)
  unfold applyFile
  rw [hparse, Option.bind_some, hsets]
  rfl

/-- Two settings among a comment, another key and an empty line, in front of tables with all four keys. -/
theorem applyFile_of_fileText_mixed :
    let f : FromFile := { bindAddress := some ":1", requestTimeout := some 1872 }
    let text := "# file" ++ "\r\n" ++ "request_timeout_ms = 0x7_50" ++ "\n" ++ "name.first = ['a',\n 1]" ++ "\n" ++ "" ++
      "\n" ++ " bind_addr=\"\\u003A1\" # where" ++ "\r\n" ++
        "[limits]\napi_url = 1\ndisplay_utc = 'no'\n[[limits.more]]\nbind_addr = \x7b\x7d\nrequest_timeout_ms = -1\n"
    (∀ n ∈ f.requestTimeout, n.toNat < Word.signedLimit) ∧ FileText f text ∧
      Settings.default.applyFile text =
        ({ Settings.default with bindAddress := ":1", requestTimeout := 1872 }, []) := by
  intro f text
  have hfits : ∀ n ∈ f.requestTimeout, n.toNat < Word.signedLimit := by
    rintro n ⟨⟩
    decide
  have hblank : Toml.Spaces [' '] := List.forall_mem_singleton.mpr rfl
  have hbind : Assigns "bind_addr" (.string ":1") " bind_addr=\"\\u003A1\" # where".toList := by
    have hcolon : Toml.Spells ':' ('\\' :: 'u' :: "003A".toList) := .short (by decide) (by decide)
    have hone : Toml.Spells '1' ['1'] := .plain (by decide) (by decide) (by decide)
    have hvalue : Toml.ValueText (.string ":1") _ := .string (.cons hcolon (.cons hone .nil))
    have hcomment : Toml.Comment "# where".toList := .some (List.all_eq_true.mp (by decide))
    exact @Toml.Assigns.intro _ _ [' '] [] [] [' '] _ _ _ hblank nofun nofun hblank
      (Setting.bindAddress ":1").keyText hvalue hcomment
  have htimeout : Assigns "request_timeout_ms" (.integer 1872) "request_timeout_ms = 0x7_50".toList := by
    have hnumber : Toml.NumberText 1872 "0x7_50".toList :=
      .based List.mem_cons_self (by decide) (.underscore '7' (.next '5' (.last '0')))
    exact @Toml.Assigns.intro _ _ [] [' '] [' '] [] _ _ [] nofun hblank hblank nofun
      (Setting.requestTimeout 1872).keyText (.number (by decide) hnumber) .none
  let bind : SettingLine := ⟨.bindAddress ":1", _, hbind⟩
  let timeout : SettingLine := ⟨.requestTimeout 1872, _, htimeout⟩
  let comment := Part.ofText "# file".toList (by decide +kernel)
  let name := Part.ofText "name.first = ['a',\n 1]".toList (by decide +kernel)
  let empty := Part.ofText "".toList (by decide +kernel)
  let limits := Part.ofText
    "[limits]\napi_url = 1\ndisplay_utc = 'no'\n[[limits.more]]\nbind_addr = \x7b\x7d\nrequest_timeout_ms = -1\n".toList
    (by decide +kernel)
  -- No two parts define one key, and the others none of the four.
  have hkeys : ([comment, name, empty] ++ [limits]).map (fun part => part.entries.keys) =
      [[], ["name"], [], ["limits"]] := by decide +kernel
  have hapart : [[], ["name"], [], ["limits"]].Pairwise
      fun keys others : List String => ∀ key ∈ keys, key ∉ others := by decide
  have hforeign : ∀ keys ∈ [[], ["name"], [], ["limits"]], ∀ key ∈ keys, key ∉ Setting.keys := by decide
  rw [← hkeys] at hapart hforeign
  replace hapart := List.pairwise_map.mp hapart
  let document : Document :=
    { settings := [bind, timeout]
      others := [comment, name, empty]
      lines := [comment, timeout.part, name, empty, bind.part]
      tables := [limits]
      mixed := (List.perm_append_singleton bind.part [comment, timeout.part, name, empty]).trans
        ((List.Perm.swap timeout.part comment [name, empty]).cons bind.part)
      plain := by decide +kernel
      begins := by decide +kernel
      apart := hapart
      foreign := List.forall_mem_map.mp hforeign }
  have hjoined : Joined ((document.lines ++ document.tables).map Part.text) text.toList := by
    have hfeed : "\n".toList = ['\n'] := rfl
    have hreturnFeed : "\r\n".toList = ['\r', '\n'] := rfl
    simp only [text, String.toList_append, hfeed, hreturnFeed, List.append_assoc, List.cons_append, List.nil_append]
    exact .returnFeed _ (.feed _ (.feed _ (.feed _ (.returnFeed _ (.last _)))))
  have hfile : FileText f text := .intro document rfl hjoined (.inl rfl)
  exact ⟨hfits, hfile, (applyFile_of_fileText f hfits).2 _ text hfile⟩

end ClusterConsole.Settings
