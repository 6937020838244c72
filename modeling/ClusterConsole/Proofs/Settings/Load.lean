import Mathlib.Data.List.ReduceOption
import ClusterConsole.Proofs.Settings.Variable
import ClusterConsole.Proofs.Text.Utf8
import ClusterConsole.Proofs.Toml.Statement
import ClusterConsole.Settings.Environment

/-! # Where the settings come from

Each setting is the last value that is given for it: by default, by the file, or by its variables in turn. A file gives
all that it holds or nothing. -/

namespace ClusterConsole.Settings
open Toml (Entries Item)

/-- The last of the values that are given after a default. -/
def lastGiven {α : Type} (default : α) (given : List (Option α)) : α :=
  given.reduceOption.getLast?.getD default

/-! ### What a file gives -/

/-- What the entries of a document set. -/
structure Sets (entries : Entries) (f : FromFile) : Prop where
  bindAddress : entries.lookup "bind_addr" = f.bindAddress.map .string
  apiUrl : entries.lookup "api_url" = f.apiUrl.map .string
  displayUtc : entries.lookup "display_utc" = f.displayUtc.map .boolean
  requestTimeout : entries.lookup "request_timeout_ms" = f.requestTimeout.map fun n => .integer n.toNat

/-- An item is of the kind that a key wants, if it is a key of a setting. -/
structure Suits (key : String) (item : Item) : Prop where
  text : key = "bind_addr" ∨ key = "api_url" → ∃ s, item = .string s
  truth : key = "display_utc" → ∃ b, item = .boolean b
  number : key = "request_timeout_ms" → ∃ n : Nat, item = .integer n

/-- What a file gives to the settings, and what is reported of it. -/
inductive Contributes : Option (List UInt8) → FromFile → List LogEntry → Prop
  | missing : Contributes none {} []
  | notText {bytes : List UInt8} (h : ∀ text, bytes ≠ Utf8.ofString text) : Contributes (some bytes) {} []
  | faulty {text : String} (h : Toml.statements? text = none) :
    Contributes (some (Utf8.ofString text)) {} [.unreadableFile]
  | conflicting {text : String} {statements : List Toml.Statement} (hread : Toml.statements? text = some statements)
    (h : Toml.Statement.runAll [] statements = none) : Contributes (some (Utf8.ofString text)) {} [.unreadableFile]
  | unsuitable {text : String} {entries : Entries} {key : String} {item : Item} (hparse : Toml.parse text = some entries)
    (hitem : entries.lookup key = some item) (h : ¬Suits key item) :
    Contributes (some (Utf8.ofString text)) {} [.unreadableFile]
  | valid {text : String} {entries : Entries} {f : FromFile} (hparse : Toml.parse text = some entries)
    (hsets : Sets entries f) : Contributes (some (Utf8.ofString text)) f []

theorem entry?_eq_some_iff {α : Type} {entries : Entries} {key : String} {value? : Item → Option α} {toItem : α → Item}
    {value : Option α} (h : ∀ item, entries.lookup key = some item → ∀ x, value? item = some x ↔ item = toItem x) :
    entry? entries key value? = some value ↔ entries.lookup key = value.map toItem := by
  unfold entry?
  cases hlookup : entries.lookup key with
  | none => cases value <;> simp
  | some item =>
    cases value with
    | none => simp
    | some x =>
      have hitem := h item hlookup x
      simp [hitem]

section
variable {α : Type} {toItem : α → Item}

theorem exists_eq_map {found : Option Item} (h : ∀ item, found = some item → ∃ x, item = toItem x) :
    ∃ value : Option α, found = value.map toItem := by
  cases found with
  | none => exact ⟨none, rfl⟩
  | some item =>
    obtain ⟨x, rfl⟩ := h item rfl
    exact ⟨some x, rfl⟩

theorem exists_of_eq_map {item : Item} {value : Option α} (h : some item = value.map toItem) : ∃ x, item = toItem x := by
  obtain ⟨x, -, hx⟩ := Option.map_eq_some_iff.mp h.symm
  exact ⟨x, hx.symm⟩

end

section
variable {entries : Entries} {f : FromFile}

theorem text?_eq_some_iff {item : Item} {s : String} : text? item = some s ↔ item = .string s := by
  cases item <;> simp [text?]

theorem truth?_eq_some_iff {item : Item} {b : Bool} : truth? item = some b ↔ item = .boolean b := by
  cases item <;> simp [truth?]

/-- A number that fits a word with a sign is not too great for one without. -/
theorem natural?_eq_some_iff {item : Item} (hfits : item.IsValue → item.Fits) {n : UInt64} :
    natural? item = some n ↔ item = .integer n.toNat := by
  cases item with
  | integer m =>
    have hm : -(Word.signedLimit : Int) ≤ m ∧ m < Word.signedLimit := hfits trivial
    show (if 0 ≤ m then some (UInt64.ofNat m.toNat) else none) = some n ↔ _
    constructor
    · intro h
      split at h
      · rename_i hpos
        obtain rfl := Option.some.inj h
        have hlt : m.toNat < UInt64.size := by
          unfold Word.signedLimit at hm
          unfold UInt64.size
          omega
        rw [UInt64.toNat_ofNat_of_lt' hlt, Int.toNat_of_nonneg hpos]
      · cases h
    · intro h
      obtain rfl : m = n.toNat := Item.integer.inj h
      rw [if_pos (Int.natCast_nonneg _), Int.toNat_natCast, UInt64.ofNat_toNat]
  | _ => simp [natural?]

theorem ofEntries?_eq_some_iff (hfits : ∀ key item, entries.lookup key = some item → item.IsValue → item.Fits) :
    FromFile.ofEntries? entries = some f ↔ Sets entries f := by
  have htext : ∀ key value, entry? entries key text? = some value ↔ entries.lookup key = value.map Item.string :=
    fun key value => entry?_eq_some_iff fun item _ s => text?_eq_some_iff
  have htruth : ∀ key value, entry? entries key truth? = some value ↔ entries.lookup key = value.map Item.boolean :=
    fun key value => entry?_eq_some_iff fun item _ b => truth?_eq_some_iff
  have hnumber : ∀ key value, entry? entries key natural? = some value ↔
      entries.lookup key = value.map fun n : UInt64 => Item.integer n.toNat :=
    fun key value => entry?_eq_some_iff fun item hitem n => natural?_eq_some_iff (hfits key item hitem)
  unfold FromFile.ofEntries?
  constructor
  · intro h
    obtain ⟨bindAddress, hbind, h⟩ := Option.bind_eq_some_iff.mp h
    obtain ⟨apiUrl, hurl, h⟩ := Option.bind_eq_some_iff.mp h
    obtain ⟨displayUtc, hutc, h⟩ := Option.bind_eq_some_iff.mp h
    obtain ⟨requestTimeout, htimeout, h⟩ := Option.bind_eq_some_iff.mp h
    obtain rfl := Option.some.inj h
    exact ⟨(htext _ _).mp hbind, (htext _ _).mp hurl, (htruth _ _).mp hutc, (hnumber _ _).mp htimeout⟩
  · rintro ⟨hbind, hurl, hutc, htimeout⟩
    rw [(htext _ _).mpr hbind, (htext _ _).mpr hurl, (htruth _ _).mpr hutc, (hnumber _ _).mpr htimeout]
    rfl

theorem exists_sets_iff (hfits : ∀ key item, entries.lookup key = some item → item.IsValue → item.Fits) :
    (∃ f, Sets entries f) ↔ ∀ key item, entries.lookup key = some item → Suits key item := by
  constructor
  · rintro ⟨f, hbind, hurl, hutc, htimeout⟩ key item hitem
    refine ⟨?_, ?_, ?_⟩
    · rintro (rfl | rfl)
      · exact exists_of_eq_map (hitem.symm.trans hbind)
      · exact exists_of_eq_map (hitem.symm.trans hurl)
    · rintro rfl
      exact exists_of_eq_map (hitem.symm.trans hutc)
    · rintro rfl
      obtain ⟨n, hn⟩ := exists_of_eq_map (hitem.symm.trans htimeout)
      exact ⟨n.toNat, hn⟩
  · intro hsuits
    obtain ⟨bindAddress, hbind⟩ := exists_eq_map fun item hitem => (hsuits "bind_addr" item hitem).text (.inl rfl)
    obtain ⟨apiUrl, hurl⟩ := exists_eq_map fun item hitem => (hsuits "api_url" item hitem).text (.inr rfl)
    obtain ⟨displayUtc, hutc⟩ := exists_eq_map fun item hitem => (hsuits "display_utc" item hitem).truth rfl
    -- An integer of the file is below 2^63, so one that is not negative is a word.
    have hnumber : ∀ item, entries.lookup "request_timeout_ms" = some item → ∃ n : UInt64, item = .integer n.toNat := by
      intro item hitem
      obtain ⟨n, rfl⟩ := (hsuits _ item hitem).number rfl
      have hn : -(Word.signedLimit : Int) ≤ n ∧ (n : Int) < Word.signedLimit := hfits _ _ hitem trivial
      have hlt : n < UInt64.size := by
        unfold Word.signedLimit at hn
        unfold UInt64.size
        omega
      exact ⟨.ofNat n, by rw [UInt64.toNat_ofNat_of_lt' hlt]⟩
    obtain ⟨requestTimeout, htimeout⟩ := exists_eq_map hnumber
    exact ⟨⟨bindAddress, apiUrl, displayUtc, requestTimeout⟩, hbind, hurl, hutc, htimeout⟩

end

/-- What a file gives, computed. -/
def fromFile (file : Option (List UInt8)) : FromFile × List LogEntry :=
  match file.bind Utf8.string? with
  | none => ({}, [])
  | some text =>
    match (Toml.parse text).bind FromFile.ofEntries? with
    | some f => (f, [])
    | none => ({}, [.unreadableFile])

section
variable {file : Option (List UInt8)} {text : String} {entries : Entries} {f : FromFile} {log : List LogEntry}

theorem fromFile_ofString (text : String) : fromFile (some (Utf8.ofString text)) =
    match (Toml.parse text).bind FromFile.ofEntries? with
    | some f => (f, [])
    | none => ({}, [.unreadableFile]) := by
  rw [fromFile, Option.bind_some, Utf8.string?_eq_some_iff.mpr rfl]

theorem fromFile_of_parse_eq_none (h : Toml.parse text = none) :
    fromFile (some (Utf8.ofString text)) = ({}, [.unreadableFile]) := by
  rw [fromFile_ofString, h, Option.bind_none]

theorem ofEntries?_eq_some_iff_of_parse (h : Toml.parse text = some entries) :
    FromFile.ofEntries? entries = some f ↔ Sets entries f :=
  ofEntries?_eq_some_iff fun _ _ => Toml.fits_of_parse h

theorem exists_sets_iff_of_parse (h : Toml.parse text = some entries) :
    (∃ f, Sets entries f) ↔ ∀ key item, entries.lookup key = some item → Suits key item :=
  exists_sets_iff fun _ _ => Toml.fits_of_parse h

theorem Contributes.fromFile_eq (h : Contributes file f log) : fromFile file = (f, log) := by
  cases h with
  | missing => rfl
  | @notText bytes h =>
    have hnone : Utf8.string? bytes = none :=
      Option.eq_none_iff_forall_ne_some.mpr fun text htext => h text (Utf8.string?_eq_some_iff.mp htext)
    rw [fromFile, Option.bind_some, hnone]
  | faulty h => exact fromFile_of_parse_eq_none (by rw [Toml.parse_eq, h, Option.bind_none])
  | conflicting hread h => exact fromFile_of_parse_eq_none (by rw [Toml.parse_eq, hread, Option.bind_some, h])
  | @unsuitable text entries key item hparse hitem h =>
    have hnone : FromFile.ofEntries? entries = none :=
      Option.eq_none_iff_forall_ne_some.mpr fun f hf =>
        h ((exists_sets_iff_of_parse hparse).mp ⟨f, (ofEntries?_eq_some_iff_of_parse hparse).mp hf⟩ key item hitem)
    rw [fromFile_ofString, hparse, Option.bind_some, hnone]
  | valid hparse hsets =>
    rw [fromFile_ofString, hparse, Option.bind_some, (ofEntries?_eq_some_iff_of_parse hparse).mpr hsets]

theorem contributes_of_parse (h : Toml.parse text = some entries) : ∃ f log,
    Contributes (some (Utf8.ofString text)) f log := by
  by_cases hsuits : ∀ key item, entries.lookup key = some item → Suits key item
  · obtain ⟨f, hsets⟩ := (exists_sets_iff_of_parse h).mpr hsuits
    exact ⟨f, [], .valid h hsets⟩
  · simp only [not_forall] at hsuits
    obtain ⟨key, item, hitem, hkind⟩ := hsuits
    exact ⟨{}, _, .unsuitable h hitem hkind⟩

/-- Every file gives something. -/
theorem exists_contributes (file : Option (List UInt8)) : ∃ f log, Contributes file f log := by
  cases file with
  | none => exact ⟨{}, [], .missing⟩
  | some bytes =>
    by_cases htext : ∃ text, bytes = Utf8.ofString text
    · obtain ⟨text, rfl⟩ := htext
      cases hread : Toml.statements? text with
      | none => exact ⟨{}, _, .faulty hread⟩
      | some statements =>
        cases hrun : Toml.Statement.runAll [] statements with
        | none => exact ⟨{}, _, .conflicting hread hrun⟩
        | some entries => exact contributes_of_parse (by rw [Toml.parse_eq, hread, Option.bind_some, hrun])
    · exact ⟨{}, [], .notText (not_exists.mp htext)⟩

theorem contributes_iff : Contributes file f log ↔ fromFile file = (f, log) := by
  refine ⟨Contributes.fromFile_eq, fun h => ?_⟩
  obtain ⟨f', log', h'⟩ := exists_contributes file
  cases h.symm.trans h'.fromFile_eq
  exact h'

end

/-! ### All sources -/

section
variable {α : Type} {default : α} {given : List (Option α)} {first second third : Option α}

theorem lastGiven_concat : lastGiven default (given ++ [first]) = first.getD (lastGiven default given) := by
  unfold lastGiven
  cases first <;> simp [List.reduceOption_append]

theorem lastGiven_two : lastGiven default [first, second] = second.getD (first.getD default) := by
  show lastGiven default (([] ++ [first]) ++ [second]) = _
  rw [lastGiven_concat, lastGiven_concat]
  rfl

theorem lastGiven_three : lastGiven default [first, second, third] = third.getD (second.getD (first.getD default)) := by
  show lastGiven default ([first, second] ++ [third]) = _
  rw [lastGiven_concat, lastGiven_two]

/-- The warning about a text that is there and cannot be read. -/
def warned (read : String → Option α) (warning : LogEntry) : Option String → List LogEntry
  | some text => if (read text).isNone then [warning] else []
  | none => []

theorem fromVariable_eq (read : String → Option α) (warning : LogEntry) (before : α) (text : Option String) :
    fromVariable read warning before text = ((text.bind read).getD before, warned read warning text) := by
  cases text with
  | none => rfl
  | some text =>
    unfold fromVariable warned
    dsimp only [Option.bind_some]
    cases read text <;> rfl

end

theorem applyEnvironment_eq (s : Settings) (env : Environment) : s.applyEnvironment env =
    ({ bindAddress := (env "APP__BIND_ADDR").getD ((env "CONSOLE_BIND").getD s.bindAddress)
       apiUrl := (env "APP__API_URL").getD ((env "CONSOLE_API_URL").getD s.apiUrl)
       displayUtc := ((env "APP__DISPLAY_UTC").bind word?).getD s.displayUtc
       requestTimeout := ((env "APP__REQUEST_TIMEOUT_MS").bind millis?).getD s.requestTimeout },
      warned word? .invalidDisplayUtc (env "APP__DISPLAY_UTC") ++
        warned millis? .invalidTimeout (env "APP__REQUEST_TIMEOUT_MS")) := by
  unfold applyEnvironment
  rw [fromVariable_eq, fromVariable_eq]
  rfl

theorem load_eq (file : Option (List UInt8)) (lookup : String → Option (List UInt8)) : load file lookup =
    let given := fromFile file
    let read := (default.withFile given.1).applyEnvironment fun name => (lookup name).bind Utf8.string?
    (read.1.normalize, given.2 ++ read.2) := by
  unfold load fromFile
  cases file.bind Utf8.string? with
  | none => rfl
  | some text =>
    dsimp only
    unfold applyFile
    cases (Toml.parse text).bind FromFile.ofEntries? <;> rfl

/-- The settings that are loaded: each is the last value given for it by the default, by the file, and by its variables
    in turn, and the address of the registry is then brought into the form that is used. A variable that is not text is
    as good as none, and one that cannot be read is reported and gives nothing. The file gives what it holds under the
    four keys, but nothing at all if it is not text, has a fault of syntax, defines a key twice or does not put a table
    together for another reason, or has an item of the wrong kind under one of the four keys; if it is text, that is
    reported. -/
theorem load_eq_last_given (file : Option (List UInt8)) (lookup : String → Option (List UInt8)) (env : Environment)
    (henv : ∀ name text, env name = some text ↔ lookup name = some (Utf8.ofString text)) :
    (∃ f log, Contributes file f log) ∧
      (∀ f log, Contributes file f log → load file lookup =
        ({ bindAddress := lastGiven default.bindAddress [f.bindAddress, env "CONSOLE_BIND", env "APP__BIND_ADDR"]
           apiUrl := normalizeUrl
            (lastGiven default.apiUrl [f.apiUrl, env "CONSOLE_API_URL", env "APP__API_URL"])
           displayUtc := lastGiven default.displayUtc [f.displayUtc, (env "APP__DISPLAY_UTC").bind word?]
           requestTimeout :=
            lastGiven default.requestTimeout [f.requestTimeout, (env "APP__REQUEST_TIMEOUT_MS").bind millis?] },
          log ++ (warned word? .invalidDisplayUtc (env "APP__DISPLAY_UTC") ++
            warned millis? .invalidTimeout (env "APP__REQUEST_TIMEOUT_MS")))) ∧
      (∀ text b, word? text = some b ↔ SaysTruth text b) ∧
      (∀ text n, millis? text = some n ↔ SaysNumber text n.toNat) ∧
      ∀ text statements, Toml.statements? text = some statements → Toml.Statement.DefinesTwice statements →
        Contributes (some (Utf8.ofString text)) {} [.unreadableFile] := by
  refine ⟨exists_contributes file, ?_, fun _ _ => word?_eq_some_iff, fun _ _ => millis?_eq_some_iff, ?_⟩
  · intro f log hfile
    -- A variable has the text that its bytes are, and none if they are not a text.
    have henv' : (fun name => (lookup name).bind Utf8.string?) = env := by
      funext name
      refine Option.ext fun text => ?_
      rw [henv, Option.bind_eq_some_iff]
      constructor
      · rintro ⟨bytes, hbytes, htext⟩
        rw [hbytes, Utf8.string?_eq_some_iff.mp htext]
      · exact fun h => ⟨_, h, Utf8.string?_eq_some_iff.mpr rfl⟩
    rw [load_eq, hfile.fromFile_eq, henv']
    dsimp only
    rw [applyEnvironment_eq]
    simp only [lastGiven_two, lastGiven_three]
    rfl
  · intro text statements hread htwice
    exact .conflicting hread (Toml.Statement.runAll_of_definesTwice htwice)

/-- A file that is read, beside variables of which two cannot be; and a file that defines a key twice. -/
theorem load_eq_last_given_of_file :
    let file := "display_utc = true\n\"api_url\" = ' host:1 ' # where\nrequest_timeout_ms = 7_50"
    let twice := "api_url = 'a'\nx.y = 1\n\"api_url\" = 'b'"
    let env : Environment := fun name =>
      if name = "CONSOLE_BIND" then some "[::1]:1"
      else if name = "APP__DISPLAY_UTC" then some "maybe"
      else if name = "APP__REQUEST_TIMEOUT_MS" then some " +18446744073709551615 "
      else none
    (∀ name text, env name = some text ↔ (env name).map Utf8.ofString = some (Utf8.ofString text)) ∧
      load (some (Utf8.ofString file)) (fun name => (env name).map Utf8.ofString) =
        (⟨"[::1]:1", "http://host:1", true, 18446744073709551615⟩, [.invalidDisplayUtc]) ∧
      Contributes (some (Utf8.ofString twice)) {} [.unreadableFile] := by
  intro file twice env
  have henv : ∀ name text, env name = some text ↔ (env name).map Utf8.ofString = some (Utf8.ofString text) := by
    intro name text
    rw [Option.map_eq_some_iff]
    constructor
    · exact fun h => ⟨text, h, rfl⟩
    · rintro ⟨other, hother, heq⟩
      rw [hother, Utf8.ofString_injective heq]
  obtain ⟨-, hload, -, -, htwice⟩ :=
    load_eq_last_given (some (Utf8.ofString file)) (fun name => (env name).map Utf8.ofString) env henv
  have hfile : Contributes (some (Utf8.ofString file)) ⟨none, some " host:1 ", some true, some 750⟩ [] :=
    contributes_iff.mpr (by decide +kernel)
  have hlines : (Toml.statements? twice).map (List.map fun s => (s.table, s.key, s.headerAfter)) =
      some [([], "api_url", []), (["x"], "y", []), ([], "api_url", [])] := by decide +kernel
  obtain ⟨statements, hread, hlines⟩ := Option.map_eq_some_iff.mp hlines
  obtain ⟨first, rest, rfl, hfirst, hlines⟩ := List.map_eq_cons_iff.mp hlines
  obtain ⟨between, rest, rfl, hbetween, hlines⟩ := List.map_eq_cons_iff.mp hlines
  obtain ⟨second, rest, rfl, hsecond, hlines⟩ := List.map_eq_cons_iff.mp hlines
  rw [Prod.mk.injEq, Prod.mk.injEq] at hfirst hbetween hsecond
  -- The first and the last statement give one key of the topmost table, and nothing between begins a new one.
  have hredefine : Toml.Statement.Redefine (first :: between :: second :: rest) := by
    have happend : ∀ s : Toml.Statement, s.headerAfter = [] → ∀ path key, s ≠ .append path key := by
      rintro s hheader path key rfl
      exact List.append_ne_nil_of_right_ne_nil path (List.cons_ne_nil key []) hheader
    refine ⟨[], first, [between], second, rest, rfl, happend first hfirst.2.2, ?_, hsecond.1.trans hfirst.1.symm,
      hsecond.2.1.trans hfirst.2.1.symm⟩
    rintro s hs ⟨path, key, heq, -⟩
    rw [List.mem_singleton.mp hs] at heq
    exact happend between hbetween.2.2 path key heq
  exact ⟨henv, (hload _ _ hfile).trans (by decide +kernel), htwice twice _ hread (.statements hredefine)⟩

end ClusterConsole.Settings
