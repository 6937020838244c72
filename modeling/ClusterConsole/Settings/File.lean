import ClusterConsole.Settings.Basic
import ClusterConsole.Toml.Reader

/-! # Settings from a file

A file sets any of four keys and may hold whatever else. A file that cannot be read as a whole, or has a
value of the wrong kind under one of the keys, sets nothing. -/

namespace ClusterConsole.Settings

/-- What a file sets. -/
structure FromFile where
  bindAddress : Option String := none
  apiUrl : Option String := none
  displayUtc : Option Bool := none
  requestTimeout : Option UInt64 := none
deriving DecidableEq, Repr

/-- What stands under a key, if it is of the right kind; nothing if there is nothing. -/
def entry? {α : Type} (entries : Toml.Entries) (key : String) (value? : Toml.Item → Option α) : Option (Option α) :=
  match entries.lookup key with
  | none => some none
  | some item => (value? item).map some

/-- A text. -/
def text? : Toml.Item → Option String
  | .string s => some s
  | _ => none

/-- A truth value. -/
def truth? : Toml.Item → Option Bool
  | .boolean b => some b
  | _ => none

/-- A whole number that is not negative. -/
def natural? : Toml.Item → Option UInt64
  | .integer n => if 0 ≤ n then some (.ofNat n.toNat) else none
  | _ => none

/-- What a document sets. -/
def FromFile.ofEntries? (entries : Toml.Entries) : Option FromFile := do
  some {
    bindAddress := ← entry? entries "bind_addr" text?
    apiUrl := ← entry? entries "api_url" text?
    displayUtc := ← entry? entries "display_utc" truth?
    requestTimeout := ← entry? entries "request_timeout_ms" natural? }

/-- The settings after what a file sets. -/
def withFile (s : Settings) (f : FromFile) : Settings where
  bindAddress := f.bindAddress.getD s.bindAddress
  apiUrl := f.apiUrl.getD s.apiUrl
  displayUtc := f.displayUtc.getD s.displayUtc
  requestTimeout := f.requestTimeout.getD s.requestTimeout

/-- The settings after a file of the given text. -/
def applyFile (s : Settings) (text : String) : Settings × List LogEntry :=
  match (Toml.parse text).bind FromFile.ofEntries? with
  | some f => (s.withFile f, [])
  | none => (s, [.unreadableFile])

end ClusterConsole.Settings
