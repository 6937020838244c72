import ClusterConsole.Number.Decimal
import ClusterConsole.Settings.File
import ClusterConsole.Text.Utf8

/-! # Settings from the environment

Two variables set each address, of which the second counts more. A truth value and a number are read without
the blanks around them; one that cannot be read is reported and sets nothing. -/

namespace ClusterConsole.Settings

/-- The variables of an environment. -/
abbrev Environment := String → Option String

/-- The last of several variables that is there. -/
def lastOf (env : Environment) (names : List String) (value : String) : String :=
  names.foldl (fun value name => (env name).getD value) value

/-- A capital letter of ASCII in lower case. -/
def lowerCase (text : List Char) : List Char :=
  text.map Char.toLower

/-- The truth value of a word. -/
def word? (text : String) : Option Bool :=
  let word := String.ofList (lowerCase (Blank.trim text.toList))
  if word ∈ ["1", "true", "yes"] then some true
  else if word ∈ ["0", "false", "no"] then some false
  else none

/-- The number of milliseconds of a text. -/
def millis? (text : String) : Option UInt64 :=
  Decimal.word? (Blank.trim text.toList)

/-- A value read from a variable, if there is one and it can be read, and else the one before. -/
def fromVariable {α : Type} (read : String → Option α) (warning : LogEntry) (before : α) :
    Option String → α × List LogEntry
  | none => (before, [])
  | some text =>
    match read text with
    | some value => (value, [])
    | none => (before, [warning])

/-- The settings after the environment. -/
def applyEnvironment (s : Settings) (env : Environment) : Settings × List LogEntry :=
  let (displayUtc, log) := fromVariable word? .invalidDisplayUtc s.displayUtc (env "APP__DISPLAY_UTC")
  let (requestTimeout, more) :=
    fromVariable millis? .invalidTimeout s.requestTimeout (env "APP__REQUEST_TIMEOUT_MS")
  ({ bindAddress := lastOf env ["CONSOLE_BIND", "APP__BIND_ADDR"] s.bindAddress
     apiUrl := lastOf env ["CONSOLE_API_URL", "APP__API_URL"] s.apiUrl
     displayUtc, requestTimeout }, log ++ more)

/-- The settings of the console: the defaults, then the file if it is there and is text, then the
    environment. Variables that are not text are not there. -/
def load (file : Option (List UInt8)) (lookup : String → Option (List UInt8)) : Settings × List LogEntry :=
  let (s, log) := match file.bind Utf8.string? with
    | some text => default.applyFile text
    | none => (default, [])
  let (s, more) := s.applyEnvironment fun name => (lookup name).bind Utf8.string?
  (s.normalize, log ++ more)

end ClusterConsole.Settings
