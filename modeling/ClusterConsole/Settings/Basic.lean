import ClusterConsole.Log
import ClusterConsole.Text.Blank
import ClusterConsole.Time.Display

/-! # Settings

Where the console listens, where the registry is, and how it shows times and waits for answers. -/

namespace ClusterConsole

/-- The settings of the console. -/
structure Settings where
  bindAddress : String := "127.0.0.1:8220"
  apiUrl : String := "http://127.0.0.1:8221"
  displayUtc : Bool := false
  /-- In milliseconds. -/
  requestTimeout : UInt64 := 5000
deriving DecidableEq, Repr

namespace Settings

/-- The settings when nothing is said. -/
def default : Settings := {}

/-- The zone in which times are shown. -/
def zone (s : Settings) : DisplayZone :=
  if s.displayUtc then .utc else .local

/-- How long a request may take, in milliseconds: never no time at all. -/
def timeout (s : Settings) : UInt64 :=
  max s.requestTimeout 1

/-- Whether `part` stands somewhere in `text`. -/
def occursIn (part : List Char) : List Char → Bool
  | [] => part.isEmpty
  | c :: rest => part.isPrefixOf (c :: rest) || occursIn part rest

/-- The address of the registry in the form that is used: without blanks around it, and with a scheme. An
    empty one is the default. -/
def normalizeUrl (url : String) : String :=
  let text := Blank.trim url.toList
  if text = [] then default.apiUrl
  else if occursIn [':', '/', '/'] text then String.ofList text
  else "http://" ++ String.ofList text

/-- The settings with the address of the registry in the form that is used. -/
def normalize (s : Settings) : Settings :=
  { s with apiUrl := normalizeUrl s.apiUrl }

end Settings

end ClusterConsole
