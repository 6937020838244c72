import ClusterConsole.Listing.Options
import ClusterConsole.Registry.Directory
import ClusterConsole.Table.Html
import ClusterConsole.Table.Plain
import ClusterConsole.View.Run

/-! # The listing

Prints the table of the nodes of the cluster. When the registry does not answer, the table has no rows. -/

namespace ClusterConsole.Listing

/-- What a command leaves behind. -/
structure Result where
  code : Nat := 0
  output : String := ""
  failure : Option String := none
deriving DecidableEq, Repr

/-- What is said when help is asked for. -/
def help : String :=
  "Prints the cluster's nodes as reported by the registry admin API\n\n" ++
  "Usage: nodes [OPTIONS]\n\n" ++
  "Options:\n" ++
  "      --api-url <API_URL>        [default: http://127.0.0.1:8221]\n" ++
  "      --format <FORMAT>          [default: text] [possible values: text, html]\n" ++
  "      --utc                      Show creation times in UTC instead of the local timezone\n" ++
  "      --timeout-ms <TIMEOUT_MS>  [default: 5000]\n" ++
  "  -h, --help                     Print help\n"

/-- The code of a command that failed. -/
def failureCode : Nat := 1

/-- The code of a command line that is refused. -/
def usageCode : Nat := 2

/-- The code of a command that died. -/
def panicCode : Nat := 101

/-- The zone in which times are shown. -/
def Options.zone (o : Options) : DisplayZone :=
  if o.utc then .utc else .local

/-- The table in the format that is asked for; none when it cannot be written. -/
def Options.table? (o : Options) (nodes : List NodeRecord) : Option String :=
  match o.format with
  | .text => Plain.table? o.zone nodes
  | .html => some (Html.table o.zone nodes)

/-- Prints nodes, from what came of asking for them. -/
def print (o : Options) (answer : Answer (List NodeRecord)) : Result :=
  let w := View.World.visit fun _ => .ofAnswer answer
  match o.table? w.view.nodes with
  | some text => { output := text }
  | none => { code := panicCode }

/-- Lists the nodes. -/
def list {m : Type → Type} [Monad m] (network : RegistryClient → Http.Network m) (o : Options) : m Result :=
  match RegistryClient.ofUrl o.apiUrl o.timeout.toNat with
  | .error error => return { code := failureCode, failure := some ("Error: " ++ error.message ++ "\n") }
  | .ok client => return print o (← (Directory.ofClient client (network client)).nodes)

/-- Runs a command line. -/
def run {m : Type → Type} [Monad m] (network : RegistryClient → Http.Network m) (arguments : List String) : m Result :=
  match Invocation.parse arguments with
  | .error _ => return { code := usageCode }
  | .ok .help => return { output := help }
  | .ok (.list options) => list network options

end ClusterConsole.Listing
