/-! # Log entries

What the console reports of its doing, beside its answers. -/

namespace ClusterConsole

/-- An entry of the log. -/
inductive LogEntry where
  | adminRequest
  | alreadyMounted
  | taskPanicked
  | fetchFailed
  | staleOutcome
  | updated
  | lookupFailed
  | unreadableFile
  | invalidDisplayUtc
  | invalidTimeout
deriving DecidableEq, Repr

namespace LogEntry

/-- How much an entry matters. -/
def level : LogEntry → String
  | .adminRequest | .alreadyMounted => "DEBUG"
  | .updated => "INFO"
  | .staleOutcome | .unreadableFile | .invalidDisplayUtc | .invalidTimeout => "WARN"
  | .taskPanicked | .fetchFailed | .lookupFailed => "ERROR"

/-- The entry in words. -/
def message : LogEntry → String
  | .adminRequest => "admin api request"
  | .alreadyMounted => "node list already mounted; skipping fetch"
  | .taskPanicked => "node list fetch task panicked"
  | .fetchFailed => "failed to fetch cluster nodes"
  | .staleOutcome => "dropping fetch outcome for a stale mount"
  | .updated => "node list updated"
  | .lookupFailed => "failed to look up node"
  | .unreadableFile => "ignoring unreadable config file"
  | .invalidDisplayUtc => "ignoring invalid APP__DISPLAY_UTC"
  | .invalidTimeout => "ignoring invalid APP__REQUEST_TIMEOUT_MS"

/-- The entry as a line. -/
def text (e : LogEntry) : String :=
  e.level ++ " " ++ e.message

end LogEntry

end ClusterConsole
