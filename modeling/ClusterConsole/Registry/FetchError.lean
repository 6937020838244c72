import ClusterConsole.Http.Exchange
import ClusterConsole.Json.Fault

/-! # Why the registry gave no answer -/

namespace ClusterConsole

/-- Why a text is not the address of a registry. -/
inductive BaseFault where
  | malformed (fault : UrlFault)
  | unsupportedScheme (scheme : String)
  /-- There is no path that a route could come after. -/
  | withoutPath
deriving DecidableEq, Repr

/-- The fault in words. -/
def BaseFault.message : BaseFault → String
  | .malformed fault => fault.message
  | .unsupportedScheme scheme => "unsupported scheme " ++ scheme
  | .withoutPath => "url cannot carry a path"

/-- Why the registry gave no answer. -/
inductive FetchError where
  | invalidBaseUrl (url : String) (fault : BaseFault)
  | transport (fault : Http.TransportFault)
  | status (code : Nat)
  | decode (refusal : Json.Refusal)
deriving DecidableEq, Repr

/-- The error in words. -/
def FetchError.message : FetchError → String
  | .invalidBaseUrl url fault => "invalid api url " ++ quoted url ++ ": " ++ fault.message
  | .transport fault => "transport failure: " ++ fault.message
  | .status code => "unexpected response status " ++ Http.statusText code
  | .decode refusal => "malformed response body: " ++ refusal.message

end ClusterConsole
