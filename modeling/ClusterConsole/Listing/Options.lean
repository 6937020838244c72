import ClusterConsole.Number.Decimal

/-! # Options of the listing

What the command line of the listing may say. Each option may be given once. An option takes its value behind an equals
sign or as the next argument; a value in an argument of its own is looked at only when the next option comes or
the line ends. -/

namespace ClusterConsole.Listing

/-- How the table is written. -/
inductive Format where
  | text
  | html
deriving DecidableEq, Repr

namespace Format

/-- The formats. -/
def all : List Format := [.text, .html]

/-- The name of a format. -/
def name : Format → String
  | .text => "text"
  | .html => "html"

/-- The format of a name. -/
def ofName? (name : String) : Option Format :=
  all.find? (·.name == name)

end Format

/-- What is listed and how. -/
structure Options where
  apiUrl : String := "http://127.0.0.1:8221"
  format : Format := .text
  utc : Bool := false
  /-- In milliseconds. -/
  timeout : UInt64 := 5000
deriving DecidableEq, Repr

/-- The options that take a value. -/
inductive Valued where
  | apiUrl
  | format
  | timeout
deriving DecidableEq, Repr

namespace Valued

/-- The options that take a value. -/
def all : List Valued := [.apiUrl, .format, .timeout]

/-- The name of an option. -/
def name : Valued → String
  | .apiUrl => "api-url"
  | .format => "format"
  | .timeout => "timeout-ms"

/-- The option of a name. -/
def ofName? (name : String) : Option Valued :=
  all.find? (·.name == name)

end Valued

/-- The name of the option that asks for times in UTC. -/
def utcName : String := "utc"

/-- The name of the option that asks for help. -/
def helpName : String := "help"

/-- The letter that asks for help. -/
def helpLetter : Char := 'h'

/-- Why a command line is refused. -/
inductive UsageFault where
  | missingValue (option : Valued)
  | invalidFormat (value : String)
  | invalidTimeout (value : String)
  | repeated (option : String)
  /-- An option that takes no value has one. -/
  | unwantedValue (option value : String)
  | unknownArgument (argument : String)
deriving DecidableEq, Repr

/-- The fault in words. -/
def UsageFault.message : UsageFault → String
  | .missingValue option => "a value is required for '--" ++ option.name ++ "'"
  | .invalidFormat value => "invalid value '" ++ value ++ "' for '--format'"
  | .invalidTimeout value => "invalid value '" ++ value ++ "' for '--timeout-ms'"
  | .repeated option => "the argument '--" ++ option ++ "' cannot be used multiple times"
  | .unwantedValue option value => "unexpected value '" ++ value ++ "' for '--" ++ option ++ "'"
  | .unknownArgument argument => "unexpected argument '" ++ argument ++ "'"

/-- The options that a command line has given so far. -/
structure Given where
  apiUrl : Option String := none
  format : Option Format := none
  utc : Bool := false
  timeout : Option UInt64 := none
deriving DecidableEq, Repr

namespace Given

/-- The options, with the usual ones for those that were not given. -/
def options (g : Given) : Options where
  apiUrl := g.apiUrl.getD ({} : Options).apiUrl
  format := g.format.getD ({} : Options).format
  utc := g.utc
  timeout := g.timeout.getD ({} : Options).timeout

/-- Whether an option has been given. -/
def has (g : Given) : Valued → Bool
  | .apiUrl => g.apiUrl.isSome
  | .format => g.format.isSome
  | .timeout => g.timeout.isSome

/-- Gives an option its value. -/
def assign (g : Given) (option : Valued) (value : String) : Except UsageFault Given :=
  if g.has option then .error (.repeated option.name)
  else
    match option with
    | .apiUrl => .ok { g with apiUrl := some value }
    | .format =>
      match Format.ofName? value with
      | some format => .ok { g with format := some format }
      | none => .error (.invalidFormat value)
    | .timeout =>
      match Decimal.word? value.toList with
      | some timeout => .ok { g with timeout := some timeout }
      | none => .error (.invalidTimeout value)

/-- Asks for times in UTC. -/
def askUtc (g : Given) : Except UsageFault Given :=
  if g.utc then .error (.repeated utcName) else .ok { g with utc := true }

end Given

/-- What the command line has left open. -/
inductive Pending where
  | nothing
  /-- An option whose value is the next argument. -/
  | awaiting (option : Valued)
  /-- An option with its value, which has not been looked at. -/
  | held (option : Valued) (value : String)
deriving DecidableEq, Repr

/-- Settles what has been left open. -/
def Pending.resolve (p : Pending) (g : Given) : Except UsageFault Given :=
  match p with
  | .nothing => .ok g
  | .awaiting option => .error (.missingValue option)
  | .held option value => g.assign option value

/-- The form of an argument. -/
inductive Argument where
  /-- Two dashes: what follows are no options. -/
  | dashes
  | long (name : String) (value : Option String)
  | short (letter : Char)
  | plain (text : String)
deriving DecidableEq, Repr

/-- The form that an argument has. -/
def Argument.ofString (argument : String) : Argument :=
  match argument.toList with
  | ['-', '-'] => .dashes
  | '-' :: '-' :: text =>
    let name := String.ofList (text.takeWhile (· != '='))
    match text.dropWhile (· != '=') with
    | '=' :: value => .long name (some (String.ofList value))
    | _ => .long name none
  | '-' :: letter :: _ => .short letter
  | _ => .plain argument

/-- What a command line asks for. -/
inductive Invocation where
  | help
  | list (options : Options)
deriving DecidableEq, Repr

/-- Reads the arguments that remain. -/
def read (g : Given) (p : Pending) : List String → Except UsageFault Invocation
  | [] => do return .list (← p.resolve g).options
  | argument :: rest =>
    match Argument.ofString argument with
    | .dashes =>
      match rest with
      | [] => do return .list (← p.resolve g).options
      | stray :: _ => .error (.unknownArgument stray)
    | .long name value =>
      match Valued.ofName? name, value with
      | some option, none => do read (← p.resolve g) (.awaiting option) rest
      | some option, some value => do read (← (← p.resolve g).assign option value) .nothing rest
      | none, none =>
        if name = utcName then do read (← (← p.resolve g).askUtc) .nothing rest
        else if name = helpName then do
          let _ ← p.resolve g
          return .help
        else .error (.unknownArgument argument)
      | none, some value =>
        if name = utcName ∨ name = helpName then .error (.unwantedValue name value)
        else .error (.unknownArgument argument)
    | .short letter =>
      if letter = helpLetter then do
        let _ ← p.resolve g
        return .help
      else .error (.unknownArgument argument)
    | .plain text =>
      match p with
      | .awaiting option => read g (.held option text) rest
      | _ => .error (.unknownArgument argument)

/-- What a command line asks for. -/
def Invocation.parse (arguments : List String) : Except UsageFault Invocation :=
  read {} .nothing arguments

end ClusterConsole.Listing
