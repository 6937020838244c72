import ClusterConsole.Url.Parser

/-! # Relative addresses

An answer may name another address relative to the one that was asked. What the relative one leaves out at
its front is taken from the base. -/

namespace ClusterConsole.Url

/-- The query and fragment at the end of an address. -/
def withEnd (u : Url) (text : List Char) : Url :=
  { u with
    query := queryOf (text.takeWhile (· != '#'))
    fragment := fragmentOf (text.dropWhile (· != '#')) }

/-- The address that a text without scheme denotes relative to `base`. -/
def relative (base : Url) (text : List Char) : Except UrlFault Url :=
  let path := text.takeWhile fun c => c != '?' && c != '#'
  let rest := text.dropWhile fun c => c != '?' && c != '#'
  match path with
  | [] =>
    match rest with
    | '?' :: _ => .ok (base.withEnd rest)
    | _ => .ok { base with fragment := fragmentOf rest }
  | a :: b :: more =>
    if isSlash true a && isSlash true b then ofAuthority base.scheme ((more ++ rest).dropWhile (isSlash true))
    else if isSlash true a then .ok ({ base with path := pathOf path }.withEnd rest)
    else .ok ({ base with path := merged path }.withEnd rest)
  | [a] =>
    if isSlash true a then .ok ({ base with path := pathOf path }.withEnd rest)
    else .ok ({ base with path := merged path }.withEnd rest)
where
  merged (path : List Char) : Path :=
    Path.steps base.path.dropLast ((splitSlashes path).map (Percent.encode Percent.inPath))

/-- The address that a text denotes relative to `base`. -/
def resolve (base : Url) (text : List Char) : Except UrlFault Reference :=
  let text := prepare text
  match splitScheme? text with
  | none => (relative base text).map .web
  | some (scheme, rest) =>
    if scheme = base.scheme.text ∧ (rest.takeWhile (isSlash true)).length < 2 then
      (relative base rest).map .web
    else
      match webScheme? scheme with
      | some web => (ofAuthority web (rest.dropWhile (isSlash true))).map .web
      | none => (checkOther scheme rest).map fun () => .other (String.ofList scheme)

end ClusterConsole.Url
