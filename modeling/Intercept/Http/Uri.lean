/-!
# Request targets

The target of an HTTP request is a URI in one of three forms: absolute, with a scheme and an
authority; only an authority; or only a path with its query. A fragment is dropped. The reader
accepts what a server accepts, so it checks characters and brackets but splits no authority further.
-/

namespace Intercept

/-- The target of a request. -/
structure Uri where
  scheme : Option String := none
  /-- The host with its port, and with user information if there is some. -/
  authority : Option String := none
  /-- The path with its query. -/
  pathAndQuery : String := ""
deriving DecidableEq, Repr

namespace Uri

/-- The path: none in a URI that is only an authority, and otherwise not empty. -/
def path (u : Uri) : String :=
  if u.pathAndQuery = "" ∧ u.scheme = none then ""
  else
    let cs := u.pathAndQuery.toList.takeWhile (· ≠ '?')
    if cs.isEmpty then "/" else String.ofList cs

/-- The path with its query, which a request without scheme asks its host for. -/
def resource (u : Uri) : String :=
  if u.pathAndQuery = "" ∨ (u.scheme = none ∧ u.authority ≠ none) then "/" else u.pathAndQuery

/-! ### Reading -/

/-- The characters that end an authority. -/
def endsAuthority (c : Char) : Bool := c = '/' || c = '?' || c = '#'

/-- Characters of authorities, apart from the percent sign. -/
def isAuthorityChar (c : Char) : Bool := c.isAlphanum || "!$&'()*+,-.;=_~".toList.contains c

/-- What has been seen of an authority. The characters before an at sign are user information. -/
structure AuthorityScan where
  colons : Nat := 0
  isOpened : Bool := false
  isClosed : Bool := false
  hasPercent : Bool := false

/-- Look at the next character of an authority. -/
def AuthorityScan.next? (s : AuthorityScan) (c : Char) : Option AuthorityScan :=
  match c with
  | ':' => if s.colons < 8 then some { s with colons := s.colons + 1 } else none
  | '[' => if s.hasPercent || s.isOpened then none else some { s with isOpened := true }
  | ']' =>
    if s.isOpened && !s.isClosed then
      some { s with isClosed := true, colons := 0, hasPercent := false }
    else none
  | '@' => some { s with colons := 0, hasPercent := false }
  | '%' => some { s with hasPercent := true }
  | c => if isAuthorityChar c then some s else none

/-- Whether characters can be an authority, possibly an empty one: brackets come in one pair,
outside it and after the user information there is one colon at most and no percent sign, and
something follows the user information. -/
def isAuthority (cs : List Char) : Bool :=
  match cs.foldlM AuthorityScan.next? {} with
  | some s =>
    s.isOpened = s.isClosed && s.colons ≤ 1 && !s.hasPercent && cs.getLast? ≠ some '@'
  | none => false

/-- Visible ASCII characters. -/
def isVisible (c : Char) : Bool := '!' ≤ c && c ≤ '~'

/-- Characters of paths. -/
def isPathChar (c : Char) : Bool :=
  isVisible c && c ∉ ['#', '<', '>', '?', '\x60']

/-- Characters of queries. -/
def isQueryChar (c : Char) : Bool := isVisible c && c ∉ ['#', '<', '>', '"']

/-- A path with its query. -/
def pathAndQuery? (cs : List Char) : Option String :=
  let path := cs.takeWhile fun c => c ≠ '?' && c ≠ '#'
  let rest := cs.drop path.length
  let query := match rest with
    | '?' :: _ => rest.takeWhile (· ≠ '#')
    | _ => []
  if path.all isPathChar && (query.drop 1).all isQueryChar then some (String.ofList (path ++ query))
  else none

/-- Characters of schemes. -/
def isSchemeChar (c : Char) : Bool := c.isAlphanum || c = '+' || c = '-' || c = '.'

/-- Cut off a scheme with the mark that follows it, if there is one. -/
def cutScheme? (cs : List Char) : Option (List Char × List Char) :=
  let scheme := cs.takeWhile isSchemeChar
  match cs.drop scheme.length with
  | ':' :: '/' :: '/' :: rest => some (scheme, rest)
  | _ => none

/-- A scheme in its usual spelling. -/
def schemeText (cs : List Char) : String :=
  let lower := String.ofList (cs.map Char.toLower)
  if lower = "http" ∨ lower = "https" then lower else String.ofList cs

/-- A URI that does not begin with its path. One with a scheme has an authority that is not empty,
and one without is nothing else. -/
def withAuthority? (cs : List Char) : Option Uri :=
  match cutScheme? cs with
  | none =>
    if isAuthority cs then some { authority := some (String.ofList cs) } else none
  | some (scheme, rest) =>
    let authority := rest.takeWhile (!endsAuthority ·)
    if scheme.length ≤ 64 && isAuthority authority && !authority.isEmpty then
      (pathAndQuery? (rest.drop authority.length)).map fun target =>
        { scheme := some (schemeText scheme)
          authority := some (String.ofList authority)
          pathAndQuery := target }
    else none

/-- The longest URI in bytes. -/
def maxLength : Nat := 65534

/-- Read a URI. -/
def parse? (s : String) : Option Uri :=
  if maxLength < s.utf8ByteSize then none
  else
    match s.toList with
    | [] => none
    | ['*'] => some { pathAndQuery := "*" }
    | '/' :: cs => (pathAndQuery? ('/' :: cs)).map fun target => { pathAndQuery := target }
    | cs => withAuthority? cs

end Uri

end Intercept
