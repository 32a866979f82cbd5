import MmsHttp.Fault
import MmsHttp.Idna.Name
import MmsHttp.Text.Blank
import MmsHttp.Url.Address
import MmsHttp.Url.Percent

/-!
URLs in normal form: the scheme in small letters, the host as it goes on the wire, a
default port left out, dot segments removed and everything else escaped where it has to
be. Reading the text of a URL gives the same URL again.
-/

namespace MmsHttp

/-- A URL, absolute or relative. Parts that may be there but empty are optional. -/
structure Url where
  scheme : String
  userinfo : String
  host : String
  port : Option Int
  path : String
  query : Option String
  fragment : Option String
  deriving DecidableEq, Repr

namespace Url

open Text

/-- Why a text is not a URL. -/
inductive Error where
  | tooLong
  | componentTooLong (component : String)
  | control (c : Char) (place : Nat)
  | componentControl (component : String) (c : Char) (place : Nat)
  | badComponent (component : String)
  | badPort (text : String)
  | badIpv4 (host : String)
  | badIpv6 (host : String)
  | badName (host : String)
  | pathNotRooted
  | pathLikeAuthority
  | pathLikeScheme
  deriving DecidableEq, Repr

def Error.text : Error → String
  | .tooLong => "URL too long"
  | .componentTooLong component => "URL component '" ++ component ++ "' too long"
  | .control c place =>
    "Invalid non-printable ASCII character in URL, " ++ quoted (String.ofList [c]) ++
      s!" at position {place}."
  | .componentControl component c place =>
    "Invalid non-printable ASCII character in URL " ++ component ++ " component, " ++
      quoted (String.ofList [c]) ++ s!" at position {place}."
  | .badComponent component => "Invalid URL component '" ++ component ++ "'"
  | .badPort text => "Invalid port: " ++ quoted text
  | .badIpv4 host => "Invalid IPv4 address: " ++ quoted host
  | .badIpv6 host => "Invalid IPv6 address: " ++ quoted host
  | .badName host => "Invalid IDNA hostname: " ++ quoted host
  | .pathNotRooted => "For absolute URLs, path must be empty or begin with '/'"
  | .pathLikeAuthority => "Relative URLs cannot have a path starting with '//'"
  | .pathLikeScheme => "Relative URLs cannot have a path starting with ':'"

def Error.fault (e : Error) : Fault :=
  ⟨.invalidUrl, e.text⟩

def maxLength : Nat := 65536

def supportedSchemes : List String := ["http", "https"]

/-- The parts of a URL as they are written, before they are checked. -/
structure Parts where
  scheme : List Char
  userinfo : List Char
  host : List Char
  port : List Char
  path : List Char
  query : Option (List Char)
  fragment : Option (List Char)

def isLetter (c : Char) : Bool :=
  ('a' ≤ c && c ≤ 'z') || ('A' ≤ c && c ≤ 'Z')

/-- Whether a character may stand in a scheme after its first letter. -/
def inScheme (c : Char) : Bool :=
  isLetter c || isAsciiDigit c || "+.-".toList.contains c

def isScheme (cs : List Char) : Bool :=
  match cs with
  | [] => true
  | c :: rest => isLetter c && rest.all inScheme

/-- Splits the scheme off. A text may begin with a colon and so name an empty scheme. -/
def splitScheme (cs : List Char) : List Char × List Char :=
  match cut (!inScheme ·) cs with
  | (_, none) => ([], cs)
  | (scheme, some rest) =>
    if cs[scheme.length]? == some ':' && isScheme scheme then (scheme, rest) else ([], cs)

def endsAuthority (c : Char) : Bool :=
  c == '/' || c == '?' || c == '#'

def splitAuthority (cs : List Char) : List Char × List Char :=
  match cs with
  | '/' :: '/' :: rest => (rest.takeWhile (!endsAuthority ·), rest.dropWhile (!endsAuthority ·))
  | _ => ([], cs)

/-- Divides an authority into user information, host and the text of the port. The user
information goes up to the last at sign; a host in brackets up to the last bracket. -/
def divideAuthority (cs : List Char) : List Char × List Char × List Char :=
  let (userinfo, rest) := cutLast (· == '@') cs
  let userinfo := userinfo.getD []
  let withoutColon (port : List Char) : List Char :=
    match port with
    | ':' :: port => port
    | port => port
  match rest.head?, cutLast (· == ']') rest with
  | some '[', (some inside, port) => (userinfo, inside ++ [']'], withoutColon port)
  | _, _ =>
    let host := rest.takeWhile (· != ':')
    (userinfo, host, withoutColon (rest.drop host.length))

/-- Divides a text into the parts of a URL. Every text divides; whether the parts can be
used is seen later. -/
def divide (cs : List Char) : Parts :=
  let (scheme, rest) := splitScheme cs
  let (authority, rest) := splitAuthority rest
  let (userinfo, host, port) := divideAuthority authority
  let (rest, fragment) := cut (· == '#') rest
  let (path, query) := cut (· == '?') rest
  { scheme, userinfo, host, port, path, query, fragment }

/-- The first control character of a text and its place. -/
def control? (cs : List Char) : Option (Char × Nat) :=
  let isControl (c : Char) : Bool := isAscii c && !isVisible c
  match cs.dropWhile (!isControl ·) with
  | [] => none
  | c :: _ => some (c, (cs.takeWhile (!isControl ·)).length)

/-- The host as it goes on the wire, an IPv6 address without its brackets. -/
def wireHost (host : List Char) : Except Error (List Char) :=
  if host.isEmpty then .ok []
  else if looksLikeQuad host then
    if isIpv4 host then .ok host else .error (.badIpv4 (String.ofList host))
  else if host.head? == some '[' && host.getLast? == some ']' && 2 ≤ host.length then
    let inside := host.tail.dropLast
    if isIpv6 inside then .ok inside else .error (.badIpv6 (String.ofList host))
  else if host.all isAscii then .ok (escape inHost (host.map lowerAscii))
  else
    match Idna.encodeName (lower host) with
    | .ok name => .ok name
    | .error _ => .error (.badName (String.ofList host))

def schemePort? (scheme : String) : Option Int :=
  if scheme == "http" || scheme == "ws" then some 80
  else if scheme == "https" || scheme == "wss" then some 443
  else if scheme == "ftp" then some 21
  else none

/-- The number of a port; nothing for no text or for the one that the scheme stands for
anyway. -/
def readPort (port : List Char) (scheme : String) : Except Error (Option Int) :=
  if port.isEmpty then .ok none
  else
    match integer? port with
    | none => .error (.badPort (String.ofList port))
    | some n => .ok (if schemePort? scheme == some n then none else some n)

def checkPath (path : List Char) (hasScheme hasAuthority : Bool) : Except Error Unit :=
  if hasAuthority && !path.isEmpty && path.head? != some '/' then .error .pathNotRooted
  else if !hasScheme && !hasAuthority && startsWith ['/', '/'] path then
    .error .pathLikeAuthority
  else if !hasScheme && !hasAuthority && path.head? == some ':' then .error .pathLikeScheme
  else .ok ()

/-- Resolves one segment of a path; the segments before it come last first. A segment
that leads up takes one away, but never the empty one that stands for the root. -/
def resolveSegment (done : List (List Char)) (segment : List Char) : List (List Char) :=
  if segment == ['.'] then done
  else if segment == ['.', '.'] then if done == [[]] then done else done.tail
  else segment :: done

/-- A path without dot segments. -/
def resolvePath (path : List Char) : List Char :=
  let segments := splitBy (· == '/') path
  if segments.contains ['.'] || segments.contains ['.', '.'] then
    joinWith ['/'] (segments.foldl resolveSegment []).reverse
  else path

def ofParts (parts : Parts) : Except Error Url := do
  let scheme := String.ofList (parts.scheme.map lowerAscii)
  let userinfo := escape inUserinfo parts.userinfo
  let host ← wireHost parts.host
  let port ← readPort parts.port (String.ofList parts.scheme)
  let hasScheme := scheme != ""
  let hasAuthority := !userinfo.isEmpty || !host.isEmpty || port.isSome
  checkPath parts.path hasScheme hasAuthority
  let path := if hasScheme || hasAuthority then resolvePath parts.path else parts.path
  pure
    { scheme
      userinfo := String.ofList userinfo
      host := String.ofList host
      port
      path := String.ofList (escape inPath path)
      query := parts.query.map fun query => String.ofList (escape inQuery query)
      fragment := parts.fragment.map fun fragment => String.ofList (escape inFragment fragment) }

def parse (text : String) : Except Error Url :=
  let cs := text.toList
  if maxLength < cs.length then .error .tooLong
  else
    match control? cs with
    | some (c, place) => .error (.control c place)
    | none => ofParts (divide cs)

def hostAndPort (url : Url) : String :=
  let host := if url.host.toList.contains ':' then "[" ++ url.host ++ "]" else url.host
  match url.port with
  | none => host
  | some port => s!"{host}:{port}"

def authority (url : Url) : String :=
  if url.userinfo == "" then url.hostAndPort else url.userinfo ++ "@" ++ url.hostAndPort

def text (url : Url) : String :=
  let optional (mark : String) : Option String → String
    | none => ""
    | some s => mark ++ s
  (if url.scheme == "" then "" else url.scheme ++ ":") ++
    (if url.authority == "" then "" else "//" ++ url.authority) ++ url.path ++
    optional "?" url.query ++ optional "#" url.fragment

/-- The path and the query, which a request names; never empty. -/
def target (url : Url) : String :=
  (if url.path == "" then "/" else url.path) ++
    match url.query with
    | none => ""
    | some query => "?" ++ query

/-- Whether a URL says by itself where it leads. -/
def isAbsolute (url : Url) : Bool :=
  url.scheme != "" && url.host != ""

/-- The fault that a host name below the wire form raises. -/
def labelFault : Idna.LabelError → Fault
  | .general text => ⟨.outside "IDNAError", text⟩
  | .direction text => ⟨.outside "IDNABidiError", text⟩
  | .character text => ⟨.outside "InvalidCodepoint", text⟩
  | .context text => ⟨.outside "InvalidCodepointContext", text⟩

/-- The host in the form that people read. Only a name whose first label is encoded is
decoded; that fails if any label is not as it has to be. -/
def readableHost (url : Url) : Except Fault String :=
  if startsWith Idna.encodedPrefix url.host.toList then
    match Idna.decodeName url.host.toList with
    | .ok codes => .ok (String.ofList (codes.map Char.ofNat))
    | .error e => .error (labelFault e)
  else .ok url.host

def effectivePort (url : Url) : Option Int :=
  match url.port with
  | some port => some port
  | none =>
    if url.scheme == "http" then some 80 else if url.scheme == "https" then some 443 else none

def credentials (url : Url) : String × String :=
  let (user, password) := cut (· == ':') url.userinfo.toList
  (String.ofList (unescape user), String.ofList (unescape (password.getD [])))

/-- The fragment without escapes; empty if there is none. -/
def plainFragment (url : Url) : String :=
  String.ofList (unescape (url.fragment.getD "").toList)

/-- The first component that is too long or has a control character. -/
def checkComponents : List (String × List Char) → Except Error Unit
  | [] => .ok ()
  | (name, cs) :: rest =>
    if maxLength < cs.length then .error (.componentTooLong name)
    else
      match control? cs with
      | some (c, place) => .error (.componentControl name c place)
      | none => checkComponents rest

/-- The components of a URL that are checked anew when one of them is replaced. -/
def components (url : Url) : List (String × List Char) :=
  [("scheme", url.scheme.toList), ("authority", url.authority.toList), ("path", url.path.toList)] ++
    (url.query.map fun query => ("query", query.toList)).toList

def parts (url : Url) : Parts :=
  let (userinfo, host, port) := divideAuthority url.authority.toList
  { scheme := url.scheme.toList
    userinfo, host, port
    path := url.path.toList
    query := url.query.map (·.toList)
    fragment := url.fragment.map (·.toList) }

/-- The URL with another host, given in the form that people read. -/
def withHost (url : Url) (host : String) : Except Error Url := do
  let cs := host.toList
  let bracketed := cs.head? == some '[' && cs.getLast? == some ']'
  let host := if cs.contains ':' && !bracketed then '[' :: cs ++ [']'] else cs
  checkComponents (url.components ++
    (url.fragment.map fun fragment => ("fragment", fragment.toList)).toList ++ [("host", host)])
  ofParts { url.parts with host }

def withFragment (url : Url) (fragment : String) : Except Error Url := do
  checkComponents (url.components ++ [("fragment", fragment.toList)])
  ofParts { url.parts with fragment := some fragment.toList }

end Url

end MmsHttp
