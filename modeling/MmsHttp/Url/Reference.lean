import MmsHttp.Url.Authority
import MmsHttp.Url.Basic

/-!
References: the textual pieces of an address, and the address that a relative one stands
for when it is read at another. Empty pieces count as missing here, so an address may
lose a mark that nothing follows.
-/

namespace MmsHttp.Url

open Text

/-- The textual pieces of an address. The parameters are what follows the semicolon in
the last segment of the path. -/
structure Reference where
  scheme : List Char
  authority : List Char
  path : List Char
  params : List Char
  query : List Char
  fragment : List Char

def relativeSchemes : List String :=
  ["", "ftp", "http", "gopher", "nntp", "imap", "wais", "file", "https", "shttp", "mms",
    "prospero", "rtsp", "rtsps", "rtspu", "sftp", "svn", "svn+ssh", "ws", "wss"]

def authoritySchemes : List String :=
  ["", "ftp", "http", "gopher", "nntp", "telnet", "imap", "wais", "file", "mms", "https",
    "shttp", "snews", "prospero", "rtsp", "rtsps", "rtspu", "rsync", "svn", "svn+ssh",
    "sftp", "nfs", "git", "git+ssh", "ws", "wss"]

def paramSchemes : List String :=
  ["", "ftp", "hdl", "prospero", "http", "imap", "https", "shttp", "rtsp", "rtsps", "rtspu",
    "sip", "sips", "mms", "sftp", "tel"]

namespace Reference

/-- Splits the parameters off a path: they begin at the first semicolon after the last
slash. -/
def splitParams (path : List Char) : List Char × List Char :=
  let (folder, last) := cutLast (· == '/') path
  let (segment, params) := cut (· == ';') last
  let start :=
    match folder with
    | none => segment
    | some folder => folder ++ '/' :: segment
  (start, params.getD [])

/-- Splits an address into its pieces, the parameters still in the path; one without a
scheme gets the given one. -/
def split (scheme : List Char) (cs : List Char) : Reference :=
  let (scheme, rest) :=
    match cut (· == ':') cs with
    | (_, none) => (scheme, cs)
    | (named, some rest) =>
      if !named.isEmpty && isScheme named then (named.map lowerAscii, rest) else (scheme, cs)
  let (authority, rest) := splitAuthority rest
  let (rest, fragment) := cut (· == '#') rest
  let (path, query) := cut (· == '?') rest
  { scheme, authority, path, params := [], query := query.getD [],
    fragment := fragment.getD [] }

def withParams (r : Reference) : Reference :=
  if paramSchemes.contains (String.ofList r.scheme) then
    let (path, params) := splitParams r.path
    { r with path, params }
  else r

/-- Reads an address; its authority is checked. -/
def read (scheme : List Char) (cs : List Char) : Except Fault Reference :=
  let r := split scheme cs
  match authorityFault? r.authority with
  | some fault => .error fault
  | none => .ok r.withParams

def join (r : Reference) : List Char :=
  let path := if r.params.isEmpty then r.path else r.path ++ ';' :: r.params
  let rooted := path.isEmpty || path.head? == some '/'
  let withAuthority :=
    if !r.authority.isEmpty ||
        (!r.scheme.isEmpty && authoritySchemes.contains (String.ofList r.scheme)) ||
        startsWith ['/', '/'] path then
      ['/', '/'] ++ r.authority ++ (if rooted then path else '/' :: path)
    else path
  (if r.scheme.isEmpty then [] else r.scheme ++ [':']) ++ withAuthority ++
    (if r.query.isEmpty then [] else '?' :: r.query) ++
    (if r.fragment.isEmpty then [] else '#' :: r.fragment)

/-- A path read at another one: the last segment gives way, segments that lead up take
one away, and inner empty segments vanish. -/
def mergePath (base path : List Char) : List Char :=
  let segments :=
    if path.head? == some '/' then splitBy (· == '/') path
    else
      let baseParts := splitBy (· == '/') base
      let folder := if baseParts.getLast? == some [] then baseParts else baseParts.dropLast
      let all := folder ++ splitBy (· == '/') path
      all.take 1 ++ (all.tail.dropLast).filter (!·.isEmpty) ++ all.tail.drop (all.length - 2)
  let step (done : List (List Char)) (segment : List Char) : List (List Char) :=
    if segment == ['.', '.'] then done.tail
    else if segment == ['.'] then done
    else segment :: done
  let resolved := (segments.foldl step []).reverse
  let last := segments.getLast?.getD []
  let resolved := if last == ['.'] || last == ['.', '.'] then resolved ++ [[]] else resolved
  let merged := joinWith ['/'] resolved
  if merged.isEmpty then ['/'] else merged

/-- The address that a reference with the pieces `r` stands for when it is read at one
with the pieces `base`; nothing if it stands for itself. -/
def at? (base r : Reference) : Option (List Char) :=
  let scheme := String.ofList r.scheme
  if r.scheme != base.scheme || !relativeSchemes.contains scheme then none
  else if authoritySchemes.contains scheme && !r.authority.isEmpty then some r.join
  else
    let authority := if authoritySchemes.contains scheme then base.authority else r.authority
    if r.path.isEmpty && r.params.isEmpty then
      let query := if r.query.isEmpty then base.query else r.query
      some { r with authority, path := base.path, params := base.params, query }.join
    else some { r with authority, path := mergePath base.path r.path }.join

/-- The address that `reference` stands for when it is read at `base`. -/
def resolve (base reference : List Char) : Except Fault (List Char) :=
  if base.isEmpty then .ok reference
  else if reference.isEmpty then .ok base
  else do
    let b ← read [] base
    let r ← read b.scheme reference
    pure ((at? b r).getD reference)

end Reference

/-- A URL or the fault of a text that is none. -/
def orFault (url : Except Error Url) : Except Fault Url :=
  match url with
  | .ok url => .ok url
  | .error e => .error e.fault

/-- The URL that another one stands for when it is read here. -/
def resolve (base url : Url) : Except Fault Url := do
  let text ← Reference.resolve base.text.toList url.text.toList
  orFault (parse (String.ofList text))

end MmsHttp.Url
