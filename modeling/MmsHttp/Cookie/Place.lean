import MmsHttp.Url.Reference

namespace MmsHttp.Cookie

open Text

/-- The place that a request goes to, as far as cookies tell places apart. -/
structure Place where
  host : List Char
  path : List Char
  scheme : List Char
  /-- The host and the port behind two slashes, if the address has these. -/
  authority : Option (List Char)

def inCookiePath (c : Char) : Bool :=
  Url.isUnreserved c || "%/;:@&=+$,!*'()".toList.contains c

def capitalEscapes : List Char → List Char
  | [] => []
  | '%' :: a :: b :: rest =>
    if (hexDigit? a).isSome && (hexDigit? b).isSome then
      '%' :: upperAscii a :: upperAscii b :: capitalEscapes rest
    else '%' :: capitalEscapes (a :: b :: rest)
  | c :: rest => c :: capitalEscapes rest

def comparablePath (path : List Char) : List Char :=
  capitalEscapes (path.flatMap fun c =>
    if inCookiePath c then [c] else (utf8Char c).flatMap Url.escapeByte)

/-- A host without a port after it, in small letters. -/
def withoutPort (host : List Char) : List Char :=
  let digits := host.reverse.takeWhile isAsciiDigit
  let bare :=
    if digits.isEmpty then host
    else
      match host.reverse.drop digits.length with
      | ':' :: rest => rest.reverse
      | _ => host
  lower bare

/-- An address without the mark that may introduce one. -/
def unwrapped (cs : List Char) : List Char :=
  if startsWith "URL:".toList cs then trim (cs.drop 4) else cs

/-- Splits the fragment off, the last one that there is. An empty one counts for nothing:
the address ends without it. -/
def splitFragment (cs : List Char) : List Char × List Char :=
  match cutLast (· == '#') cs with
  | (some front, []) => (front, front)
  | (some front, _) => (front, cs)
  | (none, _) => (cs, cs)

/-- The word in front of a colon, which says of what kind an address is, and what is behind
the colon. -/
def splitKind? (cs : List Char) : Option (List Char × List Char) :=
  let word := cs.takeWhile fun c => c != '/' && c != ':'
  match cs.drop word.length with
  | ':' :: rest => if word.isEmpty then none else some (word, rest)
  | _ => none

def authority? (cs : List Char) : Option (List Char) :=
  match cs with
  | '/' :: '/' :: rest => some (Url.unescape (rest.takeWhile (!Url.endsAuthority ·)))
  | _ => none

/-- The place that an address leads to. The address has to say of what kind it is, and its
authority is checked. -/
def placeOf (cs : List Char) : Except Fault Place :=
  let text := unwrapped cs
  let (front, whole) := splitFragment text
  match splitKind? front with
  | none => .error (.badValue ("unknown url type: " ++ quoted (String.ofList whole)))
  | some (kind, rest) =>
    let pieces := Url.Reference.split [] text
    match Url.authorityFault? pieces.authority with
    | some fault => .error fault
    | none =>
      let path := comparablePath pieces.path
      .ok
        { host := withoutPort pieces.authority
          path := if path.head? == some '/' then path else '/' :: path
          scheme := lower kind
          authority := authority? rest }

namespace Place

/-- The host by which cookies are kept. -/
def domain (place : Place) : List Char :=
  if place.host.contains '.' then place.host else place.host ++ ".local".toList

/-- The port that a place names, or the usual one if it names none; nothing if it is no
number. A place without an authority cannot be asked. -/
def port? (place : Place) : Except Fault (Option (List Char)) :=
  match place.authority with
  | none => .error ⟨.outside "AttributeError", "'NoneType' object has no attribute 'find'"⟩
  | some authority =>
    match cut (· == ':') authority with
    | (_, none) => .ok (some ['8', '0'])
    | (_, some port) => .ok (if (integer? port).isSome then some port else none)

/-- The port by which cookies are compared. -/
def port (place : Place) : Except Fault (List Char) :=
  place.port?.map fun port => port.getD ['8', '0']

end Place

end MmsHttp.Cookie
