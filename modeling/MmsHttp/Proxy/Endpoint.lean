import MmsHttp.Fault
import MmsHttp.Proxy
import MmsHttp.Text.Lowercase
import MmsHttp.Url.Authority

/-!
Where a proxy is found. A pool reads the host and the port back from the URL of its
proxy, by the plain rules of URLs: the authority ends at the first slash, question mark
or hash, user information ends at its last at sign, and a host in brackets has to be an
IPv6 address. A host that has such characters in it therefore does not come back as it
was given.
-/

namespace MmsHttp

open Text

/-- Where a proxy is found; a port that is not given is the usual one of the scheme. -/
structure Endpoint where
  scheme : String
  host : String
  port : Option Nat
  deriving DecidableEq, Repr

namespace Endpoint

def inScheme (c : Char) : Bool :=
  ('a' ≤ lowerAscii c && lowerAscii c ≤ 'z') || isAsciiDigit c || "+-.".toList.contains c

def splitScheme (cs : List Char) : List Char × List Char :=
  match cut (· == ':') cs with
  | (scheme, some rest) =>
    if scheme.head?.any (fun c => 'a' ≤ lowerAscii c && lowerAscii c ≤ 'z') &&
        scheme.all inScheme then
      (scheme.map lowerAscii, rest)
    else ([], cs)
  | (_, none) => ([], cs)

def authorityOf (cs : List Char) : List Char :=
  match cs with
  | '/' :: '/' :: rest => rest.takeWhile fun c => !(c == '/' || c == '?' || c == '#')
  | _ => []

def hostAndPort (authority : List Char) : List Char × List Char :=
  let (_, place) := cutLast (· == '@') authority
  if place.contains '[' then
    let (host, rest) := cut (· == ']') (Url.following '[' place)
    (host, Url.following ':' (rest.getD []))
  else
    let (host, port) := cut (· == ':') place
    (host, port.getD [])

/-- A host in small letters, apart from the zone of an address. -/
def lowerHost (host : List Char) : List Char :=
  let name := host.takeWhile (· != '%')
  name.map lowerAscii ++ host.drop name.length

def readPort (port : List Char) : Except Fault (Option Nat) :=
  if port.isEmpty then .ok none
  else if !port.all isAsciiDigit then
    .error
      (.badValue ("Port could not be cast to integer value as b" ++ quoted (String.ofList port)))
  else if decimalValue port ≤ 65535 then .ok (some (decimalValue port))
  else .error (.badValue "Port out of range 0-65535")

/-- Reads where a URL leads. Tabs and line ends in it do not count. -/
def ofUrl (url : String) : Except Fault Endpoint := do
  if url.toList.any fun c => 128 ≤ c.toNat then
    throw ⟨.outside "TypeError", "url strings may not include unicode characters."⟩
  let cs := (url.toList.dropWhile fun c => c.toNat ≤ 32).filter fun c =>
    !(c == '\t' || c == '\r' || c == '\n')
  let (scheme, rest) := splitScheme cs
  let authority := authorityOf rest
  match Url.bracketFault? authority with
  | some fault => throw fault
  | none =>
    let (host, port) := hostAndPort authority
    let port ← readPort port
    pure ⟨String.ofList scheme, String.ofList (lowerHost host), port⟩

/-- The port to dial. Zero stands for no port. -/
def dialledPort (endpoint : Endpoint) : Nat :=
  match endpoint.port with
  | none => 80
  | some port => if port == 0 then 80 else port

end Endpoint

/-- Where a proxy is found. A port with too many digits cannot be written into a URL. -/
def Proxy.endpoint (proxy : Proxy) : Except Fault Endpoint :=
  match Fault.unwritable? proxy.port with
  | some fault => .error fault
  | none => Endpoint.ofUrl proxy.url

end MmsHttp
