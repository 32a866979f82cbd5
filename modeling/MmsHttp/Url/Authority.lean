import MmsHttp.Fault
import MmsHttp.Text.Split
import MmsHttp.Url.Address

/-!
What the plain rules of URLs ask of an authority. A host in brackets has to be an IPv6
address or an address of the future, and no character may turn into one of the marks that
end an authority or divide it.
-/

namespace MmsHttp.Url

open Text

/-- What follows the first character that is the given one; nothing if there is none. -/
def following (mark : Char) (cs : List Char) : List Char :=
  ((cut (· == mark) cs).2).getD []

/-- Whether a host in brackets is an address of the future: a version and more. -/
def isFutureAddress (cs : List Char) : Bool :=
  match cs with
  | 'v' :: rest =>
    let version := rest.takeWhile fun c => (hexDigit? c).isSome
    match rest.drop version.length with
    | '.' :: address => !version.isEmpty && !address.isEmpty && !address.contains '\n'
    | _ => false
  | _ => false

def bracketFault? (authority : List Char) : Option Fault :=
  let opened := authority.contains '['
  let closed := authority.contains ']'
  if opened != closed then some (.badValue "Invalid IPv6 URL")
  else if !opened then none
  else
    let host := (following '[' authority).takeWhile (· != ']')
    if host.head? == some 'v' then
      if isFutureAddress host then none else some (.badValue "IPvFuture address is invalid")
    else if isIpv4 host then some (.badValue "An IPv4 address cannot be in brackets")
    else if isIpv6 host then none
    else
      some (.badValue
        (quoted (String.ofList host) ++ " does not appear to be an IPv4 or IPv6 address"))

/-- The characters beyond ASCII that NFKC turns into text with one of the marks `/?#@:`. -/
def lookalikes : List Nat :=
  [0x2047, 0x2048, 0x2049, 0x2100, 0x2101, 0x2105, 0x2106, 0x2A74, 0xFE13, 0xFE16, 0xFE55,
    0xFE56, 0xFE5F, 0xFE6B, 0xFF03, 0xFF0F, 0xFF1A, 0xFF1F, 0xFF20]

def lookalikeFault? (authority : List Char) : Option Fault :=
  if authority.any fun c => lookalikes.contains c.toNat then
    some (.badValue ("netloc '" ++ String.ofList authority ++
      "' contains invalid characters under NFKC normalization"))
  else none

/-- The fault of an authority that cannot be taken apart. -/
def authorityFault? (authority : List Char) : Option Fault :=
  bracketFault? authority <|> lookalikeFault? authority

end MmsHttp.Url
