import MmsHttp.Text.Digit
import MmsHttp.Text.Hex
import MmsHttp.Text.Split

/-!
Addresses in numbers. A dotted quad has four numbers up to 255 without leading zeros; an
IPv6 address has eight groups of up to four hexadecimal digits, one run of which may be
left out, and may end in a dotted quad and in a zone.
-/

namespace MmsHttp.Url

open Text

def isOctet (cs : List Char) : Bool :=
  !cs.isEmpty && cs.all isAsciiDigit && cs.length ≤ 3 &&
    (cs == ['0'] || cs.head? != some '0') && decimalValue cs ≤ 255

def isIpv4 (cs : List Char) : Bool :=
  let parts := splitBy (· == '.') cs
  parts.length == 4 && parts.all isOctet

def isGroup (cs : List Char) : Bool :=
  !cs.isEmpty && cs.length ≤ 4 && cs.all fun c => (hexDigit? c).isSome

/-- The groups of an address whose last one may be a dotted quad, which stands for two
groups; nothing if the quad is wrong. -/
def withoutQuad (parts : List (List Char)) : Option (List (List Char)) :=
  match parts.getLast? with
  | none => some parts
  | some last =>
    if last.contains '.' then
      if isIpv4 last then some (parts.dropLast ++ [['0'], ['0']]) else none
    else some parts

/-- The groups before and after the place where groups are left out. -/
def skipPlace (parts : List (List Char)) : Option (List (List Char) × List (List Char)) :=
  let inner := parts.tail.dropLast
  let before := inner.takeWhile (!·.isEmpty)
  if before.length == inner.length then none
  else some (parts.take (before.length + 1), parts.drop (before.length + 2))

/-- The groups on one side of the place where groups are left out. An empty group at the
outer end is allowed only next to that place, where it counts for nothing. -/
def sideGroups (outerEmpty : Bool) (groups : List (List Char)) : Option (List (List Char)) :=
  if outerEmpty then if groups.length == 1 then some [] else none else some groups

def isGroups (parts : List (List Char)) : Bool :=
  if parts.length > 9 then false
  else
    match skipPlace parts with
    | none => parts.length == 8 && parts.all isGroup
    | some (before, after) =>
      match sideGroups (before.head? == some []) before,
          sideGroups (after.getLast? == some []) after with
      | some before, some after =>
        before.length + after.length ≤ 7 && before.all isGroup && after.all isGroup
      | _, _ => false

/-- Whether a text is an IPv6 address, perhaps with a zone after a percent sign. -/
def isIpv6 (cs : List Char) : Bool :=
  let (address, zone) := cut (· == '%') cs
  let zoneFits :=
    match zone with
    | none => true
    | some zone => !zone.isEmpty && !zone.contains '%'
  if !zoneFits || address.contains '/' || cs.contains '/' then false
  else
    let parts := splitBy (· == ':') address
    if parts.length < 3 then false
    else
      match withoutQuad parts with
      | none => false
      | some parts => isGroups parts

/-- How far a name looks like four numbers with a character between any two: even
places wait for a number, odd ones are in it. -/
def quadStep (c : Char) (place : Nat) : List Nat :=
  if place % 2 == 0 then if isAsciiDigit c then [place + 1] else []
  else (if isAsciiDigit c then [place] else []) ++ (if place < 7 then [place + 1] else [])

/-- Whether a name looks like four numbers with any characters between them. -/
def looksLikeQuad (cs : List Char) : Bool :=
  let reached := cs.foldl (fun places c => ((places.flatMap (quadStep c)).eraseDups)) [0]
  reached.contains 7

end MmsHttp.Url
