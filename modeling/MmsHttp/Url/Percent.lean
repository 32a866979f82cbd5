import MmsHttp.Text.Bytes

/-!
Percent escapes. Each component of a URL has a class of characters that may stand in it
as they are; every other character is written as the escapes of its UTF-8 bytes.
Escapes that are there already are kept.
-/

namespace MmsHttp.Url

open Text

/-- Letters, digits and the four marks that never need an escape. -/
def isUnreserved (c : Char) : Bool :=
  ('a' ≤ c && c ≤ 'z') || ('A' ≤ c && c ≤ 'Z') || ('0' ≤ c && c ≤ '9') ||
    "-._~".toList.contains c

def isVisible (c : Char) : Bool :=
  ' ' ≤ c && c ≤ '~'

def inFragment (c : Char) : Bool :=
  isVisible c && !" \"<>`".toList.contains c

def inQuery (c : Char) : Bool :=
  isVisible c && !" \"#<>".toList.contains c

def inPath (c : Char) : Bool :=
  inQuery c && !"?`\x7b\x7d".toList.contains c

/-- Characters that may stand in user information, the colon included. -/
def inUserinfo (c : Char) : Bool :=
  inPath c && !"/;=@[\\]^|".toList.contains c

def inHost (c : Char) : Bool :=
  "!$&'()*+,;=\"`\x7b\x7d%|\\".toList.contains c

def escapeByte (b : UInt8) : List Char :=
  ['%', hexCapital (b.toNat / 16), hexCapital (b.toNat % 16)]

def escapeChar (safe : Char → Bool) (c : Char) : List Char :=
  if isUnreserved c || safe c then [c] else (utf8Char c).flatMap escapeByte

def escape (safe : Char → Bool) : List Char → List Char
  | [] => []
  | '%' :: a :: b :: rest =>
    if (hexDigit? a).isSome && (hexDigit? b).isSome then '%' :: a :: b :: escape safe rest
    else escapeChar safe '%' ++ escape safe (a :: b :: rest)
  | c :: rest => escapeChar safe c ++ escape safe rest

def unescapeBytes : List Char → Bytes
  | [] => []
  | '%' :: a :: b :: rest =>
    match hexDigit? a, hexDigit? b with
    | some x, some y => (x * 16 + y).toUInt8 :: unescapeBytes rest
    | _, _ => utf8Char '%' ++ unescapeBytes (a :: b :: rest)
  | c :: rest => utf8Char c ++ unescapeBytes rest

/-- The text of an escaped text; bytes that are no text become replacement characters. -/
def unescape (cs : List Char) : List Char :=
  fromUtf8Lossy (unescapeBytes cs)

end MmsHttp.Url
