import MmsHttp.Headers
import MmsHttp.Text.Split

namespace MmsHttp.Wire

open Text

def ascii (s : String) : Bytes :=
  utf8 s.toList

def lowerByte (b : UInt8) : UInt8 :=
  if 65 ≤ b && b ≤ 90 then b + 32 else b

def lowerBytes (bytes : Bytes) : Bytes :=
  bytes.map lowerByte

def isDigit (b : UInt8) : Bool :=
  48 ≤ b && b ≤ 57

def isGap (b : UInt8) : Bool :=
  b == 32 || b == 9

/-- A byte that moves the cursor, or a space. -/
def isWhite (b : UInt8) : Bool :=
  b == 32 || (9 ≤ b && b ≤ 13)

def strip (p : UInt8 → Bool) (bytes : Bytes) : Bytes :=
  ((bytes.dropWhile p).reverse.dropWhile p).reverse

def inToken (b : UInt8) : Bool :=
  isDigit b || (65 ≤ b && b ≤ 90) || (97 ≤ b && b ≤ 122) ||
    (ascii "!#$%&'*+-.^_`|~").contains b

def isToken (bytes : Bytes) : Bool :=
  !bytes.isEmpty && bytes.all inToken

/-- A byte that the value of a field may have at its ends. -/
def isVisible (b : UInt8) : Bool :=
  b != 0 && !isWhite b

/-- Whether bytes are the value of a field: nothing, or visible bytes with spaces and tabs
inside. -/
def isFieldValue (bytes : Bytes) : Bool :=
  bytes.all (fun b => isVisible b || isGap b) &&
    !(bytes.head?.any isGap) && !(bytes.getLast?.any isGap)

def contentLength : Bytes := ascii "content-length"

def transferEncoding : Bytes := ascii "transfer-encoding"

def chunked : Bytes := ascii "chunked"

def maxLengthDigits : Nat := 20

/-- The length that a value gives, in digits. It may be given more than once. -/
def oneLength? (value : Bytes) : Option Bytes :=
  match (splitBy (· == 44) value).map (strip isWhite) with
  | [] => none
  | digits :: others =>
    if others.all (· == digits) && !digits.isEmpty && digits.all isDigit &&
        digits.length ≤ maxLengthDigits then
      some digits
    else none

/-- The fields in the form in which they are kept: one length, of which repeats are left
out, and at most one transfer encoding, which has to be `chunked`. Nothing for fields
that break these rules. -/
def normalise : (length : Option Bytes) → (coded : Bool) → List Headers.Raw →
    Option (List Headers.Raw)
  | _, _, [] => some []
  | length, coded, (name, value) :: rest =>
    if lowerBytes name == contentLength then
      match oneLength? value, length with
      | none, _ => none
      | some digits, none => (normalise (some digits) coded rest).map ((name, digits) :: ·)
      | some digits, some earlier =>
        if earlier == digits then normalise length coded rest else none
    else if lowerBytes name == transferEncoding then
      if coded || lowerBytes value != chunked then none
      else (normalise length true rest).map ((name, chunked) :: ·)
    else (normalise length coded rest).map ((name, value) :: ·)

/-- The elements of the lists that the fields of a name hold, in small letters. -/
def listed (fields : List Headers.Raw) (name : Bytes) : List Bytes :=
  fields.flatMap fun (found, value) =>
    if lowerBytes found == name then
      ((splitBy (· == 44) (lowerBytes value)).map (strip isWhite)).filter (!·.isEmpty)
    else []

def asksToClose (fields : List Headers.Raw) : Bool :=
  (listed fields (ascii "connection")).contains (ascii "close")

inductive Framing where
  | counted (length : Nat)
  | chunked
  | untilClosed
  deriving DecidableEq, Repr

def number (digits : Bytes) : Nat :=
  digits.foldl (fun n b => n * 10 + (b.toNat - 48)) 0

/-- The framing that normal fields give, if they give one. -/
def framing? (fields : List Headers.Raw) : Option Framing :=
  if !(listed fields transferEncoding).isEmpty then some .chunked
  else (listed fields contentLength).head?.map fun digits => .counted (number digits)

end MmsHttp.Wire
