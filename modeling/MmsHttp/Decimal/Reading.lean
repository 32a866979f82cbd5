import MmsHttp.Decimal.Binary64
import MmsHttp.Text.Digit
import MmsHttp.Text.Lowercase
import MmsHttp.Text.Split

namespace MmsHttp.Binary64

open Text

/-- ASCII digits, with single underscores between them; nothing for no digits. -/
def readDigits (cs : List Char) : Option (List Nat) :=
  groupedDigits (fun c => if isAsciiDigit c then some (c.toNat - 48) else none) cs

def readOptionalDigits (cs : List Char) : Option (List Nat) :=
  if cs.isEmpty then some [] else readDigits cs

def readExponent (cs : List Char) : Option Int :=
  let (negative, digits) := splitSign cs
  (readDigits digits).map fun ds => if negative then -(ofDigits ds : Int) else ofDigits ds

def readMagnitude (negative : Bool) (cs : List Char) : Option Binary64 := do
  let (body, exponent) := cut (fun c => c == 'e' || c == 'E') cs
  let (whole, fraction) := cut (· == '.') body
  let power ← match exponent with
    | none => some 0
    | some e => readExponent e
  let wholeDigits ← readOptionalDigits whole
  let fractionDigits ← readOptionalDigits (fraction.getD [])
  if wholeDigits.isEmpty && fractionDigits.isEmpty then none
  else
    some (ofDecimal negative (ofDigits (wholeDigits ++ fractionDigits))
      (power - fractionDigits.length))

def read? (cs : List Char) : Option Binary64 :=
  let (negative, rest) := splitSign cs
  let word := String.ofList (rest.map lowerAscii)
  if word == "inf" || word == "infinity" then some (.infinite negative)
  else if word == "nan" then some .nan
  else readMagnitude negative rest

end MmsHttp.Binary64
