import MmsHttp.Text.Blank
import MmsHttp.Text.CodeTable

namespace MmsHttp.Text

/-- Runs of decimal digits beyond ASCII; each run is a whole number of sets of ten,
zero first. -/
def digitRuns : CodeTable := .ofLines [
  "660-669 6F0-6F9 7C0-7C9 966-96F 9E6-9EF A66-A6F AE6-AEF B66-B6F BE6-BEF C66-C6F CE6-CEF",
  "D66-D6F DE6-DEF E50-E59 ED0-ED9 F20-F29 1040-1049 1090-1099 17E0-17E9 1810-1819 1946-194F",
  "19D0-19D9 1A80-1A89 1A90-1A99 1B50-1B59 1BB0-1BB9 1C40-1C49 1C50-1C59 A620-A629 A8D0-A8D9",
  "A900-A909 A9D0-A9D9 A9F0-A9F9 AA50-AA59 ABF0-ABF9 FF10-FF19 104A0-104A9 10D30-10D39",
  "11066-1106F 110F0-110F9 11136-1113F 111D0-111D9 112F0-112F9 11450-11459 114D0-114D9",
  "11650-11659 116C0-116C9 11730-11739 118E0-118E9 11950-11959 11C50-11C59 11D50-11D59",
  "11DA0-11DA9 16A60-16A69 16AC0-16AC9 16B50-16B59 1D7CE-1D7FF 1E140-1E149 1E2F0-1E2F9",
  "1E950-1E959 1FBF0-1FBF9"]

def digitValue? (c : Char) : Option Nat :=
  if c.toNat < 128 then
    if '0' ≤ c ∧ c ≤ '9' then some (c.toNat - 48) else none
  else (digitRuns.find? c.toNat).map fun run => (c.toNat - run.first) % 10

def isAsciiDigit (c : Char) : Bool :=
  '0' ≤ c && c ≤ '9'

/-- The number that a list of digit values writes, most significant first. -/
def ofDigits (ds : List Nat) : Nat :=
  ds.foldl (fun n d => n * 10 + d) 0

/-- The number that ASCII digits write; other characters count as zero. -/
def decimalValue (cs : List Char) : Nat :=
  ofDigits (cs.map fun c => c.toNat - 48)

/-- Digit values of a run of digits in which single underscores may stand between
two digits. -/
def groupedDigits (value? : Char → Option Nat) : List Char → Option (List Nat)
  | [] => none
  | [c] => (value? c).map ([·])
  | c :: '_' :: rest =>
    match value? c, groupedDigits value? rest with
    | some d, some ds => some (d :: ds)
    | _, _ => none
  | c :: rest =>
    match value? c, groupedDigits value? rest with
    | some d, some ds => some (d :: ds)
    | _, _ => none

def splitSign : List Char → Bool × List Char
  | '+' :: cs => (false, cs)
  | '-' :: cs => (true, cs)
  | cs => (false, cs)

/-- An integer with digits of any script, an optional sign and single underscores
between digits. -/
def readInteger (value? : Char → Option Nat) (cs : List Char) : Option Int :=
  let (negative, digits) := splitSign cs
  (groupedDigits value? digits).map fun ds =>
    if negative then -(ofDigits ds : Int) else ofDigits ds

/-- The most digits that a text may have to be read as a number. -/
def mostDigits : Nat := 4300

/-- The integer that a text writes, blanks around it aside. -/
def integer? (cs : List Char) : Option Int :=
  if mostDigits < (cs.filter fun c => (digitValue? c).isSome).length then none
  else readInteger digitValue? (trim cs)

end MmsHttp.Text
