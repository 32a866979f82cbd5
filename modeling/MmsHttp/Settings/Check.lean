import MmsHttp.Decimal.Reading
import MmsHttp.Json.Value
import MmsHttp.Text.Blank

/-!
Checks of the values that settings are given. A value is text, as every variable of the
environment is, or comes from a caller with a type of its own. A check gives the value or
says by a word what is wrong with it.
-/

namespace MmsHttp.Settings

open Text

/-- What is wrong with a value, and where: the name of the setting and, within a table, the
name of the entry. -/
structure Problem where
  place : List String
  word : String
  deriving DecidableEq, Repr

abbrev Checked (α : Type) := Except String α

def isPadding (c : Char) : Bool :=
  isBlank c && !(28 ≤ c.toNat && c.toNat ≤ 31)

def unpadded (cs : List Char) : List Char :=
  ((cs.dropWhile isPadding).reverse.dropWhile isPadding).reverse

def maxDigits : Nat := 4300

/-- An integer in its plain form: a minus sign or none, and digits without a leading zero. -/
def plainInteger (cs : List Char) : Checked Int :=
  let (negative, digits) :=
    match cs with
    | '-' :: rest => (true, rest)
    | cs => (false, cs)
  if digits.isEmpty || !digits.all isAsciiDigit ||
      (digits.head? == some '0' && digits != ['0']) then
    .error "int_parsing"
  else if maxDigits < digits.length then .error "int_parsing_size"
  else
    let n : Int := decimalValue digits
    .ok (if negative then -n else n)

/-- An unsigned number without the zeros before it; underscores among the zeros go with
them. Nothing for a text that does not begin like a number. -/
def withoutLeadingZeros (cs : List Char) : Option (List Char) :=
  match cs with
  | '0' :: rest =>
    let later := rest.dropWhile fun c => c == '0' || c == '_'
    match later with
    | [] => cs.getLast?.map ([·])
    | '.' :: _ => (cs.drop (cs.length - later.length - 1))
    | c :: _ => if isAsciiDigit c then some later else none
  | c :: _ => if isAsciiDigit c || c == '-' then some cs else none
  | [] => none

/-- A number without a fraction of nothing but zeros. -/
def withoutZeroFraction (cs : List Char) : List Char :=
  match cut (· == '.') cs with
  | (whole, some zeros) => if !zeros.isEmpty && zeros.all (· == '0') then whole else cs
  | (_, none) => cs

def withoutUnderscores (cs : List Char) : List Char :=
  let pieces := splitBy (· == '_') cs
  if pieces.any (·.isEmpty) then cs else pieces.flatten

def integerOf (s : String) : Checked Int :=
  let cs := unpadded s.toList
  let unsigned? :=
    match cs with
    | '+' :: '-' :: _ => none
    | '+' :: rest => withoutLeadingZeros rest
    | cs => withoutLeadingZeros cs
  match unsigned? with
  | none => .error "int_parsing"
  | some cs => plainInteger (withoutUnderscores (withoutZeroFraction cs))

/-- The number that a text writes. Underscores are taken out of a text that is no number
with them. -/
def numberOf (s : String) : Checked Binary64 :=
  let read? (cs : List Char) : Option Binary64 :=
    if cs.contains '_' then none else Binary64.read? cs
  match read? (unpadded s.toList) <|> read? (withoutUnderscores s.toList) with
  | some x => .ok x
  | none => .error "float_parsing"

def yesWords : List String := ["1", "on", "t", "true", "y", "yes"]

def noWords : List String := ["0", "off", "f", "false", "n", "no"]

def choiceOf (s : String) : Checked Bool :=
  let word := String.ofList (s.toList.map lowerAscii)
  if yesWords.contains word then .ok true
  else if noWords.contains word then .ok false
  else .error "bool_parsing"

def choiceOfInteger (n : Int) : Checked Bool :=
  if n == 0 then .ok false else if n == 1 then .ok true else .error "bool_parsing"

def checkText : Json → Checked String
  | .text s => .ok s
  | .halfText => .error "string_unicode"
  | _ => .error "string_type"

def checkOptionalText : Json → Checked (Option String)
  | .null => .ok none
  | value => (checkText value).map some

/-- The range in which a number that is not an integer may stand for one. -/
def wholeLimit : Int := 9223372036854775808

def checkInteger : Json → Checked Int
  | .int n => .ok n
  | .bool b => .ok (if b then 1 else 0)
  | .text s => integerOf s
  | .halfText => .error "string_unicode"
  | .float (.finite negative mantissa exponent) =>
    match (Binary64.finite negative mantissa exponent).toInt? with
    | none => .error "int_from_float"
    | some n => if -wholeLimit < n && n < wholeLimit then .ok n else .error "int_parsing_size"
  | .float _ => .error "finite_number"
  | _ => .error "int_type"

def checkChoice : Json → Checked Bool
  | .bool b => .ok b
  | .int n => choiceOfInteger n
  | .text s => choiceOf s
  | .halfText => .error "string_unicode"
  | .float x =>
    match x.toInt? with
    | some n => choiceOfInteger n
    | none => .error "bool_type"
  | _ => .error "bool_type"

def checkNumber : Json → Checked Binary64
  | .float x => .ok x
  | .bool b => .ok (.ofInt (if b then 1 else 0))
  | .text s => numberOf s
  | .halfText => .error "string_unicode"
  | .int n =>
    match Binary64.ofInt n with
    | .infinite _ => .error "float_type"
    | x => .ok x
  | _ => .error "float_type"

def checkEntries (place : String) :
    List (String × Json) → List (String × String) × List Problem
  | [] => ([], [])
  | (name, value) :: rest =>
    let (entries, problems) := checkEntries place rest
    match checkText value with
    | .ok s => ((name, s) :: entries, problems)
    | .error word => (entries, ⟨[place, name], word⟩ :: problems)

def checkTable (place : String) : Json → List (String × String) × List Problem
  | .object members => checkEntries place members
  | _ => ([], [⟨[place], "dict_type"⟩])

end MmsHttp.Settings
