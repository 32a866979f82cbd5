import MmsHttp.Decimal.Reading
import MmsHttp.Json.Value
import MmsHttp.Text.Digit
import MmsHttp.Text.Hex

namespace MmsHttp.Json

open Text

def isSpace (c : Char) : Bool :=
  c == ' ' || c == '\t' || c == '\n' || c == '\r'

def skipSpace (cs : List Char) : List Char :=
  cs.dropWhile isSpace

def codeUnit? (cs : List Char) : Option (Nat × List Char) :=
  let digits := cs.take 4
  if digits.length == 4 && digits.all fun c => (hexDigit? c).isSome then
    some (hexValue digits, cs.drop 4)
  else none

/-- The code point that an escape after `\u` writes; two halves of a pair make one. -/
def escapedCode? (cs : List Char) : Option (Nat × List Char) :=
  match codeUnit? cs with
  | none => none
  | some (high, rest) =>
    if 0xD800 ≤ high ∧ high < 0xDC00 then
      match rest with
      | '\\' :: 'u' :: more =>
        match codeUnit? more with
        | some (low, after) =>
          if 0xDC00 ≤ low ∧ low < 0xE000 then
            some (0x10000 + (high - 0xD800) * 1024 + (low - 0xDC00), after)
          else some (high, rest)
        | none => some (high, rest)
      | _ => some (high, rest)
    else some (high, rest)

def simpleEscape? (c : Char) : Option Char :=
  if c == '"' || c == '\\' || c == '/' then some c
  else if c == 'b' then some (Char.ofNat 8)
  else if c == 'f' then some (Char.ofNat 12)
  else if c == 'n' then some '\n'
  else if c == 'r' then some '\r'
  else if c == 't' then some '\t'
  else none

/-- Reads a string after its opening quote: its code points, the last one first, and what
follows the closing quote. -/
def readString : (steps : Nat) → List Char → List Nat → Option (List Nat × List Char)
  | 0, _, _ => none
  | steps + 1, cs, found =>
    match cs with
    | [] => none
    | '"' :: rest => some (found, rest)
    | '\\' :: 'u' :: rest =>
      match escapedCode? rest with
      | some (code, rest) => readString steps rest (code :: found)
      | none => none
    | '\\' :: c :: rest =>
      match simpleEscape? c with
      | some c => readString steps rest (c.toNat :: found)
      | none => none
    | '\\' :: [] => none
    | c :: rest => if c.toNat < 32 then none else readString steps rest (c.toNat :: found)

/-- The value of a string with the given code points, the last one first. -/
def ofCodes (codes : List Nat) : Json :=
  if codes.any fun code => 0xD800 ≤ code && code < 0xE000 then .halfText
  else .text (String.ofList (codes.reverse.map Char.ofNat))

/-- The name of a member with the given code points, the last one first. -/
def nameOfCodes (codes : List Nat) : String :=
  String.ofList (codes.reverse.map Char.ofNat)

def leadingDigits (cs : List Char) : List Char × List Char :=
  (cs.takeWhile isAsciiDigit, cs.dropWhile isAsciiDigit)

def leadingFraction (cs : List Char) : List Char × List Char :=
  match cs with
  | '.' :: rest =>
    let (digits, after) := leadingDigits rest
    if digits.isEmpty then ([], cs) else ('.' :: digits, after)
  | _ => ([], cs)

def leadingExponent (cs : List Char) : List Char × List Char :=
  match cs with
  | c :: rest =>
    if c == 'e' || c == 'E' then
      let (sign, rest) :=
        match rest with
        | '+' :: rest => (['+'], rest)
        | '-' :: rest => (['-'], rest)
        | rest => ([], rest)
      let (digits, after) := leadingDigits rest
      if digits.isEmpty then ([], cs) else (c :: sign ++ digits, after)
    else ([], cs)
  | [] => ([], cs)

/-- Integers with more digits than this are not read. -/
def maxDigits : Nat := 4300

def readNumber (negative : Bool) (cs : List Char) : Option (Json × List Char) :=
  let (whole, rest) :=
    match cs with
    | '0' :: rest => (['0'], rest)
    | cs => leadingDigits cs
  if whole.isEmpty then none
  else
    let (fraction, rest) := leadingFraction rest
    let (exponent, rest) := leadingExponent rest
    if fraction.isEmpty && exponent.isEmpty then
      if maxDigits < whole.length then none
      else
        let n : Int := decimalValue whole
        some (.int (if negative then -n else n), rest)
    else
      (Binary64.readMagnitude negative (whole ++ fraction ++ exponent)).map fun x =>
        (.float x, rest)

def readWord (cs : List Char) : Option (Json × List Char) :=
  let after? (word : String) (value : Json) : Option (Json × List Char) :=
    if word.toList.isPrefixOf cs then some (value, cs.drop word.length) else none
  after? "null" .null <|> after? "true" (.bool true) <|> after? "false" (.bool false) <|>
    after? "NaN" (.float .nan) <|> after? "Infinity" (.float (.infinite false)) <|>
    after? "-Infinity" (.float (.infinite true))

mutual

def readValue : (steps : Nat) → List Char → Option (Json × List Char)
  | 0, _ => none
  | steps + 1, cs =>
    match cs with
    | '"' :: rest =>
      (readString (rest.length + 1) rest []).map fun (codes, rest) => (ofCodes codes, rest)
    | '[' :: rest =>
      match skipSpace rest with
      | ']' :: rest => some (.list [], rest)
      | rest => readItems steps rest []
    | '\x7b' :: rest =>
      match skipSpace rest with
      | '\x7d' :: rest => some (.object [], rest)
      | rest => readMembers steps rest []
    | '-' :: rest => readWord cs <|> readNumber true rest
    | _ => readWord cs <|> readNumber false cs

/-- Reads the items of a list from the first one not yet read; those read come last
first. -/
def readItems : (steps : Nat) → List Char → List Json → Option (Json × List Char)
  | 0, _, _ => none
  | steps + 1, cs, found =>
    match readValue steps cs with
    | none => none
    | some (value, rest) =>
      match skipSpace rest with
      | ']' :: rest => some (.list (value :: found).reverse, rest)
      | ',' :: rest => readItems steps (skipSpace rest) (value :: found)
      | _ => none

/-- Reads the members of an object from the first one not yet read; those read come last
first. -/
def readMembers : (steps : Nat) → List Char → List (String × Json) → Option (Json × List Char)
  | 0, _, _ => none
  | steps + 1, cs, found =>
    match cs with
    | '"' :: rest =>
      match readString (rest.length + 1) rest [] with
      | none => none
      | some (codes, rest) =>
        match skipSpace rest with
        | ':' :: rest =>
          match readValue steps (skipSpace rest) with
          | none => none
          | some (value, rest) =>
            let found := (nameOfCodes codes, value) :: found
            match skipSpace rest with
            | '\x7d' :: rest => some (ofMembers found.reverse, rest)
            | ',' :: rest => readMembers steps (skipSpace rest) found
            | _ => none
        | _ => none
    | _ => none

end

/-- The value that a text writes. A value has at most as many parts as characters. -/
def read? (text : String) : Option Json :=
  let cs := skipSpace text.toList
  match readValue (2 * cs.length + 2) cs with
  | some (value, rest) => if (skipSpace rest).isEmpty then some value else none
  | none => none

end MmsHttp.Json
