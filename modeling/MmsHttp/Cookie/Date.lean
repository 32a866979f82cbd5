import MmsHttp.Text.Blank
import MmsHttp.Text.Digit
import MmsHttp.Text.Lowercase

/-!
Dates in cookies. The exact form is `Wed, 09 Feb 1994 22:23:32 GMT`; in loose forms there
may be hyphens, a short year or a zone, and the weekday or the time may be missing.
-/

namespace MmsHttp.Cookie.Date

open Text

def months : List (List Char) :=
  ["jan", "feb", "mar", "apr", "may", "jun", "jul", "aug", "sep", "oct", "nov", "dec"].map
    (·.toList)

def weekdays : List (List Char) :=
  ["sun", "mon", "tue", "wed", "thu", "fri", "sat"].map (·.toList)

/-- Days from the first of January 1970 to a day, in a calendar whose years begin in
March. -/
def dayNumber (year month day : Int) : Int :=
  let y := if month ≤ 2 then year - 1 else year
  let m := if month ≤ 2 then month + 9 else month - 3
  365 * y + y / 4 - y / 100 + y / 400 + (153 * m + 2) / 5 + day - 1 - 719468

def isLetter (c : Char) : Bool :=
  ('a' ≤ c && c ≤ 'z') || ('A' ≤ c && c ≤ 'Z')

def isGap (c : Char) : Bool :=
  c == ' ' || (9 ≤ c.toNat && c.toNat ≤ 13)

def isWordCharacter (c : Char) : Bool :=
  isLetter c || isAsciiDigit c || c == '_'

/-- The form of an exact date. The letters `w` and `m` stand for the initials of weekdays
and months, `a` for small letters and `0` for digits. -/
def exactForm : List Char :=
  "waa, 00 maa 0000 00:00:00 GMT".toList

def fits (place c : Char) : Bool :=
  match place with
  | 'w' => "SMTWF".toList.contains c
  | 'm' => "JFMASOND".toList.contains c
  | 'a' => 'a' ≤ c && c ≤ 'z'
  | '0' => isAsciiDigit c
  | place => c == place

def isExact (cs : List Char) : Bool :=
  cs.length == exactForm.length && (exactForm.zip cs).all fun (place, c) => fits place c

def part (start size : Nat) (cs : List Char) : List Char :=
  (cs.drop start).take size

def dropWeekday (cs : List Char) : List Char :=
  if weekdays.contains ((cs.take 3).map lowerAscii) then
    let rest := (cs.drop 3).dropWhile isLetter
    (if rest.head? == some ',' then rest.tail else rest).dropWhile isGap
  else cs

def number? (most : Nat) (cs : List Char) : Option (Nat × List Char) :=
  let digits := (cs.take most).takeWhile isAsciiDigit
  if digits.isEmpty then none else some (decimalValue digits, cs.drop digits.length)

def twoDigits? (cs : List Char) : Option (Nat × List Char) :=
  match cs with
  | a :: b :: rest =>
    if isAsciiDigit a && isAsciiDigit b then some (decimalValue [a, b], rest) else none
  | _ => none

/-- Drops what stands between the parts of a day. -/
def separator? (cs : List Char) : Option (List Char) :=
  match cs with
  | '-' :: rest => some rest
  | '/' :: rest => some rest
  | c :: rest => if isGap c then some (rest.dropWhile isGap) else none
  | [] => none

def namedMonth? (word : List Char) : Option Nat :=
  (months.findIdx? (· == word.map lowerAscii)).map (· + 1)

def month? (word : List Char) : Option Nat :=
  match namedMonth? word, integer? word with
  | some month, _ => some month
  | none, some n => if 1 ≤ n && n ≤ 12 then some n.toNat else none
  | none, none => none

/-- The year that up to three digits stand for, the one nearest to the present. -/
def fullYear (present : Int) (year : Nat) : Int :=
  if 1000 ≤ year then year
  else
    let guess : Int := year + present - present % 100
    let distance : Int := present % 100 - year
    if distance > 50 then guess + 100 else if distance < -50 then guess - 100 else guess

structure TimeOfDay where
  hour : Nat
  minute : Nat
  second : Nat

/-- Reads the time of day after a gap or a colon, if there is one. -/
def timeOfDay? (cs : List Char) : Option (TimeOfDay × List Char) := do
  let start ←
    match cs with
    | ':' :: rest => some rest
    | c :: rest => if isGap c then some (rest.dropWhile isGap) else none
    | [] => none
  let (hour, rest) ← number? 2 start
  let ':' :: rest := rest | none
  let (minute, rest) ← twoDigits? rest
  match rest with
  | ':' :: after =>
    match twoDigits? after with
    | some (second, rest) => some (⟨hour, minute, second⟩, rest)
    | none => some (⟨hour, minute, 0⟩, rest)
  | rest => some (⟨hour, minute, 0⟩, rest)

/-- Reads a zone: how far it is ahead in seconds, or nothing for one that is not known. -/
def zone (cs : List Char) : Option Int × List Char :=
  let word := cs.takeWhile isLetter
  if !word.isEmpty then
    let known := ["GMT", "UTC", "UT", "Z"].contains (String.ofList (word.map upperAscii))
    (if known then some 0 else none, cs.drop word.length)
  else
    let (sign, rest) : Int × List Char :=
      match cs with
      | '+' :: rest => (1, rest)
      | '-' :: rest => (-1, rest)
      | rest => (1, rest)
    let digits := (rest.take 4).takeWhile isAsciiDigit
    if digits.length < 2 then (some 0, cs)
    else
      let size := if digits.length == 2 then 2 else digits.length - 2
      let hours := decimalValue (digits.take size)
      let minutes := decimalValue (digits.drop size)
      (some (sign * (hours * 3600 + minutes * 60 : Nat)), rest.drop digits.length)

/-- Whether nothing follows a date but a remark in parentheses. -/
def endsDate (cs : List Char) : Bool :=
  match cs.dropWhile isGap with
  | [] => true
  | '(' :: rest =>
    let word := rest.takeWhile isWordCharacter
    match rest.drop word.length with
    | ')' :: rest => !word.isEmpty && rest.all isGap
    | _ => false
  | _ => false

/-- What a text comes to where a date should be. -/
inductive Reading where
  /-- A time in seconds since the beginning of 1970. -/
  | time (seconds : Int)
  | unreadable
  /-- A date in the right form that no calendar has. -/
  | impossible
  deriving DecidableEq, Repr

def maxYear : Int := 9999

/-- The time of a day, if there is such a day and it is not before 1970. -/
def moment (year : Int) (month day : Nat) (time : TimeOfDay) : Reading :=
  if year < 1970 || day < 1 || 31 < day then .unreadable
  else if 24 < time.hour || 59 < time.minute || 61 < time.second then .unreadable
  else if maxYear < year then .impossible
  else
    .time (dayNumber year month day * 86400 + time.hour * 3600 + time.minute * 60 + time.second)

def readExact (cs : List Char) : Reading :=
  match namedMonth? (part 8 3 cs) with
  | none => .impossible
  | some month =>
    moment (decimalValue (part 12 4 cs)) month (decimalValue (part 5 2 cs))
      ⟨decimalValue (part 17 2 cs), decimalValue (part 20 2 cs), decimalValue (part 23 2 cs)⟩

/-- The parts of a loose date as they are written; the zone is left out if it is not
known. -/
structure Pieces where
  day : Nat
  month : List Char
  year : List Char
  time : TimeOfDay
  ahead : Option Int

/-- Whether a word is a half of the day, which is no zone. -/
def isHalfDay (word : List Char) : Bool :=
  ["am", "pm"].contains (String.ofList (word.map lowerAscii))

def pieces? (cs : List Char) : Option Pieces := do
  let cs := dropWeekday (trimStart cs)
  let (day, rest) ← number? 2 cs
  let rest ← separator? rest
  let month := rest.takeWhile isWordCharacter
  let rest ← separator? (rest.drop month.length)
  let year := rest.takeWhile isAsciiDigit
  let rest := rest.drop year.length
  let (time, rest) := (timeOfDay? rest).getD (⟨0, 0, 0⟩, rest)
  let rest := rest.dropWhile isGap
  let (ahead, after) := zone rest
  if month.isEmpty || year.isEmpty || isHalfDay (rest.takeWhile isLetter) || !endsDate after then
    none
  pure { day, month, year, time, ahead }

/-- A year with more digits than are read as a number is as impossible as one that the
calendar does not reach. -/
def readLoose (present : Int) (cs : List Char) : Reading :=
  match pieces? cs with
  | none => .unreadable
  | some { day, month, year, time, ahead } =>
    if mostDigits < year.length then .impossible
    else if maxYear < decimalValue year then .unreadable
    else
      match month? month with
      | none => .unreadable
      | some month =>
        match moment (fullYear present (decimalValue year)) month day time, ahead with
        | .time seconds, some ahead => .time (seconds - ahead)
        | .time _, none => .unreadable
        | reading, _ => reading

/-- Reads a date in a present year, which short years are taken to be near. -/
def read (present : Int) (cs : List Char) : Reading :=
  if isExact cs then readExact cs else readLoose present cs

end MmsHttp.Cookie.Date
