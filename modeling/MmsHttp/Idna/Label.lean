import MmsHttp.Idna.Composition
import MmsHttp.Idna.Direction
import MmsHttp.Idna.Punycode
import MmsHttp.Idna.Repertoire
import MmsHttp.Text.Lowercase
import MmsHttp.Text.Quoted

/-!
Labels of internationalised host names: the checks that a label has to pass, and the
two forms of a label, the one that people read and the one that goes on the wire.
A label is a list of code points, because Punycode can write numbers that stand for no
character; such a label is refused with its number in the message.
-/

namespace MmsHttp.Idna

open Text

inductive LabelError where
  | general (text : String)
  | direction (text : String)
  | character (text : String)
  | context (text : String)
  deriving DecidableEq, Repr

def LabelError.text : LabelError → String
  | general text | direction text | character text | context text => text

def codeName (code : Nat) : String :=
  let digits := (Nat.toDigits 16 code).map fun c =>
    if c.toNat < 97 then c else Char.ofNat (c.toNat - 32)
  "U+" ++ String.ofList (List.replicate (4 - digits.length) '0' ++ digits)

/-- Hyphens may not stand at an end, nor both third and fourth. -/
def checkHyphens (label : List Nat) : Except LabelError Unit :=
  if (label.drop 2).take 2 == [45, 45] then
    .error (.general "Label has disallowed hyphens in 3rd and 4th position")
  else if label.head? == some 45 || label.getLast? == some 45 then
    .error (.general "Label must not start or end with a hyphen")
  else .ok ()

def joiningOf (code : Nat) : String :=
  (joining.value? code).getD ""

def joins (kinds : List String) (codes : List Nat) : Bool :=
  match codes.dropWhile (joiningOf · == "T") with
  | [] => false
  | code :: _ => kinds.contains (joiningOf code)

/-- Whether the characters before and after a joiner allow it; nothing if the character
before it is unknown. `before` has the nearest character first. -/
def joinerFits (code : Nat) (before after : List Nat) : Option Bool :=
  match before with
  | [] => some (code == 0x200C && joins ["L", "D"] before && joins ["R", "D"] after)
  | previous :: _ =>
    if markClass previous == 9 then some true
    else if markClass previous == 0 && direction previous == "?" then none
    else some (code == 0x200C && joins ["L", "D"] before && joins ["R", "D"] after)

/-- Whether the rest of the label allows a character that needs a context. -/
def contextFits (label : List Nat) (code : Nat) (before after : List Nat) : Bool :=
  let among (table : CodeTable) (c : Nat) : Bool := (table.find? c).isSome
  if code == 0xB7 then before.head? == some 0x6C && after.head? == some 0x6C
  else if code == 0x375 then after.head?.any (among greek)
  else if code == 0x5F3 || code == 0x5F4 then before.head?.any (among hebrew)
  else if code == 0x30FB then
    label.any fun c => c != 0x30FB && (among hiragana c || among katakana c || among han c)
  else if 0x660 ≤ code && code ≤ 0x669 then !label.any fun c => 0x6F0 ≤ c && c ≤ 0x6F9
  else if 0x6F0 ≤ code && code ≤ 0x6F9 then !label.any fun c => 0x660 ≤ c && c ≤ 0x669
  else false

/-- Whether a code point may stand in a label only in some contexts. -/
def needsContext (code : Nat) : Bool :=
  code == 0xB7 || code == 0x375 || code == 0x5F3 || code == 0x5F4 || code == 0x30FB ||
    (0x660 ≤ code && code ≤ 0x669) || (0x6F0 ≤ code && code ≤ 0x6F9)

/-- Every code point must be allowed where it stands. The code points already passed
come nearest first. -/
def checkCharacters (label before : List Nat) : List Nat → Except LabelError Unit
  | [] => .ok ()
  | code :: after =>
    let place := before.length + 1
    if (alwaysValid.find? code).isSome then checkCharacters label (code :: before) after
    else if code == 0x200C || code == 0x200D then
      if joinerFits code before after == some true then
        checkCharacters label (code :: before) after
      else
        .error (.general (s!"Unknown codepoint adjacent to joiner {codeName code}" ++
          s!" at position {place} in " ++ quotedCodes label))
    else if needsContext code then
      if contextFits label code before after then checkCharacters label (code :: before) after
      else
        .error (.context (s!"Codepoint {codeName code} not allowed at position {place} in " ++
          quotedCodes label))
    else
      .error (.character (s!"Codepoint {codeName code} at position {place} of " ++
        quotedCodes label ++ " not allowed"))

def rightToLeftDirections : List String :=
  ["R", "AL", "AN", "EN", "ES", "CS", "ET", "ON", "BN", "NSM"]

def leftToRightDirections : List String :=
  ["L", "EN", "ES", "CS", "ET", "ON", "BN", "NSM"]

/-- What the direction rules have seen of a label. -/
structure DirectionState where
  goodEnd : Bool
  numerals : Option String

def rightToLeft (s : DirectionState) (place : Nat) (d : String) :
    Except LabelError DirectionState :=
  if !rightToLeftDirections.contains d then
    .error (.direction (s!"Invalid direction for codepoint at position {place}" ++
      " in a right-to-left label"))
  else
    let goodEnd :=
      if ["R", "AL", "EN", "AN"].contains d then true else if d == "NSM" then s.goodEnd else false
    if d == "AN" || d == "EN" then
      match s.numerals with
      | none => .ok ⟨goodEnd, some d⟩
      | some other =>
        if other == d then .ok ⟨goodEnd, some other⟩
        else .error (.direction "Can not mix numeral types in a right-to-left label")
    else .ok ⟨goodEnd, s.numerals⟩

def leftToRight (s : DirectionState) (place : Nat) (d : String) :
    Except LabelError DirectionState :=
  if !leftToRightDirections.contains d then
    .error (.direction (s!"Invalid direction for codepoint at position {place}" ++
      " in a left-to-right label"))
  else
    let goodEnd := if d == "L" || d == "EN" then true else if d == "NSM" then s.goodEnd else false
    .ok { s with goodEnd }

def checkEach (rule : DirectionState → Nat → String → Except LabelError DirectionState) :
    Nat → List String → DirectionState → Except LabelError DirectionState
  | _, [], s => .ok s
  | place, d :: ds, s =>
    match rule s place d with
    | .ok s => checkEach rule (place + 1) ds s
    | .error e => .error e

/-- A label with characters that are written from right to left must keep the rules of
its own direction. -/
def checkDirections (label : List Nat) : Except LabelError Unit :=
  let ds := label.map direction
  if ds.contains "?" then
    let place := (ds.takeWhile (· != "?")).length + 1
    .error (.direction ("Unknown directionality in label " ++ quotedCodes label ++
      s!" at position {place}"))
  else if !ds.any fun d => d == "R" || d == "AL" || d == "AN" then .ok ()
  else
    let first := ds.head?.getD ""
    let outcome :=
      if first == "R" || first == "AL" then checkEach rightToLeft 1 ds ⟨false, none⟩
      else if first == "L" then checkEach leftToRight 1 ds ⟨false, none⟩
      else
        .error (.direction ("First codepoint in label " ++ quotedCodes label ++
          " must be directionality L, R or AL"))
    match outcome with
    | .error e => .error e
    | .ok s =>
      if s.goodEnd then .ok ()
      else .error (.direction "Label ends with illegal codepoint directionality")

def checkLabel (label : List Nat) : Except LabelError Unit := do
  if label.isEmpty then throw (.general "Empty Label")
  if 254 < label.length then throw (.general "Label too long")
  if !isComposed label then throw (.general "Label must be in Normalization Form C")
  checkHyphens label
  if label.head?.any fun code => (marks.find? code).isSome then
    throw (.general "Label begins with an illegal combining character")
  checkCharacters label [] label
  checkDirections label

/-- How an encoded label begins. -/
def encodedPrefix : List Char := ['x', 'n', '-', '-']

/-- The form of a label that people read, checked. An ASCII label that is not encoded
stands for itself in lower case. -/
def readable (label : List Char) : Except LabelError (List Nat) :=
  if label.all (·.toNat < 128) then
    let label := label.map lowerAscii
    if encodedPrefix.isPrefixOf label then
      let rest := label.drop 4
      if rest.isEmpty then
        .error (.general "Malformed A-label, no Punycode eligible content found")
      else if rest.getLast? == some '-' then
        .error (.general "A-label must not end with a hyphen")
      else
        match Punycode.decode? rest with
        | none => .error (.general "Invalid A-label")
        | some codes => (checkLabel codes).map fun _ => codes
    else (checkLabel (label.map Char.toNat)).map fun _ => label.map Char.toNat
  else (checkLabel (label.map Char.toNat)).map fun _ => label.map Char.toNat

def wire (label : List Char) : Except LabelError (List Char) := do
  let encoded ←
    if label.all (·.toNat < 128) then
      let _ ← readable label
      pure label
    else
      checkLabel (label.map Char.toNat)
      pure (encodedPrefix ++ Punycode.encode (label.map Char.toNat))
  if 63 < encoded.length then throw (.general "Label too long")
  pure encoded

end MmsHttp.Idna
