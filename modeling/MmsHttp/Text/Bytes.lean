import MmsHttp.Text.Hex

namespace MmsHttp

abbrev Bytes := List UInt8

namespace Text

def utf8Char (c : Char) : Bytes :=
  let n := c.toNat
  if n < 0x80 then [n.toUInt8]
  else if n < 0x800 then [(0xC0 + n / 64).toUInt8, (0x80 + n % 64).toUInt8]
  else if n < 0x10000 then
    [(0xE0 + n / 4096).toUInt8, (0x80 + n / 64 % 64).toUInt8, (0x80 + n % 64).toUInt8]
  else
    [(0xF0 + n / 262144).toUInt8, (0x80 + n / 4096 % 64).toUInt8,
      (0x80 + n / 64 % 64).toUInt8, (0x80 + n % 64).toUInt8]

def utf8 (cs : List Char) : Bytes :=
  cs.flatMap utf8Char

/-- The range that the second byte of a sequence must lie in, given the first: it
keeps out overlong forms, surrogates and numbers past the last character. -/
def secondRange (lead : Nat) : Nat × Nat :=
  if lead == 0xE0 then (0xA0, 0xBF)
  else if lead == 0xED then (0x80, 0x9F)
  else if lead == 0xF0 then (0x90, 0xBF)
  else if lead == 0xF4 then (0x80, 0x8F)
  else (0x80, 0xBF)

/-- How many bytes a sequence that begins with this byte has; zero if none does. -/
def sequenceLength (lead : Nat) : Nat :=
  if lead < 0x80 then 1
  else if 0xC2 ≤ lead && lead < 0xE0 then 2
  else if 0xE0 ≤ lead && lead < 0xF0 then 3
  else if 0xF0 ≤ lead && lead < 0xF5 then 4
  else 0

/-- The longest beginning of a sequence at the head of the input, as its length and
the payload bits read so far. -/
def sequenceAt (lead : Nat) (rest : Bytes) : Nat × Nat :=
  let total := sequenceLength lead
  let start :=
    if total == 2 then lead - 0xC0 else if total == 3 then lead - 0xE0 else lead - 0xF0
  let (low, high) := secondRange lead
  let continues (low high : Nat) (b : UInt8) : Bool := low ≤ b.toNat && b.toNat ≤ high
  let first := (rest.take 1).takeWhile (continues low high)
  let later :=
    if first.isEmpty then [] else ((rest.drop 1).take (total - 2)).takeWhile (continues 0x80 0xBF)
  let tail := first ++ later
  (1 + tail.length, tail.foldl (fun n b => n * 64 + (b.toNat - 0x80)) start)

/-- One step of decoding: a character, or nothing for an ill-formed beginning, and
how many bytes it takes. -/
def utf8Step (b : UInt8) (rest : Bytes) : Option Char × Nat :=
  let lead := b.toNat
  if lead < 0x80 then (some (Char.ofNat lead), 1)
  else if sequenceLength lead == 0 then (none, 1)
  else
    let (read, code) := sequenceAt lead rest
    if read == sequenceLength lead then (some (Char.ofNat code), read) else (none, read)

/-- Decodes UTF-8, handing each ill-formed beginning to `repair`. -/
def fromUtf8With (repair : Option Char) : Bytes → Option (List Char)
  | [] => some []
  | b :: rest =>
    let (c?, used) := utf8Step b rest
    match c? <|> repair, fromUtf8With repair (rest.drop (used - 1)) with
    | some c, some cs => some (c :: cs)
    | _, _ => none
termination_by bytes => bytes.length
decreasing_by rw [List.length_drop, List.length_cons]; omega

/-- The text that well-formed UTF-8 writes. -/
def fromUtf8? (bytes : Bytes) : Option (List Char) :=
  fromUtf8With none bytes

/-- The text of UTF-8 bytes with the replacement character for what is ill-formed. -/
def fromUtf8Lossy (bytes : Bytes) : List Char :=
  (fromUtf8With (some (Char.ofNat 0xFFFD)) bytes).getD []

/-- Why bytes at a position that begin a text are not UTF-8, given how many of them begin a
sequence. -/
def utf8ComplaintAt (position : Nat) (b : UInt8) (rest : Bytes) (used : Nat) : String :=
  let reason :=
    if sequenceLength b.toNat == 0 then "invalid start byte"
    else if rest.length < used then "unexpected end of data"
    else "invalid continuation byte"
  let place :=
    if used == 1 then
      "byte 0x" ++ String.ofList (hexText 2 b.toNat) ++ s!" in position {position}"
    else s!"bytes in position {position}-{position + used - 1}"
  "'utf-8' codec can't decode " ++ place ++ ": " ++ reason

/-- Why bytes that stand at a position are not UTF-8: the first ill-formed beginning.
Nothing for bytes that are. -/
def utf8Complaint (position : Nat) : Bytes → Option String
  | [] => none
  | b :: rest =>
    let (c?, used) := utf8Step b rest
    match c? with
    | none => some (utf8ComplaintAt position b rest used)
    | some _ => utf8Complaint (position + used) (rest.drop (used - 1))
termination_by bytes => bytes.length
decreasing_by rw [List.length_drop, List.length_cons]; omega

def isAscii (c : Char) : Bool :=
  c.toNat < 128

def fromLatin1 (bytes : Bytes) : List Char :=
  bytes.map fun b => Char.ofNat b.toNat

/-- Why a text is not ASCII: the first run of characters outside it, named by its
position and, if it is a single one, by its number. Nothing for a text in ASCII. -/
def asciiComplaint (cs : List Char) : Option String :=
  let start := (cs.takeWhile isAscii).length
  match (cs.drop start).takeWhile (!isAscii ·) with
  | [] => none
  | [c] =>
    let shown :=
      if c.toNat < 0x100 then "\\x" ++ String.ofList (hexText 2 c.toNat)
      else if c.toNat < 0x10000 then "\\u" ++ String.ofList (hexText 4 c.toNat)
      else "\\U" ++ String.ofList (hexText 8 c.toNat)
    some ("'ascii' codec can't encode character '" ++ shown ++ s!"' in position {start}: " ++
      "ordinal not in range(128)")
  | run =>
    some (s!"'ascii' codec can't encode characters in position {start}-" ++
      s!"{start + run.length - 1}: ordinal not in range(128)")

end Text

end MmsHttp
