/-!
Prefix codes given by the lengths of their words. Words of one length follow each other
in the order of their symbols, and shorter words come before longer ones, so the
lengths alone determine the code.
-/

namespace MmsHttp.Coding

/-- Bits, the first one read coming first. -/
abbrev Bits := List Bool

/-- A prefix code as a tree; `gap` is where no word leads. -/
inductive Code where
  | gap
  | word (symbol : Nat)
  | branch (zero one : Code)
  deriving Inhabited

namespace Code

inductive Reading where
  | more
  | wrong
  | symbol (n : Nat) (rest : Bits)

/-- Reads one word. A wrong beginning is seen as soon as no word goes on with it. -/
def read : Code → Bits → Reading
  | .word symbol, bits => .symbol symbol bits
  | .gap, _ => .wrong
  | .branch _ _, [] => .more
  | .branch zero one, bit :: bits => if bit then one.read bits else zero.read bits

def maxLength : Nat := 15

/-- The symbols that have words, with the lengths of these, shortest first. -/
def ordered (lengths : List Nat) : List (Nat × Nat) :=
  (List.range maxLength).flatMap fun n =>
    (lengths.zipIdx.filter (·.1 == n + 1)).map fun (length, symbol) => (length, symbol)

/-- Grows the tree below a node at a depth, taking words from the front of the list. -/
def grow (depth : Nat) : (room : Nat) → List (Nat × Nat) → Code × List (Nat × Nat)
  | 0, words => (.gap, words)
  | room + 1, words =>
    match words with
    | [] => (.gap, [])
    | (length, symbol) :: rest =>
      if length == depth then (.word symbol, rest)
      else
        let (zero, words) := grow (depth + 1) room words
        let (one, words) := grow (depth + 1) room words
        (.branch zero one, words)

/-- How much of the code space the words leave free, in units of the longest word, or
nothing if they need more than there is. -/
def space? (lengths : List Nat) : Option Nat :=
  let used :=
    (ordered lengths).foldl (fun sum (length, _) => sum + Nat.pow 2 (maxLength - length)) 0
  let whole := Nat.pow 2 maxLength
  if used ≤ whole then some (whole - used) else none

/-- The code for symbols with the given word lengths, zero meaning no word. Too many
words make no code. Too few do only if none is longer than one bit and `allowsGaps` allows
it; a code without words waits for one bit and then leads nowhere. -/
def ofLengths (allowsGaps : Bool) (lengths : List Nat) : Option Code :=
  let words := ordered lengths
  match space? lengths with
  | none => none
  | some free =>
    if words.isEmpty then
      some (if allowsGaps then .branch .gap .gap else .branch (.word 0) (.word 0))
    else if free != 0 && !(allowsGaps && words.all (·.1 == 1)) then none
    else some (grow 0 (maxLength + 1) words).1

end Code

end MmsHttp.Coding
