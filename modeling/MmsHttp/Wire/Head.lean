import MmsHttp.Link.Fault
import MmsHttp.Wire.Field

namespace MmsHttp.Wire

open Text

structure Head where
  version : Nat × Nat
  status : Nat
  reason : Bytes
  fields : List Headers.Raw
  deriving DecidableEq, Repr

def dropReturn (line : Bytes) : Bytes :=
  if line.getLast? == some 13 then line.dropLast else line

/-- The lines up to the first blank one and what follows it, given the bytes of the line
under way, last first. Nothing if there is no blank line yet. -/
def linesFrom : (line : Bytes) → Bytes → Option (List Bytes × Bytes)
  | _, [] => none
  | line, b :: rest =>
    if b == 10 then
      let line := dropReturn line.reverse
      if line.isEmpty then some ([], rest)
      else (linesFrom [] rest).map fun (lines, rest) => (line :: lines, rest)
    else linesFrom (b :: line) rest

def lines? (buffer : Bytes) : Option (List Bytes × Bytes) :=
  linesFrom [] buffer

theorem linesFrom_length : ∀ (buffer line : Bytes) (lines : List Bytes) (rest : Bytes),
    linesFrom line buffer = some (lines, rest) → rest.length < buffer.length
  | [], _, _, _, h => by simp [linesFrom] at h
  | b :: buffer, line, lines, rest, h => by
    simp only [linesFrom] at h
    split at h
    · split at h
      · simp only [Option.some.injEq, Prod.mk.injEq] at h
        rw [← h.2]
        exact Nat.lt_succ_self _
      · obtain ⟨⟨found, after⟩, hfound, heq⟩ := Option.map_eq_some_iff.mp h
        simp only [Prod.mk.injEq] at heq
        rw [← heq.2]
        exact Nat.lt_succ_of_lt (linesFrom_length buffer [] found after hfound)
    · exact Nat.lt_succ_of_lt (linesFrom_length buffer _ lines rest h)

/-- Puts lines that begin with a gap behind the lines before them. Nothing if there is no
line before. -/
def unfold : List Bytes → Option (List Bytes)
  | [] => some []
  | first :: rest => if first.head?.any isGap then none else some (continued first rest)
where
  continued : Bytes → List Bytes → List Bytes
    | last, [] => [last]
    | last, line :: rest =>
      if line.head?.any isGap then continued (last ++ 32 :: line.dropWhile isGap) rest
      else last :: continued line rest

def field? (line : Bytes) : Option Headers.Raw :=
  match cut (· == 58) line with
  | (_, none) => none
  | (name, some value) =>
    let value := strip isGap value
    if isToken name && isFieldValue value then some (name, value) else none

def fields? (lines : List Bytes) : Option (List Headers.Raw) := do
  let lines ← unfold lines
  let fields ← lines.mapM field?
  normalise none false fields

def inReason (b : UInt8) : Bool :=
  isVisible b || isGap b

/-- Reads a status line. The reason may be left out together with the space before it. -/
def statusLine? (line : Bytes) : Option ((Nat × Nat) × Nat × Bytes) :=
  match line with
  | 72 :: 84 :: 84 :: 80 :: 47 :: major :: 46 :: minor :: 32 :: a :: b :: c :: rest =>
    let digits := [major, minor, a, b, c]
    let reason? :=
      match rest with
      | [] => some []
      | 32 :: reason => if reason.all inReason then some reason else none
      | _ => none
    match reason? with
    | none => none
    | some reason =>
      if digits.all isDigit then
        some ((number [major], number [minor]), number [a, b, c], reason)
      else none
  | _ => none

def head? (lines : List Bytes) : Option Head :=
  match lines with
  | [] => none
  | first :: rest => do
    let (version, status, reason) ← statusLine? first
    guard (100 ≤ status)
    let fields ← fields? rest
    pure { version, status, reason, fields }

/-- What the bytes that have come in so far make. -/
inductive Found (α : Type) where
  | waiting (buffer : Bytes)
  | whole (value : α) (rest : Bytes)
  | broken

/-- Whether bytes cannot become a head any more: a head begins with a visible byte. -/
def isHopeless (buffer : Bytes) : Bool :=
  match buffer with
  | [] => false
  | b :: _ => b < 33

/-- The final head in a buffer. Interim ones are passed over; one that changes the
protocol is final where a change was offered and wrong elsewhere. -/
def finalHead (upgrades : Bool) (buffer : Bytes) : Found Head :=
  match h : lines? buffer with
  | none => if isHopeless buffer then .broken else .waiting buffer
  | some (lines, rest) =>
    match head? lines with
    | none => .broken
    | some head =>
      if 200 ≤ head.status then .whole head rest
      else if head.status == 101 then if upgrades then .whole head rest else .broken
      else
        have : rest.length < buffer.length := linesFrom_length buffer [] lines rest h
        finalHead upgrades rest
termination_by buffer.length

def maxWaiting : Nat := 100 * 1024

/-- What was read of a connection: a value or the fault that came instead, the bytes left
over and the parts that have not come in yet. -/
structure Received (α : Type) where
  outcome : Except LinkFault α
  rest : Bytes
  coming : List Bytes

/-- Reads the final head. The connection delivers parts and then fails or ends, which an
empty part does as well; an end before the head breaks the protocol. -/
def receiveHead (upgrades : Bool) (failure : Option LinkFault) :
    (coming : List Bytes) → (buffer : Bytes) → Received Head
  | coming, buffer =>
    match finalHead upgrades buffer with
    | .broken => ⟨.error .remoteProtocol, [], coming⟩
    | .whole head rest => ⟨.ok head, rest, coming⟩
    | .waiting buffer =>
      if maxWaiting < buffer.length then ⟨.error .remoteProtocol, [], coming⟩
      else
        match coming with
        | [] => ⟨.error (failure.getD .remoteProtocol), [], []⟩
        | part :: coming =>
          if part.isEmpty then ⟨.error .remoteProtocol, [], coming⟩
          else receiveHead upgrades failure coming (buffer ++ part)

namespace Head

/-- How the body of a response is framed. Some responses have none, and one that does not
say lasts until the connection ends. -/
def framing (head : Head) : Framing :=
  if head.status == 204 || head.status == 304 then .counted 0
  else (framing? head.fields).getD .untilClosed

def keepsOpen (head : Head) : Bool :=
  !asksToClose head.fields && (1 < head.version.1 || (head.version.1 == 1 && 1 ≤ head.version.2))

end Head

end MmsHttp.Wire
