import MmsHttp.Wire.Head

namespace MmsHttp.Wire

open Text

/-- A body: its pieces, the fault that ends it if it does not end well, the bytes that
come after it and the parts that have not come in yet. -/
structure Body where
  pieces : List Bytes
  failure : Option LinkFault
  rest : Bytes
  coming : List Bytes

namespace Body

/-- A body that goes on after a piece; an empty piece counts for nothing. -/
def after (piece : Bytes) (body : Body) : Body :=
  if piece.isEmpty then body else { body with pieces := piece :: body.pieces }

def broken (fault : LinkFault) (coming : List Bytes) : Body :=
  ⟨[], some fault, [], coming⟩

def counted (failure : Option LinkFault) :
    (coming : List Bytes) → (remaining : Nat) → (buffer : Bytes) → Body
  | coming, remaining, buffer =>
    let piece := buffer.take remaining
    after piece <|
      if remaining ≤ buffer.length then ⟨[], none, buffer.drop remaining, coming⟩
      else
        match coming with
        | [] => broken (failure.getD .remoteProtocol) []
        | part :: coming =>
          if part.isEmpty then broken .remoteProtocol coming
          else counted failure coming (remaining - piece.length) part

def untilClosed (failure : Option LinkFault) :
    (coming : List Bytes) → (buffer : Bytes) → Body
  | coming, buffer =>
    after buffer <|
      match coming with
      | [] => ⟨[], failure, [], []⟩
      | part :: coming =>
        if part.isEmpty then ⟨[], none, [], coming⟩ else untilClosed failure coming part

/-- Where the reader of chunks stands. -/
inductive Place where
  /-- Before the size of a chunk. -/
  | size
  /-- In a chunk of which this much is left. -/
  | data (left : Nat)
  /-- In the line end after a chunk, of which this much is left. -/
  | lineEnd (left : Bytes)
  /-- In the fields after the last chunk. -/
  | trailer

def line? : Bytes → Option (Bytes × Bytes)
  | 13 :: 10 :: rest => some ([], rest)
  | b :: rest => (line? rest).map fun (line, rest) => (b :: line, rest)
  | [] => none

theorem line?_length : ∀ (buffer line rest : Bytes),
    line? buffer = some (line, rest) → rest.length < buffer.length := by
  intro buffer
  induction buffer using line?.induct with
  | case1 rest =>
    intro line found h
    simp only [line?, Option.some.injEq, Prod.mk.injEq] at h
    rw [← h.2]
    simp only [List.length_cons]
    omega
  | case2 b rest hne ih =>
    intro line found h
    rw [line?] at h
    · obtain ⟨⟨first, after⟩, hfirst, heq⟩ := Option.map_eq_some_iff.mp h
      simp only [Prod.mk.injEq] at heq
      rw [← heq.2]
      exact Nat.lt_succ_of_lt (ih first after hfirst)
    · exact hne
  | case3 =>
    intro line found h
    simp [line?] at h

def maxSizeDigits : Nat := 20

/-- The size of a chunk. What follows it after a semicolon does not count, nor do spaces
and tabs at the end. -/
def chunkSize? (line : Bytes) : Option Nat :=
  let isHex (b : UInt8) : Bool := (hexDigit? (Char.ofNat b.toNat)).isSome
  let digits := line.takeWhile isHex
  let rest := line.dropWhile isHex
  let restFits :=
    match rest with
    | 59 :: extension => !extension.contains 10
    | rest => rest.all isGap
  if !digits.isEmpty && digits.length ≤ maxSizeDigits && restFits then
    some (hexValue (fromLatin1 digits))
  else none

/-- How far chunks have been read: to their end, to a fault, or to the end of what has
come in. -/
inductive Progress where
  | ended (rest : Bytes)
  | broken
  | waiting (place : Place) (buffer : Bytes)

/-- Reads the chunks in a buffer: the pieces that have come in, and how far it went. -/
def chunksIn (place : Place) (buffer : Bytes) : List Bytes × Progress :=
  match place with
  | .size =>
    match h : line? buffer with
    | none => ([], .waiting .size buffer)
    | some (line, rest) =>
      have : rest.length < buffer.length := line?_length buffer line rest h
      match chunkSize? line with
      | none => ([], .broken)
      | some 0 => chunksIn .trailer rest
      | some size => chunksIn (.data size) rest
  | .data left =>
    match h : buffer.take left with
    | [] => ([], .waiting (.data left) buffer)
    | b :: piece =>
      have : (buffer.drop (piece.length + 1)).length < buffer.length := by
        have := congrArg List.length h
        simp only [List.length_take, List.length_cons] at this
        simp only [List.length_drop]
        omega
      let next := if piece.length + 1 == left then .lineEnd [13, 10] else
        .data (left - (piece.length + 1))
      let (pieces, progress) := chunksIn next (buffer.drop (piece.length + 1))
      ((b :: piece) :: pieces, progress)
  | .lineEnd left =>
    match h : buffer.take left.length with
    | [] => ([], .waiting (.lineEnd left) buffer)
    | b :: piece =>
      have : (buffer.drop (piece.length + 1)).length < buffer.length := by
        have := congrArg List.length h
        simp only [List.length_take, List.length_cons] at this
        simp only [List.length_drop]
        omega
      if b :: piece != left.take (piece.length + 1) then ([], .broken)
      else if piece.length + 1 == left.length then
        chunksIn .size (buffer.drop (piece.length + 1))
      else ([], .waiting (.lineEnd (left.drop (piece.length + 1))) [])
  | .trailer =>
    match lines? buffer with
    | none => ([], .waiting .trailer buffer)
    | some (lines, rest) => ([], if (fields? lines).isSome then .ended rest else .broken)
termination_by buffer.length

def chunked (failure : Option LinkFault) :
    (coming : List Bytes) → Place → (buffer : Bytes) → Body
  | coming, place, buffer =>
    let (pieces, progress) := chunksIn place buffer
    let body : Body :=
      match progress with
      | .ended rest => ⟨[], none, rest, coming⟩
      | .broken => broken .remoteProtocol coming
      | .waiting place buffer =>
        if maxWaiting < buffer.length then broken .remoteProtocol coming
        else
          match coming with
          | [] => broken (failure.getD .remoteProtocol) []
          | part :: coming =>
            if part.isEmpty then broken .remoteProtocol coming
            else chunked failure coming place (buffer ++ part)
    { body with pieces := pieces ++ body.pieces }

def receive (framing : Framing) (failure : Option LinkFault) (coming : List Bytes)
    (buffer : Bytes) : Body :=
  match framing with
  | .counted length => counted failure coming length buffer
  | .chunked => chunked failure coming .size buffer
  | .untilClosed => untilClosed failure coming buffer

end Body

end MmsHttp.Wire
