import MmsHttp.Coding.Huffman
import MmsHttp.Text.Bytes

/-!
Inflation. The input may be any beginning of a compressed stream: whatever its bits
already determine is put out, and a violation is found with the first bit that shows it.
-/

namespace MmsHttp.Coding

/-- What reading a part of a stream comes to. -/
inductive Step (α : Type) where
  | more
  | wrong
  | done (value : α) (rest : Bits)

namespace Step

def andThen {α β : Type} (s : Step α) (next : α → Bits → Step β) : Step β :=
  match s with
  | .more => .more
  | .wrong => .wrong
  | .done value rest => next value rest

end Step

def byteBits (b : UInt8) : Bits :=
  (List.range 8).map fun i => b.toNat / Nat.pow 2 i % 2 == 1

def toBits (bytes : Bytes) : Bits :=
  bytes.flatMap byteBits

def ofBits (bits : Bits) : Nat :=
  bits.foldr (fun bit n => (if bit then 1 else 0) + 2 * n) 0

def readBits (count : Nat) (bits : Bits) : Step Nat :=
  let taken := bits.take count
  if taken.length == count then .done (ofBits taken) (bits.drop count) else .more

def readSymbol (code : Code) (bits : Bits) : Step Nat :=
  match code.read bits with
  | .more => .more
  | .wrong => .wrong
  | .symbol n rest => .done n rest

/-- Bases and extra bits of the lengths that symbols from 257 on stand for. -/
def lengthBases : List (Nat × Nat) :=
  [(3, 0), (4, 0), (5, 0), (6, 0), (7, 0), (8, 0), (9, 0), (10, 0), (11, 1), (13, 1), (15, 1),
    (17, 1), (19, 2), (23, 2), (27, 2), (31, 2), (35, 3), (43, 3), (51, 3), (59, 3), (67, 4),
    (83, 4), (99, 4), (115, 4), (131, 5), (163, 5), (195, 5), (227, 5), (258, 0)]

/-- Bases and extra bits of the distances that symbols stand for. -/
def distanceBases : List (Nat × Nat) :=
  [(1, 0), (2, 0), (3, 0), (4, 0), (5, 1), (7, 1), (9, 2), (13, 2), (17, 3), (25, 3), (33, 4),
    (49, 4), (65, 5), (97, 5), (129, 6), (193, 6), (257, 7), (385, 7), (513, 8), (769, 8),
    (1025, 9), (1537, 9), (2049, 10), (3073, 10), (4097, 11), (6145, 11), (8193, 12),
    (12289, 12), (16385, 13), (24577, 13)]

/-- Reads the number that a symbol stands for, with its extra bits. -/
def readValue (bases : List (Nat × Nat)) (symbol : Nat) (bits : Bits) : Step Nat :=
  match bases[symbol]? with
  | none => .wrong
  | some (base, extra) => (readBits extra bits).andThen fun n rest => .done (base + n) rest

/-- Repeats `count` bytes from `distance` bytes back, which may reach into what is being
repeated. -/
def repeatBack (out : Array UInt8) (distance : Nat) : (count : Nat) → Array UInt8
  | 0 => out
  | count + 1 => repeatBack (out.push (out.getD (out.size - distance) 0)) distance count

/-- Where a block stands after a step, with the output so far. -/
inductive Block where
  | more (out : Array UInt8)
  | wrong (out : Array UInt8)
  | done (out : Array UInt8) (rest : Bits)

/-- Reads the symbols of a compressed block. Every symbol takes a bit, so as many steps
as there are bits suffice. -/
def readBlock (literals distances : Code) : (steps : Nat) → Bits → Array UInt8 → Block
  | 0, _, out => .more out
  | steps + 1, bits, out =>
    match readSymbol literals bits with
    | .more => .more out
    | .wrong => .wrong out
    | .done symbol rest =>
      if symbol < 256 then readBlock literals distances steps rest (out.push symbol.toUInt8)
      else if symbol == 256 then .done out rest
      else
        let pair := (readValue lengthBases (symbol - 257) rest).andThen fun length rest =>
          (readSymbol distances rest).andThen fun symbol rest =>
            (readValue distanceBases symbol rest).andThen fun distance rest =>
              if out.size < distance then .wrong else .done (length, distance) rest
        match pair with
        | .more => .more out
        | .wrong => .wrong out
        | .done (length, distance) rest =>
          readBlock literals distances steps rest (repeatBack out distance length)

def fixedLiterals : List Nat :=
  List.replicate 144 8 ++ List.replicate 112 9 ++ List.replicate 24 7 ++ List.replicate 8 8

def fixedDistances : List Nat :=
  List.replicate 32 5

/-- The order in which the word lengths of the code for word lengths come. -/
def lengthOrder : List Nat :=
  [16, 17, 18, 0, 8, 7, 9, 6, 10, 5, 11, 4, 12, 3, 13, 2, 14, 1, 15]

/-- Reads `count` numbers of three bits, the last one read coming first. -/
def readTriples : (count : Nat) → List Nat → Bits → Step (List Nat)
  | 0, found, bits => .done found bits
  | count + 1, found, bits =>
    (readBits 3 bits).andThen fun n rest => readTriples count (n :: found) rest

/-- Reads word lengths, the last one read coming first, until there are `total`. -/
def readLengths (code : Code) (total : Nat) :
    (steps : Nat) → List Nat → Bits → Step (List Nat)
  | 0, _, _ => .more
  | steps + 1, found, bits =>
    if total ≤ found.length then .done found bits
    else
      (readSymbol code bits).andThen fun symbol rest =>
        if symbol < 16 then readLengths code total steps (symbol :: found) rest
        else
          let (extra, base) :=
            if symbol == 16 then (2, 3) else if symbol == 17 then (3, 3) else (7, 11)
          (readBits extra rest).andThen fun n rest =>
            let again := if symbol == 16 then found.head? else some 0
            match again with
            | none => .wrong
            | some length =>
              if total < found.length + base + n then .wrong
              else readLengths code total steps (List.replicate (base + n) length ++ found) rest

/-- Reads the two codes of a block that brings its own. -/
def readCodes (bits : Bits) : Step (Code × Code) :=
  (readBits 14 bits).andThen fun sizes rest =>
    let literals := sizes % 32 + 257
    let distances := sizes / 32 % 32 + 1
    let lengths := sizes / 1024 + 4
    if literals > 286 || distances > 30 then .wrong
    else
      (readTriples lengths [] rest).andThen fun found rest =>
        let given := lengthOrder.zip found.reverse
        let wordLengths := (List.range 19).map fun i =>
          ((given.find? (·.1 == i)).map (·.2)).getD 0
        match Code.ofLengths false wordLengths with
        | none => .wrong
        | some code =>
          (readLengths code (literals + distances) (rest.length + 1) [] rest).andThen
            fun found rest =>
              let all := found.reverse
              let literalLengths := all.take literals
              if literalLengths.getD 256 0 == 0 then .wrong
              else
                match Code.ofLengths true literalLengths,
                    Code.ofLengths true (all.drop literals) with
                | some literals, some distances => .done (literals, distances) rest
                | _, _ => .wrong

def storedBytes : (count : Nat) → Bits → Array UInt8 → Block
  | 0, bits, out => .done out bits
  | count + 1, bits, out =>
    match readBits 8 bits with
    | .done n rest => storedBytes count rest (out.push n.toUInt8)
    | _ => .more out

/-- Drops the bits up to the next byte. A stream is made of whole bytes, so the bits that
are left tell where the next one begins. -/
def align (bits : Bits) : Bits :=
  bits.drop (bits.length % 8)

/-- Reads a stored block: it begins at a byte, with its size given twice. -/
def readStored (bits : Bits) (out : Array UInt8) : Block :=
  match readBits 32 (align bits) with
  | .more => .more out
  | .wrong => .wrong out
  | .done sizes rest =>
    if sizes % 65536 + sizes / 65536 != 65535 then .wrong out
    else storedBytes (sizes % 65536) rest out

/-- Reads blocks up to the last one. Every block takes three bits at least. -/
def readBlocks : (steps : Nat) → Bits → Array UInt8 → Block
  | 0, _, out => .more out
  | steps + 1, bits, out =>
    match readBits 3 bits with
    | .more => .more out
    | .wrong => .wrong out
    | .done header rest =>
      let block :=
        if header / 2 == 0 then readStored rest out
        else if header / 2 == 1 then
          match Code.ofLengths true fixedLiterals, Code.ofLengths true fixedDistances with
          | some literals, some distances =>
            readBlock literals distances (rest.length + 1) rest out
          | _, _ => .wrong out
        else if header / 2 == 2 then
          match readCodes rest with
          | .more => .more out
          | .wrong => .wrong out
          | .done (literals, distances) rest =>
            readBlock literals distances (rest.length + 1) rest out
        else .wrong out
      match block with
      | .done out rest =>
        if header % 2 == 1 then .done out rest else readBlocks steps rest out
      | other => other

def inflate (bits : Bits) : Block :=
  readBlocks (bits.length + 1) bits #[]

end MmsHttp.Coding
