import MmsHttp.Coding.Checksum
import MmsHttp.Coding.Inflate

/-!
Compressed streams in their containers. Each reader takes the beginning of a stream that
has arrived so far and says what it unpacks to and whether the stream is over, broken or
still going on. What follows the end of a stream is ignored.
-/

namespace MmsHttp.Coding

/-- Where a stream stands. -/
inductive Progress where
  | open
  | broken
  | closed
  deriving DecidableEq, Repr

/-- What the beginning of a stream unpacks to. -/
structure Unpacked where
  output : Bytes
  progress : Progress

inductive Container where
  | raw
  | zlib
  | gzip
  deriving DecidableEq, Repr

namespace Container

/-- The header of a zlib stream: two bytes that give the method and the window and are
together divisible by 31; a stream that needs a dictionary cannot be read. -/
def zlibHeader (bits : Bits) : Step Unit :=
  (readBits 16 bits).andThen fun n rest =>
    let first := n % 256
    let second := n / 256
    if (first * 256 + second) % 31 != 0 then .wrong
    else if first % 16 != 8 || first / 16 > 7 then .wrong
    else if second / 32 % 2 == 1 then (readBits 32 rest).andThen fun _ _ => .wrong
    else .done () rest

/-- Reads bytes up to a zero byte, if it is among the next ones. -/
def skipTextWithin : (steps : Nat) → Bits → Step Unit
  | 0, _ => .more
  | steps + 1, bits =>
    (readBits 8 bits).andThen fun n rest =>
      if n == 0 then .done () rest else skipTextWithin steps rest

def skipText (bits : Bits) : Step Unit :=
  skipTextWithin (bits.length + 1) bits

def skipBytes : (count : Nat) → Bits → Step Unit
  | 0, bits => .done () bits
  | count + 1, bits => (readBits 8 bits).andThen fun _ rest => skipBytes count rest

def skipField (bits : Bits) : Step Unit :=
  (readBits 16 bits).andThen fun size rest => skipBytes size rest

/-- Goes on after a part that is there only if a flag is set. -/
def optionally (there : Bool) (part : Bits → Step Unit) (bits : Bits) : Step Unit :=
  if there then part bits else .done () bits

/-- The header of a gzip stream, with its optional parts. Its own checksum, if it has
one, covers all the bytes before it. -/
def gzipHeader (input : Bytes) (bits : Bits) : Step Unit :=
  (readBits 16 bits).andThen fun magic rest =>
    if magic != 0x8B1F then .wrong
    else
      (readBits 16 rest).andThen fun n rest =>
        let flags := n / 256
        if n % 256 != 8 || flags / 32 != 0 then .wrong
        else
          (readBits 48 rest).andThen fun _ rest =>
            (optionally (flags / 4 % 2 == 1) skipField rest).andThen fun _ rest =>
            (optionally (flags / 8 % 2 == 1) skipText rest).andThen fun _ rest =>
            (optionally (flags / 16 % 2 == 1) skipText rest).andThen fun _ rest =>
            optionally (flags / 2 % 2 == 1)
              (fun bits => (readBits 16 bits).andThen fun sum rest =>
                let covered := input.take (input.length - bits.length / 8)
                if crc32 covered % 65536 != sum then .wrong else .done () rest)
              rest

def swapBytes (n : Nat) : Nat :=
  (n % 256) * 16777216 + (n / 256 % 256) * 65536 + (n / 65536 % 256) * 256 + n / 16777216

def zlibTrailer (output : Bytes) (bits : Bits) : Step Unit :=
  (readBits 32 (align bits)).andThen fun n rest =>
    if swapBytes n != adler32 output then .wrong else .done () rest

def gzipTrailer (output : Bytes) (bits : Bits) : Step Unit :=
  (readBits 32 (align bits)).andThen fun sum rest =>
    if sum != crc32 output then .wrong
    else
      (readBits 32 rest).andThen fun size rest =>
        if size != output.length % 4294967296 then .wrong else .done () rest

/-- Where a stream stands after a step that gives nothing. -/
def progressOf : Step Unit → Progress
  | .more => .open
  | .wrong => .broken
  | .done _ _ => .closed

def unpack (container : Container) (input : Bytes) : Unpacked :=
  let bits := toBits input
  let header : Step Unit :=
    match container with
    | raw => .done () bits
    | zlib => zlibHeader bits
    | gzip => gzipHeader input bits
  match header with
  | .done _ body =>
    match inflate body with
    | .more out => ⟨out.toList, .open⟩
    | .wrong out => ⟨out.toList, .broken⟩
    | .done out rest =>
      let output := out.toList
      let trailer : Step Unit :=
        match container with
        | raw => .done () rest
        | zlib => zlibTrailer output rest
        | gzip => gzipTrailer output rest
      ⟨output, progressOf trailer⟩
  | other => ⟨[], progressOf other⟩

end Container

end MmsHttp.Coding
