import MmsHttp.Text.Bytes

namespace MmsHttp.Coding

def crcShift (crc : UInt32) : UInt32 :=
  if crc &&& 1 == 1 then (crc >>> 1) ^^^ 0xEDB88320 else crc >>> 1

def crcStep (crc : UInt32) (b : UInt8) : UInt32 :=
  let c := crc ^^^ b.toUInt32
  crcShift (crcShift (crcShift (crcShift (crcShift (crcShift (crcShift (crcShift c)))))))

def crc32 (bytes : Bytes) : Nat :=
  ((bytes.foldl crcStep 0xFFFFFFFF) ^^^ 0xFFFFFFFF).toNat

/-- The two running sums of a run of bytes, as one number. -/
def adler32 (bytes : Bytes) : Nat :=
  let (a, b) := bytes.foldl
    (fun (sums : Nat × Nat) byte =>
      let a := (sums.1 + byte.toNat) % 65521
      (a, (sums.2 + a) % 65521))
    (1, 0)
  b * 65536 + a

end MmsHttp.Coding
