import MmsHttp.Text.Bytes

namespace MmsHttp.Base64

def digit (n : Nat) : Char :=
  if n < 26 then Char.ofNat (65 + n)
  else if n < 52 then Char.ofNat (97 + (n - 26))
  else if n < 62 then Char.ofNat (48 + (n - 52))
  else if n == 62 then '+'
  else '/'

/-- Base64 text of a run of bytes, four characters for every three bytes. -/
def encode : Bytes → List Char
  | [] => []
  | [a] =>
    let n := a.toNat * 65536
    [digit (n / 262144), digit (n / 4096 % 64), '=', '=']
  | [a, b] =>
    let n := a.toNat * 65536 + b.toNat * 256
    [digit (n / 262144), digit (n / 4096 % 64), digit (n / 64 % 64), '=']
  | a :: b :: c :: rest =>
    let n := a.toNat * 65536 + b.toNat * 256 + c.toNat
    digit (n / 262144) :: digit (n / 4096 % 64) :: digit (n / 64 % 64) :: digit (n % 64) ::
      encode rest

def value? (c : Char) : Option Nat :=
  if 'A' ≤ c ∧ c ≤ 'Z' then some (c.toNat - 65)
  else if 'a' ≤ c ∧ c ≤ 'z' then some (c.toNat - 97 + 26)
  else if '0' ≤ c ∧ c ≤ '9' then some (c.toNat - 48 + 52)
  else if c == '+' then some 62
  else if c == '/' then some 63
  else none

/-- The bytes that a Base64 text writes; padding may stand only in the last group,
and the bits it leaves over must be zero. -/
def decode? : List Char → Option Bytes
  | [] => some []
  | [a, b, '=', '='] => do
    let a ← value? a
    let b ← value? b
    if b % 16 == 0 then some [(a * 4 + b / 16).toUInt8] else none
  | [a, b, c, '='] => do
    let a ← value? a
    let b ← value? b
    let c ← value? c
    if c % 4 == 0 then some [(a * 4 + b / 16).toUInt8, (b % 16 * 16 + c / 4).toUInt8] else none
  | a :: b :: c :: d :: rest => do
    let a ← value? a
    let b ← value? b
    let c ← value? c
    let d ← value? d
    let bytes ← decode? rest
    some ((a * 4 + b / 16).toUInt8 :: (b % 16 * 16 + c / 4).toUInt8 ::
      (c % 4 * 64 + d).toUInt8 :: bytes)
  | _ => none

end MmsHttp.Base64
