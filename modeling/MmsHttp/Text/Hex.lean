namespace MmsHttp.Text

def hexDigit? (c : Char) : Option Nat :=
  if '0' ≤ c ∧ c ≤ '9' then some (c.toNat - 48)
  else if 'A' ≤ c ∧ c ≤ 'F' then some (c.toNat - 55)
  else if 'a' ≤ c ∧ c ≤ 'f' then some (c.toNat - 87)
  else none

/-- The number that hexadecimal digits write, most significant first; other
characters count as zero. -/
def hexValue (digits : List Char) : Nat :=
  digits.foldl (fun n c => n * 16 + (hexDigit? c).getD 0) 0

def hexDigit (n : Nat) : Char :=
  if n < 10 then Char.ofNat (48 + n) else Char.ofNat (87 + n)

def hexText : (width : Nat) → Nat → List Char
  | 0, _ => []
  | width + 1, n => hexText width (n / 16) ++ [hexDigit (n % 16)]

def hexCapital (n : Nat) : Char :=
  if n < 10 then Char.ofNat (48 + n) else Char.ofNat (55 + n)

def hexNumber (n : Nat) : List Char :=
  (Nat.toDigits 16 n)

end MmsHttp.Text
