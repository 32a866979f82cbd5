/-!
Double-precision numbers as exact values. A finite number is a mantissa times a power
of two; whatever a calculation gives exactly is rounded once, to the nearest such
value and to the even one of two that are equally near. Everything here is natural
number arithmetic, so a rounding can be computed in a proof.
-/

namespace MmsHttp

/-- A double-precision number. The mantissa of a finite one is below two to the 53rd,
and it is at least half of that unless the exponent is the least one, -1074. -/
inductive Binary64 where
  | finite (negative : Bool) (mantissa : Nat) (exponent : Int)
  | infinite (negative : Bool)
  | nan
  deriving Repr, DecidableEq, Inhabited

namespace Binary64

def leastExponent : Int := -1074

def greatestExponent : Int := 971

def powerOfTwo (e : Int) : Nat × Nat :=
  if 0 ≤ e then (Nat.pow 2 e.toNat, 1) else (1, Nat.pow 2 (-e).toNat)

/-- The whole number nearest to a quotient; a half goes to the even neighbour. -/
def roundQuotient (num den : Nat) : Nat :=
  let q := num / den
  let twice := 2 * (num % den)
  if twice > den || (twice == den && q % 2 == 1) then q + 1 else q

def scaledDown (num den : Nat) (e : Int) : Nat × Nat :=
  let (up, down) := powerOfTwo e
  (num * down, den * up)

/-- The exponent at which a positive quotient has a mantissa of full length, or the
least exponent if that is greater. -/
def exponentFor (num den : Nat) : Int :=
  let guess : Int := (Nat.log2 num : Int) - (Nat.log2 den : Int) - 52
  let (n, d) := scaledDown num den guess
  let exact := if n / d < Nat.pow 2 52 then guess - 1 else guess
  max exact leastExponent

/-- The double nearest to a quotient, infinite if that is past the greatest one. -/
def ofRatio (negative : Bool) (num den : Nat) : Binary64 :=
  if num == 0 then .finite negative 0 leastExponent
  else
    let e := exponentFor num den
    let (n, d) := scaledDown num den e
    let m := roundQuotient n d
    let (m, e) := if m == Nat.pow 2 53 then (Nat.pow 2 52, e + 1) else (m, e)
    if e > greatestExponent then .infinite negative else .finite negative m e

/-- The double nearest to an integer, infinite if there is none in range. -/
def ofInt (n : Int) : Binary64 :=
  ofRatio (n < 0) n.natAbs 1

/-- The magnitude of a finite number as a quotient. -/
def magnitude (mantissa : Nat) (exponent : Int) : Nat × Nat :=
  let (up, down) := powerOfTwo exponent
  (mantissa * up, down)

/-- The double nearest to a finite number divided by a positive whole number. -/
def divideBy (x : Binary64) (divisor : Nat) : Binary64 :=
  match x with
  | .finite negative m e =>
    let (num, den) := magnitude m e
    ofRatio negative num (den * divisor)
  | other => other

/-- The value of a decimal `digits * 10 ^ exponent`, rounded. Exponents far outside the
range are cut off first: they give zero or infinity whatever the digits are. -/
def ofDecimal (negative : Bool) (digits : Nat) (exponent : Int) : Binary64 :=
  let size : Int := (Nat.toDigits 10 digits).length
  if digits == 0 then .finite negative 0 leastExponent
  else if exponent + size > 400 then .infinite negative
  else if exponent + size < -400 then .finite negative 0 leastExponent
  else if 0 ≤ exponent then ofRatio negative (digits * Nat.pow 10 exponent.toNat) 1
  else ofRatio negative digits (Nat.pow 10 (-exponent).toNat)

/-- The integer that a number is, if it is whole. -/
def toInt? : Binary64 → Option Int
  | .finite negative m e =>
    let (num, den) := magnitude m e
    if num % den == 0 then
      some (if negative then -(num / den : Int) else (num / den : Int))
    else none
  | _ => none

/-- The whole thousandths of a number that is not negative, if it is finite. -/
def toThousandths? : Binary64 → Option Nat
  | .finite negative m e =>
    let (num, den) := magnitude m e
    some (if negative then 0 else num * 1000 / den)
  | _ => none

def isPositive : Binary64 → Bool
  | .finite negative m _ => !negative && m != 0
  | .infinite negative => !negative
  | .nan => false

end Binary64

end MmsHttp
