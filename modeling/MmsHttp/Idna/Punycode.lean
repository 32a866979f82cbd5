import MmsHttp.Text.Hex

/-!
Punycode: code points beyond ASCII written with ASCII letters and digits. The basic
characters come first; each further one is an insertion, coded as the distance from
the insertion before it in a number system whose digits adapt to the distances.
-/

namespace MmsHttp.Idna.Punycode

/-- The weight bound of the digit at a position, under a bias. -/
def threshold (position bias : Nat) : Nat :=
  min 26 (max 1 (36 * (position + 1) - bias))

/-- Halves a distance until it is small, counting the digits that it needs. -/
def adaptLoop (delta divisions : Nat) : Nat :=
  if 455 < delta then adaptLoop (delta / 35) (divisions + 36)
  else divisions + 36 * delta / (delta + 38)
termination_by delta
decreasing_by omega

/-- The bias after an insertion, the first of which is damped. -/
def adapt (delta : Nat) (first : Bool) (length : Nat) : Nat :=
  let delta := if first then delta / 700 else delta / 2
  adaptLoop (delta + delta / length) 0

/-- The character for a digit: letters first, then figures. -/
def digit (n : Nat) : Char :=
  if n < 26 then Char.ofNat (97 + n) else Char.ofNat (22 + n)

def digitValue? (c : Char) : Option Nat :=
  if 'A' ≤ c ∧ c ≤ 'Z' then some (c.toNat - 65)
  else if 'a' ≤ c ∧ c ≤ 'z' then some (c.toNat - 97)
  else if '0' ≤ c ∧ c ≤ '9' then some (c.toNat - 22)
  else none

theorem threshold_pos (position bias : Nat) : 1 ≤ threshold position bias := by
  unfold threshold
  omega

def encodeDelta (bias position q : Nat) : List Char :=
  let t := threshold position bias
  if q < t then [digit q]
  else digit (t + (q - t) % (36 - t)) :: encodeDelta bias (position + 1) ((q - t) / (36 - t))
termination_by q
decreasing_by
  have := threshold_pos position bias
  have low : threshold position bias ≤ 26 := by unfold threshold; omega
  have := Nat.div_le_self (q - threshold position bias) (36 - threshold position bias)
  omega

/-- What an encoder carries from one insertion to the next. -/
structure Encoding where
  delta : Nat
  handled : Nat
  bias : Nat
  text : List Char

/-- Passes one character of the input while the insertions of `code` are written. -/
def Encoding.pass (basic code : Nat) (s : Encoding) (c : Nat) : Encoding :=
  if c < code then { s with delta := s.delta + 1 }
  else if c == code then
    { delta := 0
      handled := s.handled + 1
      bias := adapt s.delta (s.handled == basic) (s.handled + 1)
      text := s.text ++ encodeDelta s.bias 0 s.delta }
  else s

/-- Writes the insertions of the code points in a rising list. -/
def encodeFrom (input : List Nat) (basic : Nat) : (least : Nat) → List Nat → Encoding → Encoding
  | _, [], s => s
  | least, code :: codes, s =>
    let s := { s with delta := s.delta + (code - least) * (s.handled + 1) }
    let s := input.foldl (Encoding.pass basic code) s
    encodeFrom input basic (code + 1) codes { s with delta := s.delta + 1 }

def insertRising (n : Nat) : List Nat → List Nat
  | [] => [n]
  | m :: ms => if n < m then n :: m :: ms else if n == m then m :: ms else m :: insertRising n ms

def encode (codes : List Nat) : List Char :=
  let basic := codes.filter (· < 128)
  let others := (codes.filter (128 ≤ ·)).foldl (fun found n => insertRising n found) []
  let start := basic.map Char.ofNat ++ (if basic.isEmpty then [] else ['-'])
  start ++ (encodeFrom codes basic.length 128 others ⟨0, basic.length, 72, []⟩).text

/-- Reads a distance: its value and the digits after it. -/
def decodeDelta (bias : Nat) : (position weight value : Nat) → List Char → Option (Nat × List Char)
  | _, _, _, [] => none
  | position, weight, value, c :: rest =>
    match digitValue? c with
    | none => none
    | some d =>
      let t := threshold position bias
      let value := value + d * weight
      if d < t then some (value, rest)
      else decodeDelta bias (position + 1) (weight * (36 - t)) value rest

theorem decodeDelta_shorter {bias position weight value : Nat} {cs rest : List Char} {n : Nat}
    (h : decodeDelta bias position weight value cs = some (n, rest)) :
    rest.length < cs.length := by
  induction cs generalizing position weight value with
  | nil => cases h
  | cons c cs ih =>
      unfold decodeDelta at h
      split at h
      · cases h
      · simp only at h
        split at h
        · cases h
          simp
        · have := ih h
          simp only [List.length_cons]
          omega

/-- Makes the insertions that the digits code. `place` counts code points and places
together; it stands one past the place of the last insertion. -/
def insertAll (digits : List Char) (code place bias : Nat) (first : Bool)
    (codes : List Nat) : Option (List Nat) :=
  if digits.isEmpty then some codes
  else
    match found : decodeDelta bias 0 1 0 digits with
    | none => none
    | some (delta, rest) =>
      have := decodeDelta_shorter found
      let size := codes.length + 1
      let place := place + delta
      let code := code + place / size
      if 0x10FFFF < code then none
      else
        let spot := place % size
        insertAll rest code (spot + 1) (adapt delta first size) false
          (codes.take spot ++ code :: codes.drop spot)
termination_by digits.length

def decode? (cs : List Char) : Option (List Nat) :=
  match cs.reverse.dropWhile (· != '-') with
  | [] => insertAll cs 128 0 72 true []
  | _ :: basic =>
    insertAll ((cs.reverse.takeWhile (· != '-')).reverse) 128 0 72 true
      (basic.reverse.map Char.toNat)

end MmsHttp.Idna.Punycode
