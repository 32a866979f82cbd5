import MmsHttp.Proofs.Text.Ascii
import MmsHttp.Text.Base64

/-!
Base64 texts. Bytes are written with the digits of one alphabet, in groups of four that padding
fills up, and a text is read as bytes exactly if it is what these bytes are written as.
-/

namespace MmsHttp.Base64

open Text

def alphabet : List Char :=
  "ABCDEFGHIJKLMNOPQRSTUVWXYZabcdefghijklmnopqrstuvwxyz0123456789+/".toList

/-- A text of as many groups of four as so many bytes make groups of three: digits, and behind
them a padding sign for each byte that the last group lacks. -/
structure Padded (size : Nat) (cs : List Char) : Prop where
  length : cs.length = 4 * ((size + 2) / 3)
  text : ∃ digits, (∀ c ∈ digits, c ∈ alphabet) ∧
    cs = digits ++ List.replicate ((3 - size % 3) % 3) '='

/-- What holds of the digits and of the padding sign holds of the whole text. -/
theorem Padded.forall_mem {P : Char → Prop} {size : Nat} {cs : List Char} (h : Padded size cs)
    (hdigit : ∀ c ∈ alphabet, P c) (hpadding : P '=') : ∀ c ∈ cs, P c := by
  obtain ⟨digits, hdigits, rfl⟩ := h.text
  intro c hc
  rcases List.mem_append.mp hc with hmem | hmem
  · exact hdigit c (hdigits c hmem)
  · exact List.forall_mem_replicate.mpr (.inr hpadding) c hmem

section Digit

variable {n : Nat}

/-- The value of a digit is its place in the alphabet. -/
theorem alphabet_digit (h : n < 64) : alphabet[n]? = some (digit n) := by
  have hall : ∀ n : Fin 64, alphabet[n.val]? = some (digit n) := by decide +kernel
  exact hall ⟨n, h⟩

theorem digit_mem_alphabet (n : Nat) : digit n ∈ alphabet := by
  by_cases h : n < 64
  · exact List.mem_of_getElem? (alphabet_digit h)
  · have hlast : digit n = '/' := by
      unfold digit
      rw [if_neg (by omega), if_neg (by omega), if_neg (by omega), if_neg (by simp; omega)]
    rw [hlast]
    decide

theorem value?_digit (h : n < 64) : value? (digit n) = some n := by
  have hall : ∀ n : Fin 64, value? (digit n) = some n.val := by decide
  exact hall ⟨n, h⟩

theorem digit_ne_padding (h : n < 64) : digit n ≠ '=' := by
  intro hpadding
  have hnone : value? '=' = none := by decide
  rw [← hpadding, value?_digit h] at hnone
  cases hnone

theorem value?_eq_none {c : Char} (h : 128 ≤ c.toNat) : value? c = none := by
  have hrange {low high : Char} (hhigh : high.toNat < 128) : ¬ (low ≤ c ∧ c ≤ high) := by
    intro hc
    have hle : c.toNat ≤ high.toNat := hc.2
    omega
  have hsign {sign : Char} (hsmall : sign.toNat < 128) : ¬ (c == sign) = true := by
    rw [beq_iff_eq]
    rintro rfl
    omega
  rw [value?, if_neg (hrange (by decide)), if_neg (hrange (by decide)),
    if_neg (hrange (by decide)), if_neg (hsign (by decide)), if_neg (hsign (by decide))]

theorem digit_value {c : Char} (h : value? c = some n) : n < 64 ∧ digit n = c := by
  have hsmall : c.toNat < 128 := by
    apply Nat.lt_of_not_le
    intro hlarge
    rw [value?_eq_none hlarge] at h
    cases h
  have hdigit := forall_ascii
    (P := fun c => (value? c).all (fun n => n < 64 && digit n == c) = true) (by decide +kernel)
    hsmall
  rw [h] at hdigit
  simpa using hdigit

end Digit

section Group

variable {p q r s : Nat}

theorem decode?_digits (hp : p < 64) (hq : q < 64) (hr : r < 64) (hs : s < 64)
    (rest : List Char) :
    decode? (digit p :: digit q :: digit r :: digit s :: rest) =
      (decode? rest).map fun bytes =>
        (p * 4 + q / 16).toUInt8 :: (q % 16 * 16 + r / 4).toUInt8 :: (r % 4 * 64 + s).toUInt8 ::
          bytes := by
  rw [decode?]
  · simp only [value?_digit, hp, hq, hr, hs, Option.bind_eq_bind, Option.bind_some]
    cases decode? rest <;> rfl
  · exact fun hpadding _ _ => digit_ne_padding hr hpadding
  · exact fun hpadding _ => digit_ne_padding hs hpadding

theorem decode?_padding (hp : p < 64) (hq : q < 64) (hspare : q % 16 = 0) :
    decode? [digit p, digit q, '=', '='] = some [(p * 4 + q / 16).toUInt8] := by
  simp [decode?, value?_digit, hp, hq, hspare]

theorem decode?_digit_padding (hp : p < 64) (hq : q < 64) (hr : r < 64) (hspare : r % 4 = 0) :
    decode? [digit p, digit q, digit r, '='] =
      some [(p * 4 + q / 16).toUInt8, (q % 16 * 16 + r / 4).toUInt8] := by
  rw [decode?]
  · simp [value?_digit, hp, hq, hr, hspare]
  · exact fun hpadding => digit_ne_padding hr hpadding

/-- Four digits are told apart again in the number that they make up. -/
theorem digits_of_number {n : Nat} (hn : n = p * 262144 + q * 4096 + r * 64 + s) (hq : q < 64)
    (hr : r < 64) (hs : s < 64) :
    n / 262144 = p ∧ n / 4096 % 64 = q ∧ n / 64 % 64 = r ∧ n % 64 = s := by
  omega

end Group

/-- What is written is read back. -/
theorem decode?_encode (bytes : Bytes) : decode? (encode bytes) = some bytes := by
  have hbyte {m : Nat} {b : UInt8} (h : m = b.toNat) : m.toUInt8 = b := by
    rw [h]
    exact UInt8.ofNat_toNat
  fun_induction encode bytes with
  | case1 => rfl
  | case2 a n =>
      have ha := a.toNat_lt
      rw [decode?_padding (by omega) (by omega) (by omega), hbyte]
      omega
  | case3 a b n =>
      have ha := a.toNat_lt
      have hb := b.toNat_lt
      rw [decode?_digit_padding (by omega) (by omega) (by omega) (by omega), hbyte, hbyte] <;> omega
  | case4 a b c rest n ih =>
      have ha := a.toNat_lt
      have hb := b.toNat_lt
      have hc := c.toNat_lt
      rw [decode?_digits (by omega) (by omega) (by omega) (by omega), ih, Option.map_some, hbyte,
        hbyte, hbyte] <;> omega

/-- Nothing else is read: no sign outside the alphabet, no other padding and no spare bits. -/
theorem encode_of_decode? {cs : List Char} {bytes : Bytes} (h : decode? cs = some bytes) :
    cs = encode bytes := by
  have hbyte {n : Nat} (h : n < 256) : n.toUInt8.toNat = n := UInt8.toNat_ofNat_of_lt' h
  fun_induction decode? cs generalizing bytes with
  | case1 =>
      obtain rfl := Option.some.inj h
      rfl
  | case2 a b =>
      simp only [Option.bind_eq_bind, Option.bind_eq_some_iff, Option.ite_none_right_eq_some,
        beq_iff_eq] at h
      obtain ⟨p, hpvalue, q, hqvalue, hspare, hbytes⟩ := h
      obtain ⟨hp, rfl⟩ := digit_value hpvalue
      obtain ⟨hq, rfl⟩ := digit_value hqvalue
      obtain rfl := Option.some.inj hbytes
      have hn : (p * 4 + q / 16) * 65536 = p * 262144 + q * 4096 + 0 * 64 + 0 := by omega
      obtain ⟨hfirst, hsecond, -, -⟩ := digits_of_number hn hq (by decide) (by decide)
      rw [encode, hbyte (by omega), hfirst, hsecond]
  | case3 a b c hdigit =>
      simp only [Option.bind_eq_bind, Option.bind_eq_some_iff, Option.ite_none_right_eq_some,
        beq_iff_eq] at h
      obtain ⟨p, hpvalue, q, hqvalue, r, hrvalue, hspare, hbytes⟩ := h
      obtain ⟨hp, rfl⟩ := digit_value hpvalue
      obtain ⟨hq, rfl⟩ := digit_value hqvalue
      obtain ⟨hr, rfl⟩ := digit_value hrvalue
      obtain rfl := Option.some.inj hbytes
      have hn : (p * 4 + q / 16) * 65536 + (q % 16 * 16 + r / 4) * 256 =
          p * 262144 + q * 4096 + r * 64 + 0 := by omega
      obtain ⟨hfirst, hsecond, hthird, -⟩ := digits_of_number hn hq hr (by decide)
      rw [encode, hbyte (by omega), hbyte (by omega), hfirst, hsecond, hthird]
  | case4 a b c d rest hdigit hlast ih =>
      simp only [Option.bind_eq_bind, Option.bind_eq_some_iff] at h
      obtain ⟨p, hpvalue, q, hqvalue, r, hrvalue, s, hsvalue, more, hmore, hbytes⟩ := h
      obtain ⟨hp, rfl⟩ := digit_value hpvalue
      obtain ⟨hq, rfl⟩ := digit_value hqvalue
      obtain ⟨hr, rfl⟩ := digit_value hrvalue
      obtain ⟨hs, rfl⟩ := digit_value hsvalue
      obtain rfl := Option.some.inj hbytes
      have hn : (p * 4 + q / 16) * 65536 + (q % 16 * 16 + r / 4) * 256 + (r % 4 * 64 + s) =
          p * 262144 + q * 4096 + r * 64 + s := by omega
      obtain ⟨hfirst, hsecond, hthird, hfourth⟩ := digits_of_number hn hq hr hs
      rw [encode, hbyte (by omega), hbyte (by omega), hbyte (by omega), hfirst, hsecond, hthird,
        hfourth, ← ih hmore]
  | case5 => cases h

theorem decode?_eq_some_iff {cs : List Char} {bytes : Bytes} :
    decode? cs = some bytes ↔ cs = encode bytes := by
  constructor
  · exact encode_of_decode?
  · rintro rfl
    exact decode?_encode bytes

/-- Bytes are written in whole groups, with padding for those that the last one lacks. -/
theorem padded_encode (bytes : Bytes) : Padded bytes.length (encode bytes) := by
  fun_induction encode bytes with
  | case1 => exact ⟨rfl, [], nofun, rfl⟩
  | case2 a n =>
      exact ⟨by simp, [digit (n / 262144), digit (n / 4096 % 64)], by simp [digit_mem_alphabet],
        rfl⟩
  | case3 a b n =>
      exact ⟨by simp, [digit (n / 262144), digit (n / 4096 % 64), digit (n / 64 % 64)],
        by simp [digit_mem_alphabet], rfl⟩
  | case4 a b c rest n ih =>
      obtain ⟨hlength, digits, hdigits, htext⟩ := ih
      have hsize : (a :: b :: c :: rest).length = rest.length + 3 := rfl
      refine ⟨?_, digit (n / 262144) :: digit (n / 4096 % 64) :: digit (n / 64 % 64) ::
        digit (n % 64) :: digits, ?_, ?_⟩
      · simp only [List.length_cons, hlength]
        omega
      · simpa [digit_mem_alphabet] using hdigits
      · rw [hsize, Nat.add_mod_right, htext]
        rfl

end MmsHttp.Base64
