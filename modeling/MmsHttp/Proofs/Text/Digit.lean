import MmsHttp.Text.Digit

namespace MmsHttp.Text

theorem isAsciiDigit_eq_isDigit (c : Char) : isAsciiDigit c = c.isDigit := by
  simp [isAsciiDigit, Char.isDigit, Char.le_def]

theorem toNat_lt_of_isAsciiDigit {c : Char} (h : isAsciiDigit c = true) : c.toNat < 128 := by
  have hle : c.toNat ≤ 57 := by
    rw [isAsciiDigit, Bool.and_eq_true, decide_eq_true_iff, decide_eq_true_iff] at h
    exact h.2
  omega

theorem isAsciiDigit_of_mem_toDigits {n : Nat} {c : Char} (h : c ∈ Nat.toDigits 10 n) :
    isAsciiDigit c = true := by
  rw [isAsciiDigit_eq_isDigit]
  exact Nat.isDigit_of_mem_toDigits (by decide) (by decide) h

theorem decimalValue_toDigits (n : Nat) : decimalValue (Nat.toDigits 10 n) = n := by
  have hvalue : decimalValue (Nat.toDigits 10 n) = Nat.ofDigitChars 10 (Nat.toDigits 10 n) 0 := by
    rw [decimalValue, ofDigits, List.foldl_map, Nat.ofDigitChars]
    simp [Nat.mul_comm]
  rw [hvalue]
  exact Nat.ofDigitChars_ten_toDigits

end MmsHttp.Text
