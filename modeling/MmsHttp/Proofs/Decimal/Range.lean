import Mathlib.Algebra.Group.Nat.Defs
import Mathlib.Order.Lattice
import MmsHttp.Decimal.Binary64

namespace MmsHttp.Binary64

/-- The least natural number for which there is no finite double. -/
def bound : Nat := 2 ^ 1024 - 2 ^ 970

private theorem two_pow_le_scaled {n : Nat} (hn : n ≠ 0) :
    2 ^ 52 ≤ (scaledDown n 1 ((n.log2 : Int) - 52)).1 / (scaledDown n 1 ((n.log2 : Int) - 52)).2 := by
  have hlow : 2 ^ n.log2 ≤ n := Nat.log2_self_le hn
  unfold scaledDown powerOfTwo
  by_cases hlarge : 52 ≤ n.log2
  · rw [if_pos (by omega)]
    have hshift : ((n.log2 : Int) - 52).toNat = n.log2 - 52 := by omega
    simp only [hshift, Nat.mul_one, Nat.one_mul, Nat.pow_eq]
    rw [Nat.le_div_iff_mul_le (Nat.two_pow_pos _), ← Nat.pow_add]
    rwa [Nat.add_sub_cancel' hlarge]
  · rw [if_neg (by omega)]
    have hshift : (-((n.log2 : Int) - 52)).toNat = 52 - n.log2 := by omega
    simp only [hshift, Nat.mul_one, Nat.div_one, Nat.pow_eq]
    calc 2 ^ 52 = 2 ^ n.log2 * 2 ^ (52 - n.log2) := by rw [← Nat.pow_add]; congr 1; omega
      _ ≤ n * 2 ^ (52 - n.log2) := Nat.mul_le_mul_right _ hlow

theorem exponentFor_natural {n : Nat} (hn : n ≠ 0) : exponentFor n 1 = (n.log2 : Int) - 52 := by
  have hone : Nat.log2 1 = 0 := by decide
  have hlead := two_pow_le_scaled hn
  unfold exponentFor
  rw [hone, Int.natCast_zero, Int.sub_zero]
  dsimp only
  rw [if_neg (by simpa using hlead), max_eq_left]
  unfold leastExponent
  omega

/-- A rounded quotient carries over to a power of two from half a step before it on; the
quotient before is odd, so a half goes up. -/
private theorem roundQuotient_eq_iff {n half : Nat} (hn : n < 2 ^ 53 * (2 * half)) :
    roundQuotient n (2 * half) = 2 ^ 53 ↔ 2 ^ 53 * (2 * half) - half ≤ n := by
  have hhalf : 0 < half := by omega
  have hquotient : n / (2 * half) < 2 ^ 53 := (Nat.div_lt_iff_lt_mul (by omega)).mpr hn
  have hsplit := Nat.div_add_mod n (2 * half)
  have hrest := Nat.mod_lt n (show 0 < 2 * half by omega)
  unfold roundQuotient
  simp only [gt_iff_lt, Bool.or_eq_true, Bool.and_eq_true, decide_eq_true_eq, beq_iff_eq]
  by_cases hlast : n / (2 * half) = 2 ^ 53 - 1
  · rw [hlast] at hsplit ⊢
    split <;> omega
  · have hsmall : 2 * half * (n / (2 * half)) ≤ 2 * half * (2 ^ 53 - 2) :=
      Nat.mul_le_mul_left _ (by omega)
    split <;> omega

private theorem scaledDown_natural (n k : Nat) : scaledDown n 1 (k : Int) = (n, 2 ^ k) := by
  simp [scaledDown, powerOfTwo]

/-- A double is infinite if its exponent, after a carry, is past the greatest one. -/
private theorem carried_infinite_iff (negative : Bool) (mantissa : Nat) (exponent : Int) :
    (∃ sign,
      (let (m, e) :=
        if mantissa == 2 ^ 53 then (2 ^ 52, exponent + 1) else (mantissa, exponent)
      if e > greatestExponent then .infinite negative else .finite negative m e) =
        Binary64.infinite sign) ↔
      greatestExponent < exponent ∨ (exponent = greatestExponent ∧ mantissa = 2 ^ 53) := by
  have hinfinite {past : Prop} [Decidable past] (m : Nat) (e : Int) :
      (∃ sign, (if past then .infinite negative else .finite negative m e) =
        Binary64.infinite sign) ↔ past := by
    split
    case isTrue h => simp [h]
    case isFalse h => simp [h]
  by_cases hcarry : mantissa = 2 ^ 53
  · rw [if_pos (beq_iff_eq.mpr hcarry), and_iff_left hcarry]
    refine (hinfinite _ _).trans ?_
    omega
  · rw [if_neg (fun h => hcarry (beq_iff_eq.mp h)), or_iff_left fun h => hcarry h.2]
    exact hinfinite _ _

private theorem bound_iff (n half : Nat) :
    2 ^ 53 * (2 * half) ≤ n ∨
        (2 ^ 52 * (2 * half) ≤ n ∧ n < 2 ^ 53 * (2 * half) ∧
          roundQuotient n (2 * half) = 2 ^ 53) ↔
      2 ^ 53 * (2 * half) - half ≤ n := by
  by_cases hn : n < 2 ^ 53 * (2 * half)
  · rw [roundQuotient_eq_iff hn]
    omega
  · omega

theorem ofRatio_infinite_iff {n : Nat} (hn : n ≠ 0) (negative : Bool) :
    (∃ sign, ofRatio negative n 1 = .infinite sign) ↔ bound ≤ n := by
  -- The step between neighbours at the greatest exponent is twice this.
  obtain ⟨half, hhalf⟩ : ∃ half : Nat, 2 ^ 970 = half := ⟨_, rfl⟩
  have hpower (j : Nat) (hj : 2 ^ j = half) (k e : Nat) (he : e = k + (j + 1)) :
      2 ^ e = 2 ^ k * (2 * half) := by
    rw [he, Nat.pow_add, Nat.pow_succ', hj]
  have hscaled (j : Nat) (hj : 2 ^ j = half) : scaledDown n 1 (j + 1 : Nat) = (n, 2 * half) := by
    rw [scaledDown_natural, Nat.pow_succ', hj]
  have hbinade := hpower 970 hhalf 52 1023 rfl
  have htop := hpower 970 hhalf 53 1024 rfl
  have hgreatest : scaledDown n 1 greatestExponent = (n, 2 * half) := hscaled 970 hhalf
  have hlow (k : Nat) : k ≤ n.log2 ↔ 2 ^ k ≤ n := Nat.le_log2 hn
  have hhigh (k : Nat) : n.log2 < k ↔ n < 2 ^ k := Nat.log2_lt hn
  rw [bound, htop, hhalf, ← bound_iff, ← htop, ← hbinade, ← hlow 1023, ← hhigh 1024, ← hlow 1024]
  unfold ofRatio
  rw [if_neg (by simpa using hn), exponentFor_natural hn]
  refine (carried_infinite_iff negative
    (roundQuotient (scaledDown n 1 ((n.log2 : Int) - 52)).1
      (scaledDown n 1 ((n.log2 : Int) - 52)).2) ((n.log2 : Int) - 52)).trans ?_
  have hexponent : greatestExponent = 971 := rfl
  by_cases hlast : (n.log2 : Int) - 52 = greatestExponent
  · rw [hlast, hgreatest]
    have hdigits : n.log2 = 1023 := by omega
    simp [hdigits]
  · have hdigits : n.log2 ≠ 1023 := by omega
    constructor
    · rintro (hpast | ⟨hsame, _⟩)
      · exact Or.inl (by omega)
      · exact absurd hsame hlast
    · rintro (hpast | ⟨hleast, hmost, _⟩)
      · exact Or.inl (by omega)
      · exact absurd (by omega) hdigits

theorem ofInt_infinite_iff {n : Int} (hn : 0 < n) :
    (∃ sign, ofInt n = .infinite sign) ↔ (bound : Int) ≤ n := by
  unfold ofInt
  rw [ofRatio_infinite_iff (by omega)]
  omega

end MmsHttp.Binary64
