import Mathlib.Data.List.TakeWhile
import MmsHttp.Text.Bytes

/-!
Reading back what UTF-8 writes. A character is written as a sequence whose first byte tells how
long it is, and the range of the second byte shuts out just what no character is written as.
-/

namespace MmsHttp.Text

/-- What the first byte of a longer sequence says of the character. -/
def leadBits (lead : Nat) : Nat :=
  if sequenceLength lead == 2 then lead - 0xC0
  else if sequenceLength lead == 3 then lead - 0xE0
  else lead - 0xF0

/-- What the first byte and those behind it say of the character. -/
def sequenceBits (lead : Nat) (tail : Bytes) : Nat :=
  tail.foldl (fun n b => n * 64 + (b.toNat - 0x80)) (leadBits lead)

/-- A second byte that the first one admits. -/
def MayFollow (lead : Nat) (second : UInt8) : Prop :=
  (secondRange lead).1 ≤ second.toNat ∧ second.toNat ≤ (secondRange lead).2

/-- The ends of the range of a second byte, first byte by first byte. -/
theorem mayFollow_of {lead : Nat} {second : UInt8}
    (hrange : 0x80 ≤ second.toNat ∧ second.toNat ≤ 0xBF)
    (hoverlong : lead = 0xE0 → 0xA0 ≤ second.toNat)
    (hsurrogate : lead = 0xED → second.toNat ≤ 0x9F)
    (hplane : lead = 0xF0 → 0x90 ≤ second.toNat)
    (hlast : lead = 0xF4 → second.toNat ≤ 0x8F) : MayFollow lead second := by
  simp only [MayFollow, secondRange, beq_iff_eq]
  split_ifs <;> dsimp only <;> omega

/-- How long a sequence is, by the ranges that its first byte can lie in. -/
theorem sequenceLength_cases (lead : Nat) :
    lead < 0x80 ∧ sequenceLength lead = 1 ∨
      0xC2 ≤ lead ∧ lead < 0xE0 ∧ sequenceLength lead = 2 ∨
      0xE0 ≤ lead ∧ lead < 0xF0 ∧ sequenceLength lead = 3 ∨
      0xF0 ≤ lead ∧ lead < 0xF5 ∧ sequenceLength lead = 4 ∨
      (0x80 ≤ lead ∧ lead < 0xC2 ∨ 0xF5 ≤ lead) ∧ sequenceLength lead = 0 := by
  simp only [sequenceLength, Bool.and_eq_true, decide_eq_true_eq]
  split_ifs <;> omega

/-- A sequence is read to its end, whatever stands behind it. -/
theorem utf8Step_of_sequence {c : Char} {lead second : UInt8} (later rest : Bytes)
    (hlength : sequenceLength lead.toNat = later.length + 2)
    (hsecond : MayFollow lead.toNat second)
    (hlater : ∀ b ∈ later, 0x80 ≤ b.toNat ∧ b.toNat ≤ 0xBF)
    (hbits : sequenceBits lead.toNat (second :: later) = c.toNat) :
    utf8Step lead (second :: (later ++ rest)) = (some c, later.length + 2) := by
  have hlead : ¬ lead.toNat < 0x80 := by
    have := sequenceLength_cases lead.toNat
    omega
  have hfirst : [second].takeWhile (fun b => (secondRange lead.toNat).1 ≤ b.toNat &&
      b.toNat ≤ (secondRange lead.toNat).2) = [second] :=
    List.takeWhile_eq_self_iff.mpr (by simpa [MayFollow] using hsecond)
  have hbehind : later.takeWhile (fun b => 0x80 ≤ b.toNat && b.toNat ≤ 0xBF) = later :=
    List.takeWhile_eq_self_iff.mpr (by simpa using hlater)
  have hread : sequenceAt lead.toNat (second :: (later ++ rest)) =
      (later.length + 2, sequenceBits lead.toNat (second :: later)) := by
    simp [sequenceAt, sequenceBits, leadBits, hlength, hfirst, hbehind, Nat.add_comm 1]
  simp [utf8Step, hlead, hlength, hread, hbits]

/-- A byte behind the first one. -/
def continuation (n : Nat) : UInt8 :=
  (0x80 + n % 64).toUInt8

theorem toNat_toUInt8 {n : Nat} (h : n < 256) : n.toUInt8.toNat = n :=
  UInt8.toNat_ofNat_of_lt' h

@[simp]
theorem toNat_continuation (n : Nat) : (continuation n).toNat = 0x80 + n % 64 :=
  toNat_toUInt8 (by omega)

theorem continuation_range (n : Nat) :
    0x80 ≤ (continuation n).toNat ∧ (continuation n).toNat ≤ 0xBF := by
  rw [toNat_continuation]
  omega

section Sequence

variable {c : Char} (rest : Bytes)

theorem utf8Step_one (h : c.toNat < 0x80) : utf8Step c.toNat.toUInt8 rest = (some c, 1) := by
  have hlead := toNat_toUInt8 (n := c.toNat) (by omega)
  simp [utf8Step, hlead, h]

theorem utf8Step_two (h : 0x80 ≤ c.toNat ∧ c.toNat < 0x800) :
    utf8Step (0xC0 + c.toNat / 64).toUInt8 (continuation c.toNat :: rest) = (some c, 2) := by
  have hlead := toNat_toUInt8 (n := 0xC0 + c.toNat / 64) (by omega)
  have hlength : sequenceLength (0xC0 + c.toNat / 64) = 2 := by
    have := sequenceLength_cases (0xC0 + c.toNat / 64)
    omega
  refine utf8Step_of_sequence [] rest ?_ ?_ nofun ?_ <;> rw [hlead]
  · exact hlength
  · apply mayFollow_of (continuation_range _) <;> omega
  · simp [sequenceBits, leadBits, hlength]
    omega

theorem utf8Step_three (h : 0x800 ≤ c.toNat ∧ c.toNat < 0x10000) :
    utf8Step (0xE0 + c.toNat / 4096).toUInt8
      (continuation (c.toNat / 64) :: continuation c.toNat :: rest) = (some c, 3) := by
  have hvalid : c.toNat < 0xD800 ∨ 0xDFFF < c.toNat ∧ c.toNat < 0x110000 := c.valid
  have hlead := toNat_toUInt8 (n := 0xE0 + c.toNat / 4096) (by omega)
  have hlength : sequenceLength (0xE0 + c.toNat / 4096) = 3 := by
    have := sequenceLength_cases (0xE0 + c.toNat / 4096)
    omega
  refine utf8Step_of_sequence [continuation c.toNat] rest ?_ ?_
    (List.forall_mem_singleton.mpr (continuation_range _)) ?_ <;> rw [hlead]
  · exact hlength
  · apply mayFollow_of (continuation_range _) <;> rw [toNat_continuation] <;> omega
  · simp [sequenceBits, leadBits, hlength]
    omega

theorem utf8Step_four (h : 0x10000 ≤ c.toNat) :
    utf8Step (0xF0 + c.toNat / 262144).toUInt8
      (continuation (c.toNat / 4096) :: continuation (c.toNat / 64) :: continuation c.toNat ::
        rest) = (some c, 4) := by
  have hvalid : c.toNat < 0xD800 ∨ 0xDFFF < c.toNat ∧ c.toNat < 0x110000 := c.valid
  have hlead := toNat_toUInt8 (n := 0xF0 + c.toNat / 262144) (by omega)
  have hlength : sequenceLength (0xF0 + c.toNat / 262144) = 4 := by
    have := sequenceLength_cases (0xF0 + c.toNat / 262144)
    omega
  have hlater : ∀ b ∈ [continuation (c.toNat / 64), continuation c.toNat],
      0x80 ≤ b.toNat ∧ b.toNat ≤ 0xBF :=
    List.forall_mem_cons.mpr
      ⟨continuation_range _, List.forall_mem_singleton.mpr (continuation_range _)⟩
  refine utf8Step_of_sequence [continuation (c.toNat / 64), continuation c.toNat] rest ?_ ?_
    hlater ?_ <;> rw [hlead]
  · exact hlength
  · apply mayFollow_of (continuation_range _) <;> rw [toNat_continuation] <;> omega
  · simp [sequenceBits, leadBits, hlength]
    omega

end Sequence

theorem utf8Step_utf8Char (c : Char) (rest : Bytes) :
    ∃ b more, utf8Char c = b :: more ∧
      utf8Step b (more ++ rest) = (some c, more.length + 1) := by
  unfold utf8Char
  dsimp only
  split_ifs with hone htwo hthree
  · exact ⟨_, _, rfl, utf8Step_one rest hone⟩
  · exact ⟨_, _, rfl, utf8Step_two rest ⟨Nat.not_lt.mp hone, htwo⟩⟩
  · exact ⟨_, _, rfl, utf8Step_three rest ⟨Nat.not_lt.mp htwo, hthree⟩⟩
  · exact ⟨_, _, rfl, utf8Step_four rest (Nat.not_lt.mp hthree)⟩

/-- What UTF-8 writes is read back. -/
theorem fromUtf8?_utf8 (cs : List Char) : fromUtf8? (utf8 cs) = some cs := by
  induction cs with
  | nil => rw [fromUtf8?, utf8, List.flatMap_nil, fromUtf8With]
  | cons c rest ih =>
      obtain ⟨b, more, hbytes, hstep⟩ := utf8Step_utf8Char c (utf8 rest)
      have hwritten : utf8 (c :: rest) = b :: (more ++ utf8 rest) := by
        rw [utf8, List.flatMap_cons, hbytes]
        rfl
      rw [fromUtf8?] at ih
      rw [fromUtf8?, hwritten, fromUtf8With, hstep]
      simp [ih]

end MmsHttp.Text
