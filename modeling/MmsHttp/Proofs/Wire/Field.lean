import MmsHttp.Proofs.Text.Ascii
import MmsHttp.Wire.Field

namespace MmsHttp.Wire

open Text

/-- A character that may stand between the words of a field value, but not at its ends. -/
def IsGapChar (c : Char) : Prop :=
  c = ' ' ∨ c = '\t'

/-- A character that a field value has nowhere: NUL, or a blank other than a gap. -/
def IsBarredChar (c : Char) : Prop :=
  c = '\x00' ∨ c = '\n' ∨ c = '\x0b' ∨ c = '\x0c' ∨ c = '\r'

instance : DecidablePred IsGapChar :=
  fun c => inferInstanceAs (Decidable (c = ' ' ∨ c = '\t'))

instance : DecidablePred IsBarredChar :=
  fun c => inferInstanceAs (Decidable (c = '\x00' ∨ _))

def byteOf (c : Char) : UInt8 :=
  c.toNat.toUInt8

theorem utf8_of_ascii {cs : List Char} (h : ∀ c ∈ cs, c.toNat < 128) : utf8 cs = cs.map byteOf := by
  induction cs with
  | nil => rfl
  | cons c rest ih =>
      rw [List.forall_mem_cons] at h
      have hbyte : utf8Char c = [byteOf c] := if_pos h.1
      rw [utf8, List.flatMap_cons, hbyte, List.map_cons, ← ih h.2]
      rfl

theorem isGap_byteOf {c : Char} (h : c.toNat < 128) : isGap (byteOf c) = true ↔ IsGapChar c := by
  apply forall_ascii _ h
  decide +kernel

theorem isAllowed_byteOf {c : Char} (h : c.toNat < 128) :
    (isVisible (byteOf c) || isGap (byteOf c)) = true ↔ ¬ IsBarredChar c := by
  apply forall_ascii _ h
  decide +kernel

/-- A text in ASCII is a field value if it has no barred character and no gap at its ends. -/
theorem isFieldValue_ascii_iff {value : String} (hascii : ∀ c ∈ value.toList, c.toNat < 128) :
    isFieldValue (ascii value) = true ↔
      (∀ c ∈ value.toList, ¬ IsBarredChar c) ∧
        (∀ c, value.toList.head? = some c → ¬ IsGapChar c) ∧
        ∀ c, value.toList.getLast? = some c → ¬ IsGapChar c := by
  have hallowed : (value.toList.map byteOf).all (fun b => isVisible b || isGap b) = true ↔
      ∀ c ∈ value.toList, ¬ IsBarredChar c := by
    simp only [List.all_map, List.all_eq_true, Function.comp_apply]
    exact forall₂_congr fun c hc => isAllowed_byteOf (hascii c hc)
  have hend (end? : Option Char) (hmem : ∀ c, end? = some c → c ∈ value.toList) :
      (end?.map byteOf).any isGap = false ↔ ∀ c, end? = some c → ¬ IsGapChar c := by
    rw [← Bool.not_eq_true, Option.any_map, Option.any_eq_true]
    simp only [not_exists, not_and]
    exact forall₂_congr fun c hc => not_congr (isGap_byteOf (hascii c (hmem c hc)))
  rw [isFieldValue, ascii, utf8_of_ascii hascii, List.head?_map, List.getLast?_map]
  simp only [Bool.and_eq_true, Bool.not_eq_true', hallowed, hend _ fun _ => List.mem_of_head?,
    hend _ fun _ => List.mem_of_getLast?, and_assoc]

end MmsHttp.Wire
