import MmsHttp.Text.Bytes

namespace MmsHttp.Text

/-- What holds of the 128 characters of ASCII one by one holds of any character in ASCII. -/
theorem forall_ascii {P : Char → Prop} (h : ∀ n : Fin 128, P (Char.ofNat n)) {c : Char}
    (hc : c.toNat < 128) : P c := by
  have hp := h ⟨c.toNat, hc⟩
  rwa [Char.ofNat_toNat] at hp

theorem toNat_lt_of_isAlphanum {c : Char} (h : c.isAlphanum = true) : c.toNat < 128 := by
  have hranges : ((decide ('A'.val ≤ c.val ∧ c.val ≤ 'Z'.val) ||
      ('a'.val ≤ c.val && c.val ≤ 'z'.val)) || ('0'.val ≤ c.val && c.val ≤ '9'.val)) = true := h
  simp only [Bool.or_eq_true, Bool.and_eq_true, decide_eq_true_eq,
    UInt32.le_iff_toNat_le] at hranges
  have hcode : c.toNat = c.val.toNat := rfl
  have hbounds : 'Z'.val.toNat = 90 ∧ 'z'.val.toNat = 122 ∧ '9'.val.toNat = 57 := by decide
  omega

theorem forall_alphanum {P : Char → Prop}
    (h : ∀ n : Fin 128, (Char.ofNat n).isAlphanum = true → P (Char.ofNat n)) {c : Char}
    (hc : c.isAlphanum = true) : P c :=
  forall_ascii (P := fun c => c.isAlphanum = true → P c) h (toNat_lt_of_isAlphanum hc) hc

-- What follows the longest beginning in ASCII begins with a character outside it, so the
-- run that a complaint names is empty only at the end of the text.
private theorem foreign_run_eq_nil_iff (cs : List Char) :
    (cs.drop (cs.takeWhile isAscii).length).takeWhile (!isAscii ·) = [] ↔
      cs.all isAscii = true := by
  induction cs with
  | nil => simp
  | cons c rest ih =>
      cases hc : isAscii c with
      | true => simpa [hc] using ih
      | false => simp [hc]

theorem asciiComplaint_eq_none_iff (cs : List Char) :
    asciiComplaint cs = none ↔ cs.all isAscii = true := by
  rw [← foreign_run_eq_nil_iff]
  unfold asciiComplaint
  dsimp only
  split
  case h_1 hrun => exact ⟨fun _ => hrun, fun _ => rfl⟩
  case h_2 hrun => simp [hrun]
  case h_3 hrun _ => exact ⟨fun h => by simp at h, fun h => absurd h hrun⟩

end MmsHttp.Text
