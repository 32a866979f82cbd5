import MmsHttp.ExtraHeader
import MmsHttp.Proofs.Text.Blank
import MmsHttp.Proofs.Text.Split

namespace MmsHttp.ExtraHeader

open Macro Text

variable {table : Table}

theorem pairs_append (spec more : List Char) :
    pairs (spec ++ '|' :: more) = pairs spec ++ pairs more :=
  splitBy_append_cons (by decide) spec more

theorem bar_not_mem_of_mem_pairs {spec pair : List Char} (h : pair ∈ pairs spec) : '|' ∉ pair := by
  intro hbar
  have hpiece := not_separator_of_mem_splitBy pair h '|' hbar
  exact absurd hpiece (by decide)

theorem splitPair_eq_none_iff {pair : List Char} : splitPair pair = none ↔ ':' ∉ pair := by
  unfold splitPair
  split
  case h_1 hcut =>
    exact iff_of_true rfl (forall_beq_eq_false_iff.mp (cut_eq_none hcut).2)
  case h_2 hcut =>
    obtain ⟨c, hc, -, rfl⟩ := cut_eq_some hcut
    simp_all

/-- The name of a pair is what stands in front of its first colon, and its value what stands behind
it, both trimmed. -/
theorem splitPair_eq_some_iff {pair name value : List Char} :
    splitPair pair = some (name, value) ↔
      ∃ before after, pair = before ++ ':' :: after ∧ ':' ∉ before ∧ name = trim before ∧
        value = trim after := by
  constructor
  · intro h
    unfold splitPair at h
    split at h
    case h_1 => cases h
    case h_2 before after hcut =>
      obtain ⟨rfl, rfl⟩ := Prod.mk.inj (Option.some.inj h)
      obtain ⟨c, hc, hbefore, hpair⟩ := cut_eq_some hcut
      obtain rfl : c = ':' := by simpa using hc
      exact ⟨before, after, hpair, forall_beq_eq_false_iff.mp hbefore, rfl, rfl⟩
  · rintro ⟨before, after, rfl, hbefore, rfl, rfl⟩
    rw [splitPair, cut_append_cons (forall_beq_eq_false_iff.mpr hbefore) (by decide)]

theorem isTrimmed_of_splitPair {pair name value : List Char}
    (h : splitPair pair = some (name, value)) : IsTrimmed name ∧ IsTrimmed value := by
  obtain ⟨_, _, _, _, rfl, rfl⟩ := splitPair_eq_some_iff.mp h
  exact ⟨isTrimmed_trim _, isTrimmed_trim _⟩

theorem header?_eq_some_iff {pair : List Char} {header : Header} :
    header? table pair = some header ↔
      ∃ name value, splitPair pair = some (name, value) ∧ name ≠ [] ∧ expand table value ≠ [] ∧
        header = (String.ofList name, String.ofList (expand table value)) := by
  unfold header?
  split
  case h_1 hnone => simp [hnone]
  case h_2 name value hsplit =>
    simp only [hsplit, Option.some.injEq, Prod.mk.injEq, Bool.or_eq_true, List.isEmpty_iff,
      Option.ite_none_left_eq_some, not_or]
    constructor
    · rintro ⟨⟨hname, hvalue⟩, rfl⟩
      exact ⟨name, value, ⟨rfl, rfl⟩, hname, hvalue, rfl⟩
    · rintro ⟨_, _, ⟨rfl, rfl⟩, hname, hvalue, rfl⟩
      exact ⟨⟨hname, hvalue⟩, rfl⟩

theorem mem_parse_iff {spec : String} {header : Header} :
    header ∈ parse table spec ↔
      ∃ pair ∈ pairs spec.toList, ∃ name value, splitPair pair = some (name, value) ∧ name ≠ [] ∧
        expand table value ≠ [] ∧
        header = (String.ofList name, String.ofList (expand table value)) := by
  simp only [parse, List.mem_filterMap, header?_eq_some_iff]

end MmsHttp.ExtraHeader
