import Mathlib.Data.List.Forall2
import MmsHttp.Headers

namespace MmsHttp.Headers

open Text

theorem named_eq_true_iff (name : String) (header : Header) :
    named name header = true ↔ lowered header.1 = lowered name := by
  simp [named, sameName]

theorem has_eq_true_iff (headers : List Header) (name : String) :
    has headers name = true ↔ ∃ header ∈ headers, lowered header.1 = lowered name := by
  simp only [has, List.any_eq_true, named_eq_true_iff]

theorem mem_erase_iff (headers : List Header) (name : String) (header : Header) :
    header ∈ erase headers name ↔ header ∈ headers ∧ lowered header.1 ≠ lowered name := by
  rw [erase, List.mem_filter, Bool.not_eq_true', ← Bool.not_eq_true, named_eq_true_iff]

/-- Setting a header leaves those with other names in the list and is the only one of its
own name. -/
theorem mem_set_iff (headers : List Header) (header other : Header) :
    other ∈ set headers header ↔
      other = header ∨ other ∈ headers ∧ lowered other.1 ≠ lowered header.1 := by
  induction headers with
  | nil => simp [set]
  | cons first rest ih =>
      rw [set]
      split
      case isTrue hfirst =>
        have hname : lowered first.1 = lowered header.1 := (named_eq_true_iff _ _).mp hfirst
        rw [List.mem_cons, mem_erase_iff, List.mem_cons]
        constructor
        · rintro (heq | ⟨hrest, hother⟩)
          · exact Or.inl heq
          · exact Or.inr ⟨Or.inr hrest, hother⟩
        · rintro (heq | ⟨rfl | hrest, hother⟩)
          · exact Or.inl heq
          · exact absurd hname hother
          · exact Or.inr ⟨hrest, hother⟩
      case isFalse hfirst =>
        have hname : lowered first.1 ≠ lowered header.1 :=
          fun heq => hfirst ((named_eq_true_iff _ _).mpr heq)
        rw [List.mem_cons, ih, List.mem_cons]
        constructor
        · rintro (rfl | heq | ⟨hrest, hother⟩)
          · exact Or.inr ⟨Or.inl rfl, hname⟩
          · exact Or.inl heq
          · exact Or.inr ⟨Or.inr hrest, hother⟩
        · rintro (heq | ⟨hfirst | hrest, hother⟩)
          · exact Or.inr (Or.inl heq)
          · exact Or.inl hfirst
          · exact Or.inr (Or.inr ⟨hrest, hother⟩)

theorem mem_set_self (headers : List Header) (header : Header) :
    header ∈ set headers header :=
  (mem_set_iff headers header header).mpr (Or.inl rfl)

theorem mem_setDefault {headers : List Header} {header other : Header}
    (hmem : other ∈ setDefault headers header) : other ∈ headers ∨ other = header := by
  unfold setDefault at hmem
  split at hmem
  · exact Or.inl hmem
  · simpa using hmem

theorem mem_setDefault_of_mem {headers : List Header} {header other : Header}
    (hmem : other ∈ headers) : other ∈ setDefault headers header := by
  unfold setDefault
  split
  · exact hmem
  · exact List.mem_append_left _ hmem

theorem mem_of_mem_erase {headers : List Header} {name : String} {header : Header}
    (hmem : header ∈ erase headers name) : header ∈ headers :=
  ((mem_erase_iff headers name header).mp hmem).1

theorem has_erase (headers : List Header) (name other : String)
    (hname : lowered name ≠ lowered other) (hhas : has headers name = true) :
    has (erase headers other) name = true := by
  obtain ⟨header, hmem, hheader⟩ := (has_eq_true_iff _ _).mp hhas
  refine (has_eq_true_iff _ _).mpr ⟨header, ?_, hheader⟩
  exact (mem_erase_iff _ _ _).mpr ⟨hmem, by rwa [hheader]⟩

theorem has_set_self (headers : List Header) (name value : String) :
    has (set headers (name, value)) name = true :=
  (has_eq_true_iff _ _).mpr ⟨(name, value), mem_set_self headers (name, value), rfl⟩

theorem has_set (headers : List Header) (header : Header) (name : String)
    (hhas : has headers name = true) : has (set headers header) name = true := by
  obtain ⟨other, hmem, hother⟩ := (has_eq_true_iff _ _).mp hhas
  by_cases hsame : lowered header.1 = lowered name
  · exact (has_eq_true_iff _ _).mpr ⟨header, mem_set_self headers header, hsame⟩
  · have hname : lowered other.1 ≠ lowered header.1 := by
      rw [hother]
      exact Ne.symm hsame
    have hkept := (mem_set_iff headers header other).mpr (Or.inr ⟨hmem, hname⟩)
    exact (has_eq_true_iff _ _).mpr ⟨other, hkept, hother⟩

theorem has_setDefault (headers : List Header) (header : Header) (name : String)
    (hname : lowered header.1 ≠ lowered name) :
    has (setDefault headers header) name = has headers name := by
  have hheader : named name header = false := by
    rw [← Bool.not_eq_true, named_eq_true_iff]
    exact hname
  unfold setDefault
  split
  · rfl
  · simp only [has, List.any_append, List.any_cons, List.any_nil, hheader, Bool.or_false]

theorem has_update_iff (headers more : List Header) (name : String) :
    has (update headers more) name = true ↔ has headers name = true ∨ has more name = true := by
  simp only [has_eq_true_iff, update, List.mem_append, List.mem_filter]
  constructor
  · rintro ⟨header, hmem | hmem, hheader⟩
    · exact Or.inl ⟨header, hmem.1, hheader⟩
    · exact Or.inr ⟨header, hmem, hheader⟩
  · rintro (⟨header, hmem, hheader⟩ | ⟨header, hmem, hheader⟩)
    · cases hgiven : has more header.1 with
      | false => exact ⟨header, Or.inl ⟨hmem, by simp [hgiven]⟩, hheader⟩
      | true =>
          obtain ⟨other, hother, hsame⟩ := (has_eq_true_iff _ _).mp hgiven
          exact ⟨other, Or.inr hother, hsame.trans hheader⟩
    · exact ⟨header, Or.inr hmem, hheader⟩

theorem has_append_right (more headers : List Header) (name : String)
    (hhas : has headers name = true) : has (more ++ headers) name = true := by
  simp only [has, List.any_append, Bool.or_eq_true]
  exact Or.inr hhas

end MmsHttp.Headers
