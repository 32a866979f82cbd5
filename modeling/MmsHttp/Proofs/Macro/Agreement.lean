import Mathlib.Data.List.Basic
import MmsHttp.Proofs.Macro.Edge

namespace MmsHttp.Macro

variable {first second : Table} {cs : List Char}

theorem mem_of_token_mem {name : List Char} (h : .token name ∈ pieces cs) : ∀ c ∈ name, c ∈ cs := by
  intro c hc
  rw [← flatMap_text_pieces cs]
  exact List.mem_flatMap.mpr ⟨.token name, h, by simp [Piece.text, tokenText, hc]⟩

theorem expand_congr
    (h : ∀ name, .token name ∈ pieces cs →
      first (String.ofList name) = second (String.ofList name)) :
    expand first cs = expand second cs ∧ unknown first cs = unknown second cs := by
  constructor
  · apply List.flatMap_congr
    intro piece hpiece
    cases piece with
    | plain c => rfl
    | token name => rw [Piece.value, Piece.value, h name hpiece]
  · apply List.filterMap_congr
    intro piece hpiece
    cases piece with
    | plain c => rfl
    | token name => rw [Piece.unknown?, Piece.unknown?, h name hpiece]

/-- Tables that define the same names, none of them as empty. -/
structure SameNames (first second : Table) : Prop where
  undefined : ∀ name, first name = none ↔ second name = none
  nonempty_first : ∀ name, first name ≠ some ""
  nonempty_second : ∀ name, second name ≠ some ""

theorem Piece.vanishes_token_iff {table : Table} (htable : ∀ name, table name ≠ some "")
    (name : List Char) :
    (Piece.token name).Vanishes table ↔ table (String.ofList name) = none := by
  rw [Piece.Vanishes]
  cases hvalue : table (String.ofList name) with
  | none => simp
  | some value =>
      have hsome : value ≠ "" := by
        rintro rfl
        exact htable _ hvalue
      simp [hsome]

theorem SameNames.vanishes_iff (h : SameNames first second) (piece : Piece) :
    piece.Vanishes first ↔ piece.Vanishes second := by
  cases piece with
  | plain c => exact Iff.rfl
  | token name =>
      rw [Piece.vanishes_token_iff h.nonempty_first, Piece.vanishes_token_iff h.nonempty_second,
        h.undefined]

/-- A text comes out empty with both tables or with neither. -/
theorem SameNames.expand_eq_nil_iff (h : SameNames first second) :
    expand first cs = [] ↔ expand second cs = [] := by
  simp only [expand, List.flatMap_eq_nil_iff, Piece.value_eq_nil_iff, h.vanishes_iff]

theorem SameNames.unknown_eq (h : SameNames first second) :
    unknown first cs = unknown second cs := by
  apply List.filterMap_congr
  intro piece _
  cases piece with
  | plain c => rfl
  | token name =>
      have hnone := h.undefined (String.ofList name)
      simp only [Piece.unknown?, Option.isNone_iff_eq_none, hnone]

end MmsHttp.Macro
