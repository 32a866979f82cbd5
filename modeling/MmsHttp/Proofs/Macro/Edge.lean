import MmsHttp.Proofs.Macro
import MmsHttp.Proofs.Text.Blank

/-!
What a trimmed text begins and ends with once its macros are expanded. With values that are
trimmed themselves, only a token that comes out empty can bring a blank to an end: one that stood
behind it.
-/

namespace MmsHttp.Macro

open Text

def Piece.text : Piece → List Char
  | .plain c => [c]
  | .token name => tokenText name []

theorem flatMap_text_pieces (cs : List Char) : (pieces cs).flatMap Piece.text = cs := by
  fun_induction pieces cs with
  | case1 cs name after hfound _ ih =>
      rw [List.flatMap_cons, ih, (shortest_of_token? hfound).text]
      simp [Piece.text, tokenText]
  | case2 => rfl
  | case3 c rest _ ih => rw [List.flatMap_cons, ih]; rfl

/-- A token that comes out empty, for want of a name or of a value. -/
def Piece.Vanishes (table : Table) : Piece → Prop
  | .plain _ => False
  | .token name => (table (String.ofList name)).getD "" = ""

/-- Tokens that come out empty, one or more, stand in front of a blank. -/
def Bares (table : Table) (pieces : List Piece) : Prop :=
  ∃ gone c rest, pieces = gone ++ .plain c :: rest ∧ gone ≠ [] ∧ isBlank c = true ∧
    ∀ piece ∈ gone, piece.Vanishes table

/-- At an end of a text stand tokens that come out empty, with a blank next to them. -/
def Frays (table : Table) (cs : List Char) : Prop :=
  Bares table (pieces cs) ∨ Bares table (pieces cs).reverse

variable {table : Table}

theorem Piece.value_eq_nil_iff (piece : Piece) :
    piece.value table = [] ↔ piece.Vanishes table := by
  cases piece with
  | plain c => simp [Piece.value, Piece.Vanishes]
  | token name => simp [Piece.value, Piece.Vanishes, String.toList_eq_nil_iff]

/-- The value of a token is trimmed if all values are. -/
theorem isTrimmed_value_token
    (hvalues : ∀ name value, table name = some value → IsTrimmed value.toList) (name : List Char) :
    IsTrimmed ((Piece.token name).value table) := by
  rw [Piece.value]
  cases hvalue : table (String.ofList name) with
  | none => exact isTrimmed_nil
  | some value => exact hvalues _ value hvalue

/-- A blank comes out first, or last in a list read from its end, if nothing stands before it but
pieces that come out empty. -/
theorem blank_edge_iff {edge : List Char → Option Char} (hempty : ∀ cs, edge cs = none ↔ cs = [])
    (hone : ∀ c, edge [c] = some c)
    (htoken : ∀ name c, edge ((Piece.token name).value table) = some c → isBlank c = false)
    {pieces : List Piece} (hfirst : ∀ c rest, pieces = .plain c :: rest → isBlank c = false) :
    (∃ c, pieces.findSome? (fun piece => edge (piece.value table)) = some c ∧ isBlank c = true) ↔
      Bares table pieces := by
  simp only [List.findSome?_eq_some_iff, hempty, Piece.value_eq_nil_iff]
  constructor
  · rintro ⟨c, ⟨gone, piece, rest, rfl, hedge, hgone⟩, hblank⟩
    cases piece with
    | token name =>
        rw [htoken name c hedge] at hblank
        cases hblank
    | plain d =>
        obtain rfl : d = c := Option.some.inj ((hone d).symm.trans hedge)
        refine ⟨gone, d, rest, rfl, ?_, hblank, hgone⟩
        rintro rfl
        rw [hfirst d rest rfl] at hblank
        cases hblank
  · rintro ⟨gone, c, rest, rfl, _, hblank, hgone⟩
    exact ⟨c, ⟨gone, .plain c, rest, rfl, hone c, hgone⟩, hblank⟩

theorem isTrimmed_expand_iff
    (hvalues : ∀ name value, table name = some value → IsTrimmed value.toList) {cs : List Char}
    (hcs : IsTrimmed cs) :
    IsTrimmed (expand table cs) ↔ ¬ Frays table cs := by
  have htext := flatMap_text_pieces cs
  have hfirst (c : Char) (rest : List Piece) (h : pieces cs = .plain c :: rest) :
      isBlank c = false := by
    rw [h] at htext
    exact hcs.first c (by rw [← htext]; rfl)
  have hlast (c : Char) (rest : List Piece) (h : (pieces cs).reverse = .plain c :: rest) :
      isBlank c = false := by
    rw [List.reverse_eq_iff.mp h] at htext
    exact hcs.last c (by simp [← htext, Piece.text])
  rw [isTrimmed_iff, expand, List.head?_flatMap, List.getLast?_flatMap, Frays, not_or]
  apply and_congr <;> apply not_congr
  · exact blank_edge_iff (fun _ => List.head?_eq_none_iff) (fun _ => rfl)
      (fun name => (isTrimmed_value_token hvalues name).first) hfirst
  · exact blank_edge_iff (fun _ => List.getLast?_eq_none_iff) (fun _ => rfl)
      (fun name => (isTrimmed_value_token hvalues name).last) hlast

end MmsHttp.Macro
