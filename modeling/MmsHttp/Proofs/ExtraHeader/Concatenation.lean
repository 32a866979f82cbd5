import MmsHttp.Proofs.ExtraHeader.Pairs
import MmsHttp.Proofs.Macro.Agreement

namespace MmsHttp.ExtraHeader

open Macro Text

variable {table other : Table}

/-- Tables that agree on the names without a bar make the same of a pair. -/
theorem header?_congr {pair : List Char} (hbar : '|' ∉ pair)
    (hagree : ∀ name, '|' ∉ name.toList → other name = table name) :
    header? other pair = header? table pair ∧ unknown other pair = unknown table pair := by
  unfold header? unknown
  cases hsplit : splitPair pair with
  | none => exact ⟨rfl, rfl⟩
  | some parts =>
      obtain ⟨name, value⟩ := parts
      obtain ⟨before, after, rfl, -, -, rfl⟩ := splitPair_eq_some_iff.mp hsplit
      have hvalue : '|' ∉ trim after := by
        intro hmem
        have hafter := (trim_sublist after).mem hmem
        exact hbar (List.mem_append_right _ (List.mem_cons_of_mem _ hafter))
      obtain ⟨hexpand, hunknown⟩ : expand other (trim after) = expand table (trim after) ∧
          Macro.unknown other (trim after) = Macro.unknown table (trim after) := by
        apply expand_congr
        intro token htoken
        apply hagree
        rw [String.toList_ofList]
        exact fun hmem => hvalue (mem_of_token_mem htoken '|' hmem)
      exact ⟨by simp only [hexpand], hunknown⟩

theorem parse_congr (hagree : ∀ name, '|' ∉ name.toList → other name = table name) (spec : String) :
    parse other spec = parse table spec ∧ unknownIn other spec = unknownIn table spec := by
  constructor
  · apply List.filterMap_congr
    intro pair hpair
    exact (header?_congr (bar_not_mem_of_mem_pairs hpair) hagree).1
  · apply List.flatMap_congr
    intro pair hpair
    exact (header?_congr (bar_not_mem_of_mem_pairs hpair) hagree).2

theorem pairs_append_bar (spec more : String) :
    pairs (spec ++ "|" ++ more).toList = pairs spec.toList ++ pairs more.toList := by
  rw [String.toList_append, String.toList_append, ← pairs_append]
  simp

/-- Two specifications with a bar between them give the headers of the one and then those of the
other, and warn in the same order. No name that is asked for has a bar in it. -/
theorem parse_append (table : Table) (bound : Fields) (spec more : String) :
    parse table (spec ++ "|" ++ more) = parse table spec ++ parse table more ∧
      (unknownIn table (spec ++ "|" ++ more)).map (Request.unknownMacro bound) =
        (unknownIn table spec).map (Request.unknownMacro bound) ++
          (unknownIn table more).map (Request.unknownMacro bound) ∧
      ∀ other : Table, (∀ name, '|' ∉ name.toList → other name = table name) →
        parse other (spec ++ "|" ++ more) = parse table (spec ++ "|" ++ more) ∧
          unknownIn other (spec ++ "|" ++ more) = unknownIn table (spec ++ "|" ++ more) := by
  refine ⟨?_, ?_, fun other hagree => parse_congr hagree _⟩
  · rw [parse, pairs_append_bar, List.filterMap_append]
    rfl
  · rw [← List.map_append, unknownIn, pairs_append_bar, List.flatMap_append]
    rfl

/-- What looks like a token around the bar stays as it is, on either side of it. -/
theorem parse_append_broken_token :
    let table : Table := fun name => if name = "X|B:Y" then some "v" else none
    parse table ("A:##X" ++ "|" ++ "B:Y##") = [("A", "##X"), ("B", "Y##")] ∧
      parse (fun _ => none) ("A:##X" ++ "|" ++ "B:Y##") = [("A", "##X"), ("B", "Y##")] := by
  intro table
  have hfirst : parse table "A:##X" = [("A", "##X")] := by decide +kernel
  have hsecond : parse table "B:Y##" = [("B", "Y##")] := by decide +kernel
  obtain ⟨hparse, -, hcongr⟩ := parse_append table [] "A:##X" "B:Y##"
  rw [hfirst, hsecond] at hparse
  have hagree : ∀ name : String, '|' ∉ name.toList → none = table name := by
    intro name hbar
    have hname : name ≠ "X|B:Y" := by
      rintro rfl
      exact hbar (by decide)
    simp [table, hname]
  exact ⟨hparse, (hcongr (fun _ => none) hagree).1.trans hparse⟩

end MmsHttp.ExtraHeader
