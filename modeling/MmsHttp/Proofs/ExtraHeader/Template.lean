import Mathlib.Data.List.Forall2
import MmsHttp.Proofs.ExtraHeader.Pairs
import MmsHttp.Proofs.Macro.Agreement

/-!
Extra headers as templates. Which headers a specification gives, what they are called and what is
warned of depends on which macros have a value and not on what the value is: it only fills the
places of its tokens, and nothing in it counts as a bar, a colon, a blank or a token.
-/

namespace MmsHttp.ExtraHeader

open Macro Text

/-- A header with places for values in it. -/
structure Template where
  name : List Char
  segments : List Segment
  last : List Char

/-- The header with the values of a table in the places of its tokens. -/
def Template.fill (table : Table) (template : Template) : Header :=
  (String.ofList template.name,
    String.ofList (joined (fun name => ((table (String.ofList name)).getD "").toList)
      template.segments template.last))

/-- A pair as a template: the name in front of its first colon, trimmed, and the value behind it,
trimmed and split at its tokens. -/
inductive Template.Of : Template → List Char → Prop where
  | divided {before after last : List Char} {segments : List Segment} (hcolon : ':' ∉ before)
      (hsplits : Splits (trim after) segments last) :
      Template.Of ⟨trim before, segments, last⟩ (before ++ ':' :: after)

variable {first second : Table}

/-- A pair gives a header with both tables or with neither, and the two fill the same template. -/
theorem header?_fills (hsame : SameNames first second) (pair : List Char) :
    (header? first pair = none ∧ header? second pair = none) ∨
      ∃ template, Template.Of template pair ∧ header? first pair = some (template.fill first) ∧
        header? second pair = some (template.fill second) := by
  cases hsplit : splitPair pair with
  | none => exact Or.inl ⟨by rw [header?, hsplit], by rw [header?, hsplit]⟩
  | some parts =>
      obtain ⟨name, value⟩ := parts
      obtain ⟨before, after, hpair, hcolon, rfl, rfl⟩ := splitPair_eq_some_iff.mp hsplit
      by_cases hgone : trim before = [] ∨ expand first (trim after) = []
      · have hgone' : trim before = [] ∨ expand second (trim after) = [] := by
          rwa [← hsame.expand_eq_nil_iff]
        left
        simp [header?, hsplit, List.isEmpty_iff, hgone, hgone']
      · rw [not_or] at hgone
        have hsecond : expand second (trim after) ≠ [] := by
          rw [Ne, ← hsame.expand_eq_nil_iff]
          exact hgone.2
        let split := gathered (pieces (trim after))
        have hof : Template.Of ⟨trim before, split.1, split.2⟩ pair := by
          rw [hpair]
          exact .divided hcolon (splits_gathered (trim after))
        have hfill (table : Table) : Template.fill table ⟨trim before, split.1, split.2⟩ =
            (String.ofList (trim before), String.ofList (expand table (trim after))) := by
          rw [Template.fill, expand, values_eq_joined]
        right
        refine ⟨_, hof, ?_, ?_⟩
        · exact header?_eq_some_iff.mpr ⟨_, _, hsplit, hgone.1, hgone.2, hfill first⟩
        · exact header?_eq_some_iff.mpr ⟨_, _, hsplit, hgone.1, hsecond, hfill second⟩

/-- The pairs that give headers are the same with both tables, and so are their templates. -/
theorem filterMap_header?_fills (hsame : SameNames first second) (pairs : List (List Char)) :
    ∃ kept templates, kept.Sublist pairs ∧ List.Forall₂ Template.Of templates kept ∧
      pairs.filterMap (header? first) = templates.map (Template.fill first) ∧
      pairs.filterMap (header? second) = templates.map (Template.fill second) := by
  induction pairs with
  | nil => exact ⟨[], [], .slnil, .nil, rfl, rfl⟩
  | cons pair pairs ih =>
      obtain ⟨kept, templates, hkept, hof, hfirst, hsecond⟩ := ih
      rcases header?_fills hsame pair with ⟨hnone, hnone'⟩ | ⟨template, hpair, hsome, hsome'⟩
      · refine ⟨kept, templates, hkept.cons pair, hof, ?_, ?_⟩
        · rw [List.filterMap_cons_none hnone, hfirst]
        · rw [List.filterMap_cons_none hnone', hsecond]
      · refine ⟨pair :: kept, template :: templates, hkept.cons_cons pair, hof.cons hpair, ?_, ?_⟩
        · rw [List.filterMap_cons_some hsome, hfirst, List.map_cons]
        · rw [List.filterMap_cons_some hsome', hsecond, List.map_cons]

theorem unknownIn_eq (hsame : SameNames first second) (spec : String) :
    unknownIn first spec = unknownIn second spec := by
  apply List.flatMap_congr
  intro pair _
  unfold unknown
  split
  · rfl
  · exact hsame.unknown_eq

/-- Two tables that define the same names, none of them as empty, give headers of the same names in
the same order, with the same warnings. Their values are the same templates, which are pairs of the
specification, filled from the one table and from the other. -/
theorem parse_fills (hsame : SameNames first second) (bound : Fields) (spec : String) :
    (parse first spec).map Prod.fst = (parse second spec).map Prod.fst ∧
      (unknownIn first spec).map (Request.unknownMacro bound) =
        (unknownIn second spec).map (Request.unknownMacro bound) ∧
      ∃ kept templates, kept.Sublist (pairs spec.toList) ∧
        List.Forall₂ Template.Of templates kept ∧
        parse first spec = templates.map (Template.fill first) ∧
        parse second spec = templates.map (Template.fill second) := by
  obtain ⟨kept, templates, hkept, hof, hfirst, hsecond⟩ :=
    filterMap_header?_fills hsame (pairs spec.toList)
  refine ⟨?_, by rw [unknownIn_eq hsame], kept, templates, hkept, hof, hfirst, hsecond⟩
  rw [parse, parse, hfirst, hsecond, List.map_map, List.map_map]
  rfl

/-- A value that looks like a part of a specification, or like a token, is put in as it is. -/
theorem parse_fills_with_markup :
    let first : Table := fun name => if name = "A" then some "1" else none
    let second : Table := fun name => if name = "A" then some "##B##|X:y" else none
    SameNames first second ∧
      parse first "N:##A##|M:##B##|O:x##A##" = [("N", "1"), ("O", "x1")] ∧
      (parse second "N:##A##|M:##B##|O:x##A##").map Prod.fst = ["N", "O"] ∧
      (unknownIn second "N:##A##|M:##B##|O:x##A##").map (Request.unknownMacro []) =
        [⟨.warning, "HTTP: invalid macro B", []⟩] := by
  intro first second
  have hsame : SameNames first second := by
    refine ⟨fun name => ?_, fun name => ?_, fun name => ?_⟩ <;>
      by_cases hname : name = "A" <;> simp [first, second, hname]
  have hparse : parse first "N:##A##|M:##B##|O:x##A##" = [("N", "1"), ("O", "x1")] := by
    decide +kernel
  have hwarn : (unknownIn first "N:##A##|M:##B##|O:x##A##").map (Request.unknownMacro []) =
      [⟨.warning, "HTTP: invalid macro B", []⟩] := by
    decide +kernel
  obtain ⟨hnames, hwarnings, -⟩ := parse_fills hsame [] "N:##A##|M:##B##|O:x##A##"
  rw [hparse] at hnames
  rw [hwarn] at hwarnings
  exact ⟨hsame, hparse, hnames.symm, hwarnings.symm⟩

end MmsHttp.ExtraHeader
