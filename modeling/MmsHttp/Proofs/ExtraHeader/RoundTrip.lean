import MmsHttp.Proofs.ExtraHeader.Pairs
import MmsHttp.Proofs.Macro.Residue

/-!
Writing extra headers down and reading them back. Blanks around names and values do not count, and
neither do pairs that lack a colon, a name or a value.
-/

namespace MmsHttp.ExtraHeader

open Macro Text

/-- A header that can be written down as it is. -/
structure Plain (header : Header) : Prop where
  named : header.1.toList ≠ []
  name : IsTrimmed header.1.toList
  undivided : ':' ∉ header.1.toList
  unbarred : '|' ∉ header.1.toList ∧ '|' ∉ header.2.toList
  valued : header.2.toList ≠ []
  value : IsTrimmed header.2.toList
  bare : IsBare header.2.toList

def written (header : Header) : List Char :=
  header.1.toList ++ ':' :: header.2.toList

/-- A pair that writes a header with blanks around its name and its value. -/
inductive Spaced (header : Header) : List Char → Prop where
  | around {before behind ahead after : List Char}
      (hname : ∀ c ∈ before ++ behind, isBlank c = true)
      (hvalue : ∀ c ∈ ahead ++ after, isBlank c = true) :
      Spaced header
        (before ++ (header.1.toList ++ behind) ++ ':' :: (ahead ++ (header.2.toList ++ after)))

/-- A pair without a colon, or with nothing but blanks in front of its first colon or behind it. -/
inductive Idle : List Char → Prop where
  | undivided {pair : List Char} (hcolon : ':' ∉ pair) : Idle pair
  | nameless {name value : List Char} (hname : ∀ c ∈ name, isBlank c = true) :
      Idle (name ++ ':' :: value)
  | valueless {name value : List Char} (hcolon : ':' ∉ name)
      (hvalue : ∀ c ∈ value, isBlank c = true) : Idle (name ++ ':' :: value)

/-- Pairs that write headers one after the other, with blanks and idle pairs between them. -/
inductive Writes : List Header → List (List Char) → Prop where
  | nil : Writes [] []
  | header {header : Header} {headers : List Header} {pair : List Char} {pairs : List (List Char)}
      (hpair : Spaced header pair) (hrest : Writes headers pairs) :
      Writes (header :: headers) (pair :: pairs)
  | idle {headers : List Header} {pair : List Char} {pairs : List (List Char)}
      (hpair : Idle pair) (hbar : '|' ∉ pair) (hrest : Writes headers pairs) :
      Writes headers (pair :: pairs)

theorem spaced_written (header : Header) : Spaced header (written header) := by
  have hnone : ∀ c ∈ ([] : List Char) ++ [], isBlank c = true := nofun
  simpa [written] using @Spaced.around header [] [] [] [] hnone hnone

variable {header : Header} {pair : List Char}

/-- A spaced pair is divided into the name and the value that it writes. -/
theorem splitPair_of_spaced (hplain : Plain header) (hpair : Spaced header pair) :
    splitPair pair = some (header.1.toList, header.2.toList) := by
  obtain ⟨hname, hvalue⟩ := hpair
  rw [List.forall_mem_append] at hname hvalue
  refine splitPair_eq_some_iff.mpr ⟨_, _, rfl, ?_, ?_, ?_⟩
  · have hcolon : isBlank ':' = false := by decide
    simp only [List.mem_append, not_or]
    exact ⟨not_mem_of_forall hname.1 hcolon, hplain.undivided, not_mem_of_forall hname.2 hcolon⟩
  · exact (trim_append_append hname.1 hplain.name hname.2).symm
  · exact (trim_append_append hvalue.1 hplain.value hvalue.2).symm

theorem header?_of_spaced (hplain : Plain header) (hpair : Spaced header pair)
    (table : Table) : header? table pair = some header ∧ unknown table pair = [] := by
  have hsplit := splitPair_of_spaced hplain hpair
  obtain ⟨hexpand, hunknown⟩ := hplain.bare.unchanged table
  constructor
  · refine header?_eq_some_iff.mpr ⟨_, _, hsplit, hplain.named, ?_, ?_⟩
    · rw [hexpand]
      exact hplain.valued
    · rw [hexpand, String.ofList_toList, String.ofList_toList]
  · rw [unknown, hsplit]
    exact hunknown

theorem bar_not_mem_of_spaced (hplain : Plain header) (hpair : Spaced header pair) :
    '|' ∉ pair := by
  obtain ⟨hname, hvalue⟩ := hpair
  have hbar : isBlank '|' = false := by decide
  have hfirst := not_mem_of_forall hname hbar
  have hsecond := not_mem_of_forall hvalue hbar
  have hboth := hplain.unbarred
  simp_all

theorem header?_of_idle (hpair : Idle pair) (table : Table) : header? table pair = none := by
  cases hpair with
  | undivided hcolon => rw [header?, splitPair_eq_none_iff.mpr hcolon]
  | @nameless name value hname =>
      have hcolon : ':' ∉ name := not_mem_of_forall hname (by decide)
      have hsplit : splitPair (name ++ ':' :: value) = some ([], trim value) :=
        splitPair_eq_some_iff.mpr ⟨_, _, rfl, hcolon, (trim_of_blank hname).symm, rfl⟩
      simp [header?, hsplit]
  | @valueless name value hcolon hvalue =>
      have hsplit : splitPair (name ++ ':' :: value) = some (trim name, []) :=
        splitPair_eq_some_iff.mpr ⟨_, _, rfl, hcolon, rfl, (trim_of_blank hvalue).symm⟩
      have hempty : expand table [] = [] := (IsBare.unchanged (by decide +kernel) table).1
      simp [header?, hsplit, hempty]

variable {headers : List Header} {pairs : List (List Char)}

theorem Writes.bar_not_mem (hwrites : Writes headers pairs)
    (hplain : ∀ header ∈ headers, Plain header) : ∀ pair ∈ pairs, '|' ∉ pair := by
  induction hwrites with
  | nil => nofun
  | header hpair _ ih =>
      rw [List.forall_mem_cons] at hplain ⊢
      exact ⟨bar_not_mem_of_spaced hplain.1 hpair, ih hplain.2⟩
  | idle _ hbar _ ih => exact List.forall_mem_cons.mpr ⟨hbar, ih hplain⟩

theorem Writes.filterMap_header? (hwrites : Writes headers pairs)
    (hplain : ∀ header ∈ headers, Plain header) (table : Table) :
    pairs.filterMap (header? table) = headers := by
  induction hwrites with
  | nil => rfl
  | header hpair _ ih =>
      rw [List.forall_mem_cons] at hplain
      rw [List.filterMap_cons_some (header?_of_spaced hplain.1 hpair table).1, ih hplain.2]
  | idle hpair _ _ ih => rw [List.filterMap_cons_none (header?_of_idle hpair table), ih hplain]

/-- Joined pairs are read back as what they write; no pairs at all are read back as an empty one. -/
theorem Writes.parse_joinWith (hwrites : Writes headers pairs)
    (hplain : ∀ header ∈ headers, Plain header) (table : Table) :
    parse table (String.ofList (joinWith ['|'] pairs)) = headers := by
  rw [parse, String.toList_ofList]
  by_cases hnone : pairs = []
  · subst hnone
    obtain rfl := hwrites.filterMap_header? hplain table
    rfl
  · rw [ExtraHeader.pairs, splitBy_joinWith hnone (hwrites.bar_not_mem hplain)]
    exact hwrites.filterMap_header? hplain table

theorem writes_map_written (headers : List Header) : Writes headers (headers.map written) := by
  induction headers with
  | nil => exact .nil
  | cons header headers ih => exact .header (spaced_written header) ih

theorem render_eq_joinWith (headers : List Header) :
    render headers = String.ofList (joinWith ['|'] (headers.map written)) := by
  have hwritten (header : Header) : (header.1 ++ ":" ++ header.2).toList = written header := by
    simp [written]
  apply String.toList_inj.mp
  simp only [render, joinWith, String.toList_intercalate, String.toList_ofList, List.map_map]
  exact congrArg (['|'].intercalate ·) (List.map_congr_left fun header _ => hwritten header)

/-- Nothing in headers that are written down is taken for a macro. -/
theorem unknownIn_render (table : Table) (hplain : ∀ header ∈ headers, Plain header) :
    unknownIn table (render headers) = [] := by
  rw [unknownIn, render_eq_joinWith, String.toList_ofList]
  by_cases hnone : headers = []
  · subst hnone
    rfl
  · have hbar := (writes_map_written headers).bar_not_mem hplain
    rw [ExtraHeader.pairs, splitBy_joinWith (by simpa using hnone) hbar, List.flatMap_map,
      List.flatMap_eq_nil_iff]
    intro header hheader
    exact (header?_of_spaced (hplain header hheader) (spaced_written header) table).2

/-- Headers that are written down come back, with any table and without a warning; and they come
back as well with blanks around names and values and with idle pairs in between. -/
theorem parse_render (table : Table) (bound : Fields) (headers : List Header)
    (hplain : ∀ header ∈ headers, Plain header) :
    parse table (render headers) = headers ∧
      (unknownIn table (render headers)).map (Request.unknownMacro bound) = [] ∧
      ∀ pairs, Writes headers pairs →
        parse table (String.ofList (joinWith ['|'] pairs)) = headers := by
  have hwrites := writes_map_written headers
  refine ⟨?_, ?_, fun pairs hpairs => hpairs.parse_joinWith hplain table⟩
  · rw [render_eq_joinWith]
    exact hwrites.parse_joinWith hplain table
  · rw [List.map_eq_nil_iff, unknownIn_render table hplain]

/-- Colons and loose hashes in a value are part of it, and so is nothing that surrounds it. -/
theorem parse_render_among_idle :
    let table : Table := fun _ => some "v"
    let header : Header := ("X-Forward", "http://proxy:8080/ ##")
    Plain header ∧ parse table "X-Forward:http://proxy:8080/ ##" = [header] ∧
      (unknownIn table "X-Forward:http://proxy:8080/ ##").map (Request.unknownMacro []) = [] ∧
      parse table " X-Forward\t: http://proxy:8080/ ## |:##A##|none||C: " = [header] := by
  intro table header
  have hplain : Plain header :=
    { named := by decide
      name := by decide
      undivided := by decide
      unbarred := by decide
      valued := by decide
      value := by decide
      bare := by decide +kernel }
  have hheaders : ∀ other ∈ [header], Plain other := by simpa using hplain
  have hspaced := @Spaced.around header [' '] ['\t'] [' '] [' ']
    (List.all_eq_true.mp (by decide)) (List.all_eq_true.mp (by decide))
  have hnameless := @Idle.nameless [] "##A##".toList nofun
  have hvalueless := @Idle.valueless ['C'] [' '] (by decide) (List.all_eq_true.mp (by decide))
  have hwrites := Writes.header hspaced (.idle hnameless (by decide)
    (.idle (@Idle.undivided "none".toList (by decide)) (by decide)
      (.idle (@Idle.undivided [] (by decide)) (by decide)
        (.idle hvalueless (by decide) .nil))))
  obtain ⟨hparse, hwarn, hagain⟩ := parse_render table [] [header] hheaders
  have hrendered : render [header] = "X-Forward:http://proxy:8080/ ##" := by decide +kernel
  rw [hrendered] at hparse hwarn
  refine ⟨hplain, hparse, hwarn, ?_⟩
  rw [← hagain _ hwrites]
  exact congrArg (parse table) (by decide +kernel)

end MmsHttp.ExtraHeader
