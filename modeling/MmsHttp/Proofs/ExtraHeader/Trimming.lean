import MmsHttp.Proofs.ExtraHeader.Pairs
import MmsHttp.Proofs.Macro.Edge
import MmsHttp.Proofs.Wire.Field

/-!
What extra headers begin and end with. Names come out trimmed; values are trimmed before their
macros are expanded, so a macro that comes out empty can leave a blank at an end, and a value with
such an end is no field value.
-/

namespace MmsHttp.ExtraHeader

open Macro Text

variable {table : Table}

/-- All values of a specification come out trimmed unless one of them frays. -/
theorem isTrimmed_values_iff
    (hvalues : ∀ name value, table name = some value → IsTrimmed value.toList) (spec : String) :
    (∀ header ∈ parse table spec, IsTrimmed header.2.toList) ↔
      ∀ pair ∈ pairs spec.toList, ∀ name value, splitPair pair = some (name, value) → name ≠ [] →
        ¬ Frays table value := by
  constructor
  · intro htrimmed pair hpair name value hsplit hname
    have hvalue := (isTrimmed_of_splitPair hsplit).2
    apply (isTrimmed_expand_iff hvalues hvalue).mp
    by_cases hempty : expand table value = []
    · rw [hempty]
      exact isTrimmed_nil
    · simpa using htrimmed _
        (mem_parse_iff.mpr ⟨pair, hpair, name, value, hsplit, hname, hempty, rfl⟩)
  · intro hwhole header hheader
    obtain ⟨pair, hpair, name, value, hsplit, hname, -, rfl⟩ := mem_parse_iff.mp hheader
    have hvalue := (isTrimmed_of_splitPair hsplit).2
    simpa using
      (isTrimmed_expand_iff hvalues hvalue).mpr (hwhole pair hpair name value hsplit hname)

/-- A character of printable ASCII, or a tab. -/
def IsPrintable (c : Char) : Prop :=
  c = '\t' ∨ 0x20 ≤ c.toNat ∧ c.toNat ≤ 0x7E

instance : DecidablePred IsPrintable :=
  fun c => inferInstanceAs (Decidable (c = '\t' ∨ _))

theorem IsPrintable.isAscii {c : Char} (h : IsPrintable c) : c.toNat < 128 := by
  rcases h with rfl | h
  · decide
  · omega

/-- A printable character is never barred, and blank only as a gap. -/
theorem IsPrintable.spaced {c : Char} (h : IsPrintable c) :
    ¬ Wire.IsBarredChar c ∧ (isBlank c = false ↔ ¬ Wire.IsGapChar c) := by
  have hascii := h.isAscii
  revert h
  apply forall_ascii (P := fun c => IsPrintable c →
    ¬ Wire.IsBarredChar c ∧ (isBlank c = false ↔ ¬ Wire.IsGapChar c)) _ hascii
  decide +kernel

/-- A printable text is a field value if it is trimmed. -/
theorem isFieldValue_iff_isTrimmed {value : String} (h : ∀ c ∈ value.toList, IsPrintable c) :
    Wire.isFieldValue (Wire.ascii value) = true ↔ IsTrimmed value.toList := by
  rw [Wire.isFieldValue_ascii_iff fun c hc => (h c hc).isAscii]
  have hgap (c : Char) (hc : c ∈ value.toList) : isBlank c = false ↔ ¬ Wire.IsGapChar c :=
    (h c hc).spaced.2
  constructor
  · rintro ⟨-, hfirst, hlast⟩
    exact ⟨fun c hc => (hgap c (List.mem_of_head? hc)).mpr (hfirst c hc),
      fun c hc => (hgap c (List.mem_of_getLast? hc)).mpr (hlast c hc)⟩
  · rintro ⟨hfirst, hlast⟩
    exact ⟨fun c hc => (h c hc).spaced.1,
      fun c hc => (hgap c (List.mem_of_head? hc)).mp (hfirst c hc),
      fun c hc => (hgap c (List.mem_of_getLast? hc)).mp (hlast c hc)⟩

/-- What every header that comes out has, whatever became of its macros. A value that is not
trimmed is one that the wire refuses. -/
structure Formed (header : Header) : Prop where
  named : header.1.toList ≠ []
  valued : header.2.toList ≠ []
  name : IsTrimmed header.1.toList
  legal : (∀ c ∈ header.2.toList, IsPrintable c) →
    (Wire.isFieldValue (Wire.ascii header.2) = true ↔ IsTrimmed header.2.toList)

theorem formed_of_mem_parse {spec : String} {header : Header} (h : header ∈ parse table spec) :
    Formed header := by
  obtain ⟨pair, _, name, value, hsplit, hname, hvalue, rfl⟩ := mem_parse_iff.mp h
  have htrimmed := (isTrimmed_of_splitPair hsplit).1
  exact { named := by simpa using hname
          valued := by simpa using hvalue
          name := by simpa using htrimmed
          legal := isFieldValue_iff_isTrimmed }

/-- With a table of trimmed values, every header that comes out has a trimmed name and a value,
and the values are trimmed, too, unless one of them is written so that it frays. -/
theorem trimmed_iff_none_frays
    (hvalues : ∀ name value, table name = some value → IsTrimmed value.toList) (spec : String) :
    (∀ header ∈ parse table spec, Formed header) ∧
      ((∀ header ∈ parse table spec, IsTrimmed header.2.toList) ↔
        ∀ pair ∈ pairs spec.toList, ∀ name value, splitPair pair = some (name, value) →
          name ≠ [] → ¬ Frays table value) :=
  ⟨fun _ => formed_of_mem_parse, isTrimmed_values_iff hvalues spec⟩

/-- An unknown macro within a value leaves the ends of the value alone. -/
theorem trimmed_around_unknown :
    let table : Table := fun name => if name = "A" then some "1" else none
    (∀ name value, table name = some value → IsTrimmed value.toList) ∧
      parse table "X-A: ##A## ##B## c | X-B : ##B##" = [("X-A", "1  c")] ∧
      Formed ("X-A", "1  c") ∧
      ∀ pair ∈ pairs "X-A: ##A## ##B## c | X-B : ##B##".toList, ∀ name value,
        splitPair pair = some (name, value) → name ≠ [] → ¬ Frays table value := by
  intro table
  have hvalues : ∀ name value, table name = some value → IsTrimmed value.toList := by
    intro name value hvalue
    obtain ⟨-, rfl⟩ : name = "A" ∧ "1" = value := by simpa [table] using hvalue
    decide
  have hparsed : parse table "X-A: ##A## ##B## c | X-B : ##B##" = [("X-A", "1  c")] := by
    decide +kernel
  obtain ⟨hformed, htrimmed⟩ :=
    trimmed_iff_none_frays hvalues "X-A: ##A## ##B## c | X-B : ##B##"
  rw [hparsed] at hformed htrimmed
  refine ⟨hvalues, hparsed, hformed _ (List.mem_singleton.mpr rfl), htrimmed.mp ?_⟩
  intro header hheader
  obtain rfl := List.mem_singleton.mp hheader
  decide

/-- A value with an unknown macro behind a blank ends with the blank, and is refused on the wire. -/
theorem untrimmed_before_unknown :
    let table : Table := fun _ => none
    (∀ name value, table name = some value → IsTrimmed value.toList) ∧
      ("A", "a ") ∈ parse table "A:a ##X##" ∧ ¬ IsTrimmed "a ".toList ∧
      Wire.isFieldValue (Wire.ascii "a ") = false := by
  exact ⟨nofun, by decide +kernel, by decide, by decide⟩

end MmsHttp.ExtraHeader
