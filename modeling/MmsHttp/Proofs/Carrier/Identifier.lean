import MmsHttp.Proofs.Executor.Admission
import MmsHttp.Proofs.Text.Base64
import MmsHttp.Proofs.Text.Utf8

/-!
The network access identifier in headers. It may hold any characters, line breaks and NUL among
them; what its macro stands for can be sent in a header all the same, and can be read back.
-/

namespace MmsHttp.Carrier

open Text

def identifier (carrier : Carrier) : String :=
  carrier.nai ++ carrier.naiSuffix

/-- What holds of the text that a carrier's identifier is sent as. -/
structure SendsIdentifier (carrier : Carrier) (value : String) : Prop where
  given : carrier.lookup "NAI" = some value
  padded : Base64.Padded (utf8 carrier.identifier.toList).length value.toList
  decodes : (Base64.decode? value.toList).bind fromUtf8? = some carrier.identifier.toList
  strict : ∀ text, Base64.decode? text = Base64.decode? value.toList → text = value.toList
  expands : Macro.expand carrier.lookup "##NAI##".toList = value.toList
  known : Macro.unknown carrier.lookup "##NAI##".toList = []
  passes : ∀ name, Executor.isHeaderName name = true →
    Executor.headerFailure? [(name, value)] = none ∧
      Executor.encodingFailure? [(name, value)] = none
  distinct : ∀ other : Carrier, other.nai ≠ "" →
    (other.lookup "NAI" = some value ↔ other.identifier = carrier.identifier)

def written (carrier : Carrier) : List Char :=
  Base64.encode (utf8 carrier.identifier.toList)

variable (carrier : Carrier)

theorem read_written :
    (Base64.decode? carrier.written).bind fromUtf8? = some carrier.identifier.toList := by
  rw [written, Base64.decode?_encode, Option.bind_some, fromUtf8?_utf8]

theorem written_inj {other : Carrier} :
    other.written = carrier.written ↔ other.identifier = carrier.identifier := by
  constructor
  · intro hwritten
    have hread := read_written other
    rw [hwritten, read_written] at hread
    exact String.toList_inj.mp (Option.some.inj hread).symm
  · intro hsame
    rw [written, hsame, written]

variable {carrier}

theorem written_ne_nil (h : carrier.nai ≠ "") : carrier.written ≠ [] := by
  intro hnone
  have hread := read_written carrier
  have hempty : fromUtf8? [] = some [] := fromUtf8?_utf8 []
  rw [hnone, Base64.decode?, Option.bind_some, hempty, identifier, String.toList_append] at hread
  obtain ⟨hnai, -⟩ := List.nil_eq_append_iff.mp (Option.some.inj hread)
  exact h (String.toList_eq_nil_iff.mp hnai)

theorem lookup_nai (h : carrier.nai ≠ "") :
    carrier.lookup "NAI" = some (String.ofList carrier.written) := by
  have hencoded : carrier.encodedNai = String.ofList carrier.written := by
    simp [encodedNai, h, written, identifier]
  have hsome : String.ofList carrier.written ≠ "" := by
    simpa using written_ne_nil h
  simp [lookup, hencoded, nonempty?, hsome]

theorem passes_written (carrier : Carrier) {name : String}
    (hname : Executor.isHeaderName name = true) :
    Executor.headerFailure? [(name, String.ofList carrier.written)] = none ∧
      Executor.encodingFailure? [(name, String.ofList carrier.written)] = none := by
  have hdigits : Base64.alphabet.all (fun c => !Executor.isForbidden c && isAscii c) = true := by
    decide
  have hharmless : ∀ c ∈ carrier.written, Executor.isForbidden c = false ∧ isAscii c = true :=
    (Base64.padded_encode _).forall_mem (by simpa using hdigits) (by decide)
  rw [Executor.headerFailure?_eq_none_iff, Executor.encodingFailure?_eq_none_iff]
  simp only [List.forall_mem_singleton, String.toList_ofList, List.any_eq_false, List.all_eq_true,
    Bool.not_eq_true]
  refine ⟨⟨hname, fun c hc => (hharmless c hc).1⟩, fun c hc => ?_, fun c hc => (hharmless c hc).2⟩
  rw [Executor.isHeaderName, Bool.and_eq_true, List.all_eq_true] at hname
  exact Executor.isAscii_of_inHeaderName (hname.2 c hc)

/-- Whatever characters an identifier and its suffix have, their macro stands for a text in
Base64 from which they can be read back, and which every header can have as its value. -/
theorem exists_sendsIdentifier (h : carrier.nai ≠ "") :
    ∃ value, carrier.SendsIdentifier value := by
  have hgiven := lookup_nai h
  have htoken : Macro.pieces "##NAI##".toList = [.token "NAI".toList] := by decide +kernel
  refine ⟨String.ofList carrier.written, ?_⟩
  constructor
  case given => exact hgiven
  case padded =>
    rw [String.toList_ofList]
    exact Base64.padded_encode _
  case decodes =>
    rw [String.toList_ofList]
    exact read_written carrier
  case strict =>
    intro text htext
    rw [String.toList_ofList] at htext ⊢
    rw [written, Base64.decode?_encode] at htext
    exact Base64.decode?_eq_some_iff.mp htext
  case expands =>
    rw [Macro.expand, htoken]
    simp [Macro.Piece.value, hgiven]
  case known =>
    rw [Macro.unknown, htoken]
    simp [Macro.Piece.unknown?, hgiven]
  case passes => exact fun name hname => carrier.passes_written hname
  case distinct =>
    intro other hother
    rw [lookup_nai hother, Option.some.injEq, String.ofList_inj]
    exact written_inj carrier

/-- Line breaks, NUL and characters of every length in UTF-8. -/
theorem exists_sendsIdentifier_with_controls :
    let carrier : Carrier := { nai := "a\r\n\x00é", naiSuffix := "€😀" }
    carrier.nai ≠ "" ∧ carrier.SendsIdentifier "YQ0KAMOp4oKs8J+YgA==" := by
  intro carrier
  have hnai : carrier.nai ≠ "" := by decide
  obtain ⟨value, hsends⟩ := exists_sendsIdentifier hnai
  have hvalue : carrier.lookup "NAI" = some "YQ0KAMOp4oKs8J+YgA==" := by decide +kernel
  obtain rfl := Option.some.inj (hsends.given.symm.trans hvalue)
  exact ⟨hnai, hsends⟩

end MmsHttp.Carrier
