import MmsHttp.Proofs.Text.Split
import MmsHttp.Wire.Request

/-!
Headers as lines of text. Headers whose names are tokens and whose values stay on one line
can be read back from the text that they are written as, whatever the values are, so no value
can bring a header in, take one away or change a name.
-/

namespace MmsHttp

/-- A character that a token may have: one that is visible in ASCII and delimits nothing. -/
def IsTokenChar (c : Char) : Prop :=
  0x21 ≤ c.toNat ∧ c.toNat ≤ 0x7E ∧ c ∉ "\"(),/:;<=>?@[\\]\x7b\x7d".toList

instance : DecidablePred IsTokenChar :=
  fun c => inferInstanceAs (Decidable (0x21 ≤ c.toNat ∧ c.toNat ≤ 0x7E ∧ c ∉ _))

theorem IsTokenChar.ne {c : Char} (h : IsTokenChar c) : c ≠ ':' ∧ c ≠ '\r' := by
  constructor
  · rintro rfl
    exact absurd h (by decide)
  · rintro rfl
    exact absurd h (by decide)

/-- A header that can be written on a line of its own: its name is a token, and its value is
ASCII without the characters that end a line or a text. -/
structure Header.Writable (header : Header) : Prop where
  nonempty : header.1 ≠ ""
  token : ∀ c ∈ header.1.toList, IsTokenChar c
  ascii : ∀ c ∈ header.2.toList, c.toNat < 128
  inline : ∀ c ∈ header.2.toList, c ≠ '\r' ∧ c ≠ '\n' ∧ c ≠ '\x00'

namespace Headers

def line (header : Header) : List Char :=
  header.1.toList ++ ':' :: ' ' :: header.2.toList

theorem return_not_mem_line {header : Header} (h : header.Writable) : '\r' ∉ line header := by
  intro hmem
  rcases List.mem_append.mp hmem with hname | hrest
  · exact (h.token _ hname).ne.2 rfl
  · have hvalue : '\r' ∈ header.2.toList := by simpa using hrest
    exact (h.inline _ hvalue).1 rfl

/-- Headers as text, each on a line with a carriage return and a line feed at its end. -/
def written (headers : List Header) : List Char :=
  headers.flatMap fun header => line header ++ ['\r', '\n']

/-- The text of headers, byte by byte, is what the writer of requests makes of them. -/
theorem writeField_eq_written (headers : List Header) :
    (headers.flatMap fun header =>
        Wire.Request.writeField (Wire.ascii header.1, Wire.ascii header.2)) =
      Text.utf8 (written headers) := by
  have hline (header : Header) :
      Wire.Request.writeField (Wire.ascii header.1, Wire.ascii header.2) =
        Text.utf8 (line header ++ ['\r', '\n']) := by
    simp [Wire.Request.writeField, Wire.ascii, Text.utf8, line]
  simp only [hline, written, Text.utf8, List.flatMap_assoc]

/-- The pieces of a text between its line ends; there is always at least one. -/
def lines : List Char → List (List Char)
  | [] => [[]]
  | '\r' :: '\n' :: rest => [] :: lines rest
  | c :: rest =>
    match lines rest with
    | [] => [[c]]
    | piece :: pieces => (c :: piece) :: pieces

/-- Reads a line: the name before the first colon, the value after the space behind it. -/
def readLine? (line : List Char) : Option Header :=
  match Text.cut (· == ':') line with
  | (name, some (' ' :: value)) => some (String.ofList name, String.ofList value)
  | _ => none

/-- Reads a text line by line. Its last line has to be ended like the others. -/
def read? (text : List Char) : Option (List Header) :=
  if (lines text).getLast? = some [] then (lines text).dropLast.mapM readLine? else none

theorem lines_append {piece : List Char} (hpiece : '\r' ∉ piece) (rest : List Char) :
    lines (piece ++ '\r' :: '\n' :: rest) = piece :: lines rest := by
  induction piece with
  | nil => rfl
  | cons c piece ih =>
      rw [List.mem_cons, not_or] at hpiece
      have hc : c ≠ '\r' := Ne.symm hpiece.1
      simp [lines, hc, ih hpiece.2]

theorem readLine?_line {header : Header} (hname : ∀ c ∈ header.1.toList, c ≠ ':') :
    readLine? (line header) = some header := by
  have hcolon : ∀ c ∈ header.1.toList, (c == ':') = false := by simpa using hname
  rw [readLine?, line, Text.cut_append_cons hcolon rfl]
  simp

theorem lines_written {headers : List Header} (hlines : ∀ header ∈ headers, '\r' ∉ line header) :
    lines (written headers) = headers.map line ++ [[]] := by
  induction headers with
  | nil => rfl
  | cons header rest ih =>
      rw [List.forall_mem_cons] at hlines
      rw [written, List.flatMap_cons, List.append_assoc, List.cons_append, List.cons_append,
        List.nil_append, lines_append hlines.1]
      exact congrArg (line header :: ·) (ih hlines.2)

theorem mapM_readLine?_line {headers : List Header} (h : ∀ header ∈ headers, header.Writable) :
    (headers.map line).mapM readLine? = some headers := by
  induction headers with
  | nil => rfl
  | cons header rest ih =>
      rw [List.forall_mem_cons] at h
      have hfirst := readLine?_line fun c hc => (h.1.token c hc).ne.1
      rw [List.map_cons, List.mapM_cons, hfirst, ih h.2]
      rfl

/-- Headers that can be written are read back from the text that they are written as. -/
theorem read?_written {headers : List Header} (h : ∀ header ∈ headers, header.Writable) :
    read? (written headers) = some headers := by
  have hlines : lines (written headers) = headers.map line ++ [[]] :=
    lines_written fun header hmem => return_not_mem_line (h header hmem)
  rw [read?, hlines, List.getLast?_concat, if_pos rfl, List.dropLast_concat, mapM_readLine?_line h]

end Headers

end MmsHttp
