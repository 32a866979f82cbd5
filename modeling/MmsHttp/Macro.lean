import MmsHttp.Text.Blank

/-!
Macros in carrier texts. A token `##NAME##` stands for a value that the carrier's
table gives; a name that the table does not know stands for nothing and is reported.
Values are inserted as they are and never scanned again.
-/

namespace MmsHttp.Macro

open Text

abbrev Table := String → Option String

/-- A piece of a text with macros. -/
inductive Piece where
  | plain (c : Char)
  | token (name : List Char)
  deriving DecidableEq, Repr

/-- What follows the two hashes that a text begins with. -/
def afterHashes : List Char → Option (List Char)
  | a :: b :: rest => if a == '#' && b == '#' then some rest else none
  | _ => none

theorem afterHashes_length {cs rest : List Char} (h : afterHashes cs = some rest) :
    cs.length = rest.length + 2 := by
  match cs, h with
  | a :: b :: _, h =>
      simp only [afterHashes] at h
      split at h
      · cases h
        rfl
      · cases h

/-- Reads the rest of a token after its opening hashes: the shortest name of at least
one character, none of them blank, up to the closing hashes, and what follows them. -/
def closeToken : List Char → Option (List Char × List Char)
  | [] => none
  | c :: rest =>
    if isBlank c then none
    else
      match afterHashes rest with
      | some after => some ([c], after)
      | none => (closeToken rest).map fun (name, after) => (c :: name, after)

theorem closeToken_length {cs name after : List Char}
    (h : closeToken cs = some (name, after)) : cs.length = name.length + 2 + after.length := by
  induction cs generalizing name with
  | nil => simp [closeToken] at h
  | cons c rest ih =>
      unfold closeToken at h
      split at h
      · cases h
      · split at h
        case h_1 found =>
          cases h
          have := afterHashes_length found
          simp only [List.length_cons, List.length_nil]
          omega
        case h_2 =>
          obtain ⟨⟨n, a⟩, found, same⟩ := Option.map_eq_some_iff.mp h
          cases same
          have := ih found
          simp only [List.length_cons]
          omega

/-- Reads a token at the head of a text: its name and what follows it. -/
def token? (cs : List Char) : Option (List Char × List Char) :=
  (afterHashes cs).bind closeToken

/-- Reading a token takes something away. -/
theorem token?_length {cs name after : List Char}
    (h : token? cs = some (name, after)) : after.length < cs.length := by
  obtain ⟨rest, opened, closed⟩ := Option.bind_eq_some_iff.mp h
  have := afterHashes_length opened
  have := closeToken_length closed
  omega

/-- Splits a text into plain characters and tokens, each token beginning at the first
place where one can begin after the token before it. -/
def pieces (cs : List Char) : List Piece :=
  match found : token? cs with
  | some (name, after) =>
    have := token?_length found
    .token name :: pieces after
  | none =>
    match cs with
    | [] => []
    | c :: rest => .plain c :: pieces rest
termination_by cs.length

def Piece.value (table : Table) : Piece → List Char
  | .plain c => [c]
  | .token name => ((table (String.ofList name)).getD "").toList

def Piece.unknown? (table : Table) : Piece → Option String
  | .plain _ => none
  | .token name =>
    if (table (String.ofList name)).isNone then some (String.ofList name) else none

/-- The text with every token replaced by its value. -/
def expand (table : Table) (cs : List Char) : List Char :=
  (pieces cs).flatMap (Piece.value table)

/-- The names that the table does not know, once for each token, from left to right. -/
def unknown (table : Table) (cs : List Char) : List String :=
  (pieces cs).filterMap (Piece.unknown? table)

end MmsHttp.Macro
