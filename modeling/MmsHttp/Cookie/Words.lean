import MmsHttp.Text.Blank
import MmsHttp.Text.Split

/-!
The attributes of a cookie as headers write them. The old header sets one cookie, and a
semicolon ends each attribute. The new one sets any number of them, between commas, and
its values may stand in quotes.
-/

namespace MmsHttp.Cookie

open Text

/-- The value of an attribute: none at all, a text, or the time that it names. -/
inductive Value where
  | missing
  | text (cs : List Char)
  | time (seconds : Int)
  deriving DecidableEq, Repr

abbrev Attribute := List Char × Value

def Value.ofText? : Option (List Char) → Value
  | none => .missing
  | some cs => .text cs

def withoutQuotes (cs : List Char) : List Char :=
  let cs := if cs.head? == some '"' then cs.tail else cs
  if cs.getLast? == some '"' then cs.dropLast else cs

/-- The attributes in an old header, the cookie itself first. A header without a name sets
nothing. -/
def pieces (header : String) : List Attribute :=
  let all := (splitBy (· == ';') header.toList).map fun piece =>
    let (name, value) := cut (· == '=') (trim piece)
    (trim name, Value.ofText? (value.map trim))
  match all with
  | [] => []
  | first :: rest => if first.1.isEmpty then [] else first :: rest.filter (!·.1.isEmpty)

def inWord (c : Char) : Bool :=
  !(isBlank c || c == '=' || c == ';' || c == ',')

def withFirst (c : Char) (found : Option (List Char × List Char)) :
    Option (List Char × List Char) :=
  found.map fun (text, rest) => (c :: text, rest)

/-- The text up to the closing quote, its escapes taken for what they stand for, and what
follows. -/
def quotedText? : List Char → Option (List Char × List Char)
  | [] => none
  | '"' :: rest => some ([], rest)
  | ['\\'] => none
  | '\\' :: c :: rest => if c == '\n' then none else withFirst c (quotedText? rest)
  | c :: rest => withFirst c (quotedText? rest)

/-- The value after the name of an attribute, and what follows. -/
def valueAfter (cs : List Char) : Value × List Char :=
  match trimStart cs with
  | '=' :: rest =>
    let rest := trimStart rest
    let plain := rest.takeWhile fun c => !(isBlank c || c == ';' || c == ',')
    let quoted := if rest.head? == some '"' then quotedText? rest.tail else none
    match quoted with
    | some (text, rest) => (.text text, rest)
    | none => (.text plain, rest.drop plain.length)
  | _ => (.missing, cs)

theorem length_trimStart_le (cs : List Char) : (trimStart cs).length ≤ cs.length :=
  (List.dropWhile_suffix _).length_le

theorem exists_of_withFirst {c : Char} {found : Option (List Char × List Char)}
    {text rest : List Char} (h : withFirst c found = some (text, rest)) :
    ∃ inner, found = some (inner, rest) := by
  obtain ⟨⟨inner, after⟩, hinner, heq⟩ := Option.map_eq_some_iff.mp h
  obtain ⟨-, rfl⟩ := Prod.mk.inj heq
  exact ⟨inner, hinner⟩

theorem length_of_quotedText? {cs text rest : List Char} (h : quotedText? cs = some (text, rest)) :
    rest.length ≤ cs.length := by
  fun_induction quotedText? cs generalizing text with
  | case1 => cases h
  | case2 cs =>
      obtain ⟨-, rfl⟩ := Prod.mk.inj (Option.some.inj h)
      exact Nat.le_succ cs.length
  | case3 => cases h
  | case4 => cases h
  | case5 c cs hline ih =>
      obtain ⟨inner, hinner⟩ := exists_of_withFirst h
      exact Nat.le_succ_of_le (Nat.le_succ_of_le (ih hinner))
  | case6 cs c hquote hescape hlast ih =>
      obtain ⟨inner, hinner⟩ := exists_of_withFirst h
      exact Nat.le_succ_of_le (ih hinner)

theorem length_valueAfter_le (cs : List Char) : (valueAfter cs).2.length ≤ cs.length := by
  unfold valueAfter
  split
  case h_2 => exact Nat.le_refl _
  case h_1 rest hstart =>
    have hshort := length_trimStart_le cs
    have hrest := length_trimStart_le rest
    rw [hstart, List.length_cons] at hshort
    dsimp only
    split
    case h_1 text after hquoted =>
      split at hquoted
      · have hafter := length_of_quotedText? hquoted
        rw [List.length_tail] at hafter
        change after.length ≤ cs.length
        omega
      · cases hquoted
    case h_2 =>
      rw [List.length_drop]
      omega

/-- The cookies in a new header, each with its attributes; `before` are those of the first
one that have been read. -/
def words (before : List Attribute) (cs : List Char) : List (List Attribute) :=
  let done := if before.isEmpty then [] else [before]
  match _hstart : cs.dropWhile fun c => !inWord c && c != ',' with
  | [] => done
  | c :: rest =>
    if c == ',' then done ++ words [] rest
    else
      let name := rest.takeWhile inWord
      let value := valueAfter (rest.drop name.length)
      words (before ++ [(c :: name, value.1)]) value.2
termination_by cs.length
decreasing_by
  all_goals
    have hshort := (List.dropWhile_suffix (l := cs) fun c => !inWord c && c != ',').length_le
    rw [_hstart, List.length_cons] at hshort
  · omega
  · have hvalue := length_valueAfter_le (rest.drop (rest.takeWhile inWord).length)
    rw [List.length_drop] at hvalue
    omega

end MmsHttp.Cookie
