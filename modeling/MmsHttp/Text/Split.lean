namespace MmsHttp.Text

/-- The part of a text before the first character that satisfies `p`, and the part
after that character, if there is one. -/
def cut {α : Type} (p : α → Bool) (cs : List α) : List α × Option (List α) :=
  match cs.dropWhile (!p ·) with
  | [] => (cs, none)
  | _ :: rest => (cs.takeWhile (!p ·), some rest)

/-- The part of a text after the last character that satisfies `p`, and the part before
that character, if there is one. -/
def cutLast {α : Type} (p : α → Bool) (cs : List α) : Option (List α) × List α :=
  match cut p cs.reverse with
  | (after, none) => (none, after.reverse)
  | (after, some before) => (some before.reverse, after.reverse)

/-- The pieces of a text between the characters that satisfy `p`; there is always at
least one. -/
def splitBy {α : Type} (p : α → Bool) : List α → List (List α)
  | [] => [[]]
  | c :: cs =>
    if p c then [] :: splitBy p cs
    else
      match splitBy p cs with
      | [] => [[c]]
      | piece :: pieces => (c :: piece) :: pieces

def joinWith {α : Type} (separator : List α) (pieces : List (List α)) : List α :=
  separator.intercalate pieces

def startsWith (beginning cs : List Char) : Bool :=
  beginning.isPrefixOf cs

end MmsHttp.Text
