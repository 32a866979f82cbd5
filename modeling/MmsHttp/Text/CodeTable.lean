import MmsHttp.Text.Hex
import MmsHttp.Text.Split

/-!
Properties of characters as tables of code-point runs. A table is written as words
of hexadecimal runs, `41-5A` or `5F`, each with an optional value after `=`; looking
a code point up is a binary search over the sorted runs.
-/

namespace MmsHttp.Text

structure CodeRun where
  first : Nat
  last : Nat
  value : String
  deriving Inhabited

/-- Disjoint runs in ascending order. -/
structure CodeTable where
  runs : Array CodeRun

namespace CodeTable

def readRun (word : List Char) : CodeRun :=
  let (key, value) := cut (· == '=') word
  let (first, last) := cut (· == '-') key
  { first := hexValue first
    last := hexValue (last.getD first)
    value := String.ofList (value.getD []) }

def ofLines (lines : List String) : CodeTable :=
  ⟨((lines.flatMap fun line => (splitBy (· == ' ') line.toList).filter (!·.isEmpty)).map
    readRun).toArray⟩

/-- The run holding a code point among those from index `low` up to `high`. -/
def search (runs : Array CodeRun) (code low high : Nat) : Option CodeRun :=
  if low < high then
    let middle := (low + high) / 2
    match runs[middle]? with
    | none => none
    | some run =>
      if code < run.first then search runs code low middle
      else if run.last < code then search runs code (middle + 1) high
      else some run
  else none
termination_by high - low

def find? (table : CodeTable) (code : Nat) : Option CodeRun :=
  search table.runs code 0 table.runs.size

def value? (table : CodeTable) (code : Nat) : Option String :=
  (table.find? code).map (·.value)

def contains (table : CodeTable) (c : Char) : Bool :=
  (table.find? c.toNat).isSome

end CodeTable

end MmsHttp.Text
