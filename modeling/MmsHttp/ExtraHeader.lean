import MmsHttp.Macro
import MmsHttp.Text.Split

/-!
Extra headers that a carrier asks for, written `name:value|name:value` with macros in
the values. A pair without a colon, with a blank name or with a value that comes out
empty is left out.
-/

namespace MmsHttp

abbrev Header := String × String

namespace ExtraHeader

open Text

/-- The pairs of a specification; there is always at least one, if only an empty one. -/
def pairs (spec : List Char) : List (List Char) :=
  splitBy (· == '|') spec

/-- The name and the value of a pair, divided at its first colon and trimmed. -/
def splitPair (pair : List Char) : Option (List Char × List Char) :=
  match cut (· == ':') pair with
  | (_, none) => none
  | (name, some value) => some (trim name, trim value)

def header? (table : Macro.Table) (pair : List Char) : Option Header :=
  match splitPair pair with
  | none => none
  | some (name, value) =>
    let value := Macro.expand table value
    if name.isEmpty || value.isEmpty then none
    else some (String.ofList name, String.ofList value)

/-- The macro names in a pair that the table does not know. A pair that is left out in
the end still reports them, unless it has no colon. -/
def unknown (table : Macro.Table) (pair : List Char) : List String :=
  match splitPair pair with
  | none => []
  | some (_, value) => Macro.unknown table value

def parse (table : Macro.Table) (spec : String) : List Header :=
  (pairs spec.toList).filterMap (header? table)

def unknownIn (table : Macro.Table) (spec : String) : List String :=
  (pairs spec.toList).flatMap (unknown table)

def render (headers : List Header) : String :=
  String.intercalate "|" (headers.map fun (name, value) => name ++ ":" ++ value)

end ExtraHeader

end MmsHttp
