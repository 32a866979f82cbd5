import MmsHttp.Idna.Label
import MmsHttp.Text.Split

namespace MmsHttp.Idna

def isDot (c : Char) : Bool :=
  c == '.' || c.toNat == 0x3002 || c.toNat == 0xFF0E || c.toNat == 0xFF61

/-- The labels of a name without an empty last one, and whether there was one. -/
def labelsAndRoot (name : List Char) : List (List Char) × Bool :=
  let all := Text.splitBy isDot name
  if all.getLast? == some [] then (all.dropLast, true) else (all, false)

def encodeName (name : List Char) : Except LabelError (List Char) := do
  if 254 < name.length then throw (.general "Domain too long")
  if name.isEmpty then throw (.general "Empty domain")
  let (parts, root) := labelsAndRoot name
  let encoded ← parts.mapM wire
  let text := List.intercalate ['.'] (if root then encoded ++ [[]] else encoded)
  if (if root then 254 else 253) < text.length then throw (.general "Domain too long")
  pure text

def decodeName (name : List Char) : Except LabelError (List Nat) := do
  if 254 < name.length then throw (.general "Domain too long")
  if name.isEmpty then throw (.general "Empty domain")
  let (parts, root) := labelsAndRoot name
  let decoded ← parts.mapM readable
  pure (List.intercalate [46] (if root then decoded ++ [[]] else decoded))

end MmsHttp.Idna
