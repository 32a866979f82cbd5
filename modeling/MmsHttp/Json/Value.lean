import MmsHttp.Decimal.Binary64

namespace MmsHttp

inductive Json where
  | null
  | bool (b : Bool)
  | int (n : Int)
  | float (x : Binary64)
  | text (s : String)
  /-- A string with half of a surrogate pair, which is no text. -/
  | halfText
  | list (items : List Json)
  | object (members : List (String × Json))
  deriving Inhabited

namespace Json

/-- The members of an object, each name once: the last value counts, at the place where
the name came first. -/
def ofMembers (members : List (String × Json)) : Json :=
  .object (members.foldl
    (fun kept (name, value) =>
      if kept.any (·.1 == name) then
        kept.map fun member => if member.1 == name then (name, value) else member
      else kept ++ [(name, value)])
    [])

end Json

end MmsHttp
