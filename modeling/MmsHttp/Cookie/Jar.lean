/-!
Cookies, and the jar that keeps them by domain, path and name. Each of these stands where it
came up first, and a domain or a path keeps its place when its last cookie is gone.
-/

namespace MmsHttp

/-- A cookie. Its name and value are as the server wrote them. -/
structure Cookie where
  name : String
  value : Option String
  version : Option Int
  domain : List Char
  /-- Whether the server named the domain, or else it is that of the request. -/
  hasDomain : Bool
  path : List Char
  port : Option (List Char)
  /-- Whether the server named the ports, or else they are that of the request. -/
  hasPort : Bool
  secure : Bool
  expires : Option Int
  deriving DecidableEq, Repr

/-- Entries by key, in the order in which their keys came up. -/
abbrev Entries (κ α : Type) := List (κ × α)

namespace Entries

variable {κ α : Type} [BEq κ]

/-- Changes the entry of a key; one that is not there yet is made from the given value and
stands last. -/
def amend (key : κ) (fresh : α) (change : α → α) : Entries κ α → Entries κ α
  | [] => [(key, change fresh)]
  | (own, value) :: rest =>
    if own == key then (own, change value) :: rest
    else (own, value) :: amend key fresh change rest

end Entries

/-- Cookies by domain, then by path, then by name. -/
abbrev Jar := Entries (List Char) (Entries (List Char) (Entries String Cookie))

namespace Jar

def cookies (jar : Jar) : List Cookie :=
  jar.flatMap fun (_, paths) => paths.flatMap fun (_, names) => names.map (·.2)

/-- Puts a cookie into the jar, in the place of the one that it replaces if there is one. -/
def put (jar : Jar) (cookie : Cookie) : Jar :=
  Entries.amend cookie.domain [] (fun paths =>
    Entries.amend cookie.path [] (fun names =>
      Entries.amend cookie.name cookie (fun _ => cookie) names) paths) jar

/-- Takes away the cookie that has the place of the given one. -/
def remove (jar : Jar) (cookie : Cookie) : Jar :=
  jar.map fun (domain, paths) =>
    (domain, if domain != cookie.domain then paths else
      paths.map fun (path, names) =>
        (path, if path != cookie.path then names else
          names.filter fun (name, _) => name != cookie.name))

end Jar

end MmsHttp
