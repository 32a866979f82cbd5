import MmsHttp.ExtraHeader
import MmsHttp.Text.Bytes
import MmsHttp.Text.Lowercase

namespace MmsHttp.Headers

def named (name : String) (header : Header) : Bool :=
  Text.sameName header.1 name

def has (headers : List Header) (name : String) : Bool :=
  headers.any (named name)

def values (headers : List Header) (name : String) : List String :=
  (headers.filter (named name)).map (·.2)

/-- The values of a name in one text, with commas between them. -/
def value? (headers : List Header) (name : String) : Option String :=
  match values headers name with
  | [] => none
  | found => some (String.intercalate ", " found)

def erase (headers : List Header) (name : String) : List Header :=
  headers.filter fun header => !named name header

/-- Gives a name one value: its first header is replaced where it stands and the others
go; a name that has no header yet gets one at the end. -/
def set : List Header → Header → List Header
  | [], header => [header]
  | first :: rest, header =>
    if named header.1 first then header :: erase rest header.1
    else first :: set rest header

def setDefault (headers : List Header) (header : Header) : List Header :=
  if has headers header.1 then headers else headers ++ [header]

/-- Puts headers after those whose names they do not have. -/
def update (headers more : List Header) : List Header :=
  headers.filter (fun header => !has more header.1) ++ more

/-- A header as it came over the wire. -/
abbrev Raw := Bytes × Bytes

/-- Decodes the headers of a response, all in the same way: as ASCII or UTF-8 if that is
possible for every one, else byte by byte. Names are in small letters. -/
def decode (raw : List Raw) : List Header :=
  let lowerName (name : List Char) : String := String.ofList (name.map Text.lowerAscii)
  let asUtf8 := raw.mapM fun (name, value) => do
    let name ← Text.fromUtf8? name
    let value ← Text.fromUtf8? value
    some (lowerName name, String.ofList value)
  asUtf8.getD (raw.map fun (name, value) =>
    (lowerName (Text.fromLatin1 name), String.ofList (Text.fromLatin1 value)))

end MmsHttp.Headers
