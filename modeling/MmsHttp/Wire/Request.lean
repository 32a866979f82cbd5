import MmsHttp.Link.Basic
import MmsHttp.Wire.Field

namespace MmsHttp.Wire

open Text

/-- A request that the protocol allows. -/
structure Request where
  method : String
  target : String
  fields : List Headers.Raw
  body : Bytes
  deriving DecidableEq, Repr

namespace Request

def inTarget (b : UInt8) : Bool :=
  33 ≤ b && b ≤ 126

def isHost (field : Headers.Raw) : Bool :=
  lowerBytes field.1 == ascii "host"

/-- The request with the given parts, if the protocol allows it. -/
def make? (method target : String) (headers : List Header) (body : Bytes) : Option Request := do
  let fields := headers.map fun (name, value) => (ascii name, ascii value)
  guard (fields.all fun (name, value) => isToken name && isFieldValue value)
  let fields ← normalise none false fields
  guard ((fields.filter isHost).length == 1)
  guard (target != "" && (ascii target).all inTarget)
  pure { method, target, fields, body }

def writeField (field : Headers.Raw) : Bytes :=
  field.1 ++ ascii ": " ++ field.2 ++ ascii "\r\n"

def head (request : Request) : Bytes :=
  ascii (request.method ++ " " ++ request.target ++ " HTTP/1.1\r\n") ++
    (request.fields.filter isHost).flatMap writeField ++
    (request.fields.filter (!isHost ·)).flatMap writeField ++ ascii "\r\n"

def framing (request : Request) : Framing :=
  (framing? request.fields).getD (.counted 0)

def lengthFault (text : String) : LinkFault :=
  .plain (.outside "LocalProtocolError") text

def chunk (body : Bytes) : Bytes :=
  if body.isEmpty then []
  else ascii (String.ofList (hexNumber body.length) ++ "\r\n") ++ body ++ ascii "\r\n"

/-- What is written after the head, and the fault that ends it if the body does not keep
the length. -/
def writtenBody (request : Request) : Bytes × Option LinkFault :=
  match request.framing with
  | .counted length =>
    if length < request.body.length then
      ([], some (lengthFault "Too much data for declared Content-Length"))
    else if request.body.length < length then
      (request.body, some (lengthFault "Too little data for declared Content-Length"))
    else (request.body, none)
  | _ => (chunk request.body ++ ascii "0\r\n\r\n", none)

def offersUpgrade (request : Request) : Bool :=
  !(listed request.fields (ascii "upgrade")).isEmpty

end Request

end MmsHttp.Wire
