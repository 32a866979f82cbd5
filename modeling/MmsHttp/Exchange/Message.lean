import MmsHttp.Coding.Decoder
import MmsHttp.Cookie
import MmsHttp.Decimal.Binary64
import MmsHttp.Status
import MmsHttp.Text.Base64

namespace MmsHttp

/-- A request on its way. The timeout, in seconds, holds for each of its steps. -/
structure Outgoing where
  method : String
  url : Url
  headers : List Header
  body : Bytes
  timeout : Binary64
  deriving DecidableEq, Repr

/-- The body of a response while it is still coming: its chunks, and the fault that ends
it if it does not end well. -/
structure BodyStream where
  chunks : List Bytes
  failure : Option Fault
  deriving DecidableEq, Repr

/-- A response whose head has come in. -/
structure Incoming where
  status : Nat
  reason : Option Bytes
  headers : List Headers.Raw
  body : BodyStream
  deriving DecidableEq, Repr

namespace Incoming

/-- The reason phrase: the ASCII part of the one given, or the standard one. -/
def phrase (response : Incoming) : String :=
  match response.reason with
  | some bytes => String.ofList (Text.fromLatin1 (bytes.filter (·.toNat < 128)))
  | none => Status.phrase response.status

def fields (response : Incoming) : List Header :=
  Headers.decode response.headers

/-- Where the response sends the caller to, if it does. -/
def location? (response : Incoming) : Option String :=
  if Status.isRedirect response.status then Headers.value? response.fields "location" else none

end Incoming

/-- How a response was left: how many chunks were taken from its body, and whether the
body was read to its end. -/
structure Reading where
  taken : Nat
  complete : Bool
  deriving DecidableEq, Repr

namespace BodyStream

/-- Reads a body to its end through decoders; empty chunks do not reach them. Gives the
body or the fault that ended it, and how it was read. -/
def readFrom (failure : Option Fault) :
    List Bytes → List Coding.Decoder → (taken : Nat) → (body : Bytes) →
      Except Fault Bytes × Reading
  | [], _, taken, body =>
    match failure with
    | some fault => (.error fault, ⟨taken, false⟩)
    | none => (.ok body, ⟨taken, true⟩)
  | chunk :: chunks, decoders, taken, body =>
    if chunk.isEmpty then readFrom failure chunks decoders (taken + 1) body
    else
      match Coding.Decoder.feedAll decoders chunk with
      | .error fault => (.error fault, ⟨taken + 1, false⟩)
      | .ok (decoded, decoders) => readFrom failure chunks decoders (taken + 1) (body ++ decoded)

def read (stream : BodyStream) (headers : List Header) : Except Fault Bytes × Reading :=
  readFrom stream.failure stream.chunks (Coding.Decoder.ofHeaders headers) 0 []

end BodyStream

namespace Outgoing

/-- The headers that every request has unless it names them itself. -/
def defaultHeaders : List Header :=
  [("Accept-Encoding", "gzip, deflate"), ("Connection", "keep-alive")]

def hostValue (url : Url) : Except Fault String :=
  match Text.asciiComplaint url.hostAndPort.toList with
  | none => .ok url.hostAndPort
  | some complaint => .error ⟨.outside "UnicodeEncodeError", complaint⟩

/-- Adds to the headers of a request what the message needs: the length of its body, and
in front the host and, for a method that has a body, the length zero. -/
def completeHeaders (method : String) (url : Url) (headers : List Header) (body : Bytes) :
    Except Fault (List Header) := do
  let headers :=
    if body.isEmpty then headers
    else Headers.setDefault headers ("Content-Length", toString body.length)
  let host ←
    if Headers.has headers "Host" || url.host == "" then pure []
    else (hostValue url).map fun value => [("Host", value)]
  let length :=
    if Headers.has headers "Content-Length" || Headers.has headers "Transfer-Encoding" then []
    else if ["POST", "PUT", "PATCH"].contains method then [("Content-Length", "0")]
    else []
  pure (host ++ length ++ headers)

def authorization? (url : Url) : Option Header :=
  let (user, password) := url.credentials
  if user == "" && password == "" then none
  else
    some ("Authorization",
      "Basic " ++ String.ofList (Base64.encode (Text.utf8 (user ++ ":" ++ password).toList)))

def first (method : String) (url : Url) (headers : List Header) (body : Bytes)
    (timeout : Binary64) : Except Fault Outgoing := do
  let headers ← completeHeaders method url (Headers.update defaultHeaders headers) body
  let headers :=
    match authorization? url with
    | none => headers
    | some header => Headers.set headers header
  pure { method, url, headers, body, timeout }

end Outgoing

end MmsHttp
