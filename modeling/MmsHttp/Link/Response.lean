import MmsHttp.Exchange.Message
import MmsHttp.Link.Fault

/-!
Responses of a link in the hands of the exchange. The body comes in as the chunks of the
link's stream. Whatever the link fails with, at once or in the middle of a body, is reported
under the exchange's own classes; reading a body to its end closes the stream, and closing
it again changes nothing.
-/

namespace MmsHttp

/-- A response as a link gives it, with the fault that ends its body if it does not end
well, and whether there is something to close in its stream. -/
structure LinkReply where
  status : Nat
  reason : Option Bytes
  headers : List Headers.Raw
  chunks : List Bytes
  failure : Option LinkFault
  closable : Bool := true
  deriving DecidableEq, Repr

/-- A fault as the exchange gets to know it. One that the exchange has a class for comes with
the fault that caused it and the request that it belongs to; any other fault of a link is
handed on as it is. -/
structure LinkReport where
  fault : Fault
  cause : Option LinkFault := none
  request : Option Outgoing := none
  deriving DecidableEq, Repr

def LinkFault.report (request : Outgoing) (fault : LinkFault) : LinkReport :=
  match fault.cls.reportedAs? with
  | some cls => { fault := ⟨cls, fault.text⟩, cause := some fault, request := some request }
  | none => { fault := ⟨.outside fault.cls.name, fault.text⟩ }

/-- The report of a body that does not decode: it is caused by whatever undoes the coding, and
comes with no request. -/
def LinkReport.undecodable (fault : Fault) : LinkReport :=
  { fault, cause := some (.plain (.outside "error") Fault.unworded) }

/-- A response whose body is still to be taken from the stream of a link. -/
structure LinkResponse where
  status : Nat
  reason : Option Bytes
  headers : List Headers.Raw
  chunks : List Bytes
  failure : Option LinkReport
  closable : Bool
  isClosed : Bool := false
  timesClosed : Nat := 0
  deriving DecidableEq, Repr

/-- A reply of a link as the response to a request. -/
def LinkReply.respond (request : Outgoing) (reply : LinkReply) : LinkResponse :=
  { status := reply.status
    reason := reply.reason
    headers := reply.headers
    chunks := reply.chunks
    failure := reply.failure.map (LinkFault.report request)
    closable := reply.closable }

namespace LinkResponse

def incoming (response : LinkResponse) : Incoming :=
  { status := response.status
    reason := response.reason
    headers := response.headers
    body := ⟨response.chunks, response.failure.map LinkReport.fault⟩ }

/-- Closes a response. Only the first time reaches the stream of the link, and only a stream
that can be closed. -/
def close (response : LinkResponse) : LinkResponse :=
  if response.isClosed then response
  else
    { response with
      isClosed := true
      timesClosed := response.timesClosed + if response.closable then 1 else 0 }

/-- Reads the body of a response to its end; that closes it. A body that does not decode is
given up before the stream can fail. -/
def read (response : LinkResponse) : Except LinkReport Bytes × LinkResponse :=
  let chunks : BodyStream := ⟨response.chunks, none⟩
  match (chunks.read response.incoming.fields).1 with
  | .error fault => (.error (.undecodable fault), response)
  | .ok body =>
    match response.failure with
    | some report => (.error report, response)
    | none => (.ok body, response.close)

end LinkResponse

end MmsHttp
