import MmsHttp.Exchange.Channel
import MmsHttp.Link.Response

/-!
A link carries the messages of exchanges over connections. It names a target and a host
where the exchange has a URL, and its faults are reported to the exchange under the
exchange's own classes; apart from that a channel over a link changes nothing.
-/

namespace MmsHttp

/-- A request as a link takes it. A port that is usual for the scheme is left out. -/
structure LinkRequest where
  method : String
  scheme : String
  host : String
  port : Option Int
  target : String
  headers : List Header
  body : Bytes
  timeout : Binary64
  deriving DecidableEq, Repr

namespace LinkRequest

def badMethod : Fault :=
  ⟨.outside "TypeError", "method strings may not include unicode characters."⟩

/-- A request of an exchange as a link takes it. The host and the method have to be ASCII. -/
def ofOutgoing (request : Outgoing) : Except Fault LinkRequest :=
  match Text.asciiComplaint request.url.host.toList with
  | some complaint => .error ⟨.outside "UnicodeEncodeError", complaint⟩
  | none =>
    if request.method.toList.all Text.isAscii then
      .ok
        { method := request.method
          scheme := request.url.scheme
          host := request.url.host
          port := request.url.port
          target := request.url.target
          headers := request.headers
          body := request.body
          timeout := request.timeout }
    else .error badMethod

end LinkRequest

/-- A link, as functions on a world `σ`. -/
structure Link (σ : Type) where
  /-- Makes the link ready for a route. -/
  acquire : Route → σ → Except Fault (List Event) × σ
  /-- Sends a request and waits for the head of the response. -/
  send : LinkRequest → σ → Except LinkFault LinkReply × σ
  /-- Lets go of the response that came last. -/
  release : Reading → σ → σ

namespace Link

variable {σ : Type}

/-- Sends a request of an exchange over a link. A request that a link cannot take never
reaches it. -/
def deliver (link : Link σ) (request : Outgoing) (world : σ) :
    Except LinkReport LinkResponse × σ :=
  match LinkRequest.ofOutgoing request with
  | .error fault => (.error { fault }, world)
  | .ok own =>
    match link.send own world with
    | (.error fault, world) => (.error (fault.report request), world)
    | (.ok reply, world) => (.ok (reply.respond request), world)

/-- Sends a request over a link for an exchange, which only looks at the fault of a report. -/
def carry (link : Link σ) (request : Outgoing) (world : σ) : Except Fault Incoming × σ :=
  let (outcome, world) := link.deliver request world
  ((outcome.map LinkResponse.incoming).mapError LinkReport.fault, world)

def channel (link : Link σ) : Channel σ where
  acquire := link.acquire
  send := link.carry
  release := link.release

end Link

end MmsHttp
