import MmsHttp.Event
import MmsHttp.Exchange.Redirect
import MmsHttp.Route

/-!
Exchanges over a channel. A channel is whatever carries messages: it can be acquired for
a route, takes one request at a time and is told how the response was left. An exchange
sends a request and, if it may, follows redirects until a response is final.
-/

namespace MmsHttp

/-- What carries messages, as functions on a world `σ` that stands for everything outside
the transport. -/
structure Channel (σ : Type) where
  /-- Makes the channel ready for a route. -/
  acquire : Route → σ → Except Fault (List Event) × σ
  /-- Sends a request and waits for the head of the response. -/
  send : Outgoing → σ → Except Fault Incoming × σ
  /-- Lets go of the response that came last. -/
  release : Reading → σ → σ

namespace Channel

variable {σ : Type}

def maxRequests : Nat := 21

def tooManyRedirects : Fault :=
  ⟨.tooManyRedirects, "Exceeded maximum allowed redirects."⟩

/-- A response that has not been released, or the fault that ended the exchange. -/
abbrev Outcome (σ : Type) := Except Fault Incoming × σ

/-- Sends a request and goes on with those that redirects lead to. The next request is
made for every redirect, whether it is followed or not. The clock is read when cookies are
taken from a response, and again when cookies are chosen for the next request. -/
def exchange (channel : Channel σ) (follows : Bool) :
    (requests : Nat) → Clock → Jar → Outgoing → σ → Outcome σ
  | 0, _, _, _, world => (.error tooManyRedirects, world)
  | requests + 1, clock, jar, request, world =>
    match channel.send request world with
    | (.error fault, world) => (.error fault, world)
    | (.ok response, world) =>
      match Cookie.change (clock 0) request.url response.fields with
      | .error fault => (.error fault, world)
      | .ok change =>
        let jar := change.apply jar
        match response.location? with
        | none => (.ok response, world)
        | some location =>
          match Redirect.next (clock 1) request response.status location jar with
          | .error fault => (.error fault, channel.release ⟨0, false⟩ world)
          | .ok next =>
            if follows then
              match response.body.read response.fields with
              | (.error fault, reading) => (.error fault, channel.release reading world)
              | (.ok _, reading) =>
                exchange channel follows requests (clock.after 2) jar next
                  (channel.release reading world)
            else (.ok response, world)

end Channel

end MmsHttp
