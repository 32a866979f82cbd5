import MmsHttp.Exchange.Channel

namespace MmsHttp

/-- How the stream of a response was used: how many chunks were taken from it, and how
often it was closed. -/
structure StreamUse where
  taken : Nat := 0
  closed : Nat := 0
  deriving DecidableEq, Repr

/-- The replies still to come, and what has happened so far. -/
structure Script where
  replies : List (Except Fault Incoming)
  acquired : List Route := []
  sent : List Outgoing := []
  streams : List StreamUse := []

namespace Script

/-- The reply when no other one is left. -/
def defaultReply : Incoming :=
  { status := 200, reason := none, headers := [], body := ⟨[], none⟩ }

def send (request : Outgoing) (script : Script) : Except Fault Incoming × Script :=
  let sent := script.sent ++ [request]
  match script.replies with
  | [] => (.ok defaultReply, { script with sent, streams := script.streams ++ [{}] })
  | .error fault :: replies => (.error fault, { script with replies, sent })
  | .ok response :: replies =>
    (.ok response, { script with replies, sent, streams := script.streams ++ [{}] })

/-- Notes how the last stream was left. -/
def noteReading (reading : Reading) : List StreamUse → List StreamUse
  | [] => []
  | [last] => [{ taken := last.taken + reading.taken, closed := last.closed + 1 }]
  | first :: rest => first :: noteReading reading rest

def channel : Channel Script where
  acquire route script := (.ok [], { script with acquired := script.acquired ++ [route] })
  send := send
  release reading script := { script with streams := noteReading reading script.streams }

end Script

end MmsHttp
