import MmsHttp.CommandLine.Program

/-!
A program on a network that answers while it runs. What the program does depends on what
the network has said so far, and where it needs more it stops: that is its next question.
With the answer the program starts over; it asks again what it asked before, gets the same
answers, and comes one question further.
-/

namespace MmsHttp.CommandLine

/-- What a program wants to know from a network. -/
inductive Question where
  /-- The addresses of a name. -/
  | name (host : String)
  /-- Whether a connection to an address can be made. -/
  | connection (address : String) (port : Int) (timeout : Binary64)
  /-- What a connection delivers next. -/
  | delivery (place : Nat)
  deriving DecidableEq, Repr

inductive Delivery where
  | part (bytes : Bytes)
  | ending
  | fault (fault : LinkFault)
  deriving DecidableEq, Repr

def Delivery.addTo (peer : Wire.Peer) : Delivery → Wire.Peer
  | .part bytes => { peer with parts := peer.parts ++ [bytes] }
  | .ending => { peer with readFault := none }
  | .fault reason => { peer with readFault := some reason }

/-- What a network has said so far: the addresses of names, and what became of attempts
to connect, in their order. -/
structure Dialogue where
  directory : Directory := []
  peers : List (Except LinkFault Wire.Peer) := []

namespace Dialogue

/-- The class of the fault that stops a program at a question. -/
def unanswered : String := "Unanswered"

/-- The fault that stops a program where a connection has not delivered more yet. -/
def undelivered (place : Nat) : LinkFault := .plain (.outside unanswered) (toString place)

def network (dialogue : Dialogue) : Wire.Network :=
  { directory := dialogue.directory, peers := dialogue.peers }

/-- The first question that a program could not get answered, if there is one. -/
def question? (dialogue : Dialogue) (outcome : Outcome) : Option Question :=
  let unknown (host : String) : Bool := dialogue.directory.all (·.1 != host)
  match outcome.network.lookups.find? unknown, outcome.network.streams[dialogue.peers.length]? with
  | some host, _ => some (.name host)
  | none, some stream => some (.connection stream.address stream.port stream.timeout)
  | none, none =>
    match outcome.ending with
    | .fault fault =>
      if fault.cls.name == unanswered then fault.text.toNat?.map .delivery else none
    | _ => none

def named (host : String) (answer : Answer) (dialogue : Dialogue) : Dialogue :=
  { dialogue with directory := dialogue.directory ++ [(host, answer)] }

/-- Takes in that a connection was made, which cannot be secured for the reason given. -/
def connected (insecure : LinkFault) (dialogue : Dialogue) : Dialogue :=
  let peer : Wire.Peer :=
    { parts := []
      readFault := some (undelivered dialogue.peers.length)
      tlsFault := some insecure }
  { dialogue with peers := dialogue.peers ++ [.ok peer] }

def notConnected (fault : LinkFault) (dialogue : Dialogue) : Dialogue :=
  { dialogue with peers := dialogue.peers ++ [.error fault] }

def delivered (place : Nat) (delivery : Delivery) (dialogue : Dialogue) : Dialogue :=
  { dialogue with peers := dialogue.peers.modify place (·.map (delivery.addTo ·)) }

end Dialogue

end MmsHttp.CommandLine
