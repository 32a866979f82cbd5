import MmsHttp.Decimal.Binary64
import MmsHttp.Link.Dial
import MmsHttp.Text.Bytes

namespace MmsHttp.Wire

/-- The other end of a connection: the parts that it delivers and how it fails. Without a
fault the connection ends after the last part. -/
structure Peer where
  parts : List Bytes
  readFault : Option LinkFault := none
  writeFault : Option LinkFault := none
  tlsFault : Option LinkFault := none
  /-- Whether the other end drops the connection as soon as it is idle. -/
  hangsUp : Bool := false
  deriving DecidableEq, Repr

/-- A connection that was made or attempted. -/
structure Stream where
  address : String
  port : Int
  timeout : Binary64
  peer : Peer
  written : Bytes := []
  tls : List String := []
  closed : Bool := false
  failed : Bool := false
  deriving DecidableEq, Repr

/-- The network: what is to come, and what has happened. -/
structure Network where
  directory : Directory
  peers : List (Except LinkFault Peer)
  streams : List Stream := []
  lookups : List String := []

namespace Network

/-- The fault when nobody is left to connect to. -/
def refused : LinkFault := .unreachable "refused"

def lookUp (host : String) (network : Network) : Answer × Network :=
  (network.directory.answer host, { network with lookups := network.lookups ++ [host] })

/-- Attempts a connection. The stream is known by its place. -/
def connect (port : Int) (timeout : Binary64) (address : String) (network : Network) :
    Except LinkFault Nat × Network :=
  let place := network.streams.length
  let attempt (peers : List (Except LinkFault Peer)) (peer : Peer) (failed : Bool) : Network :=
    { network with
      peers
      streams := network.streams ++ [{ address, port, timeout, peer, failed }] }
  match network.peers with
  | [] => (.error refused, attempt [] { parts := [] } true)
  | .error fault :: peers => (.error fault, attempt peers { parts := [] } true)
  | .ok peer :: peers => (.ok place, attempt peers peer false)

/-- Dials a host: its name is looked up once, and its addresses are tried in order. -/
def dial (host : String) (port : Int) (timeout : Binary64) (network : Network) :
    Except LinkFault Nat × Network :=
  let (answer, network) := Resolver.system lookUp host network
  Dial.dial (connect port timeout) host answer network

def change (place : Nat) (f : Stream → Stream) (network : Network) : Network :=
  { network with streams := network.streams.modify place f }

def peer (network : Network) (place : Nat) : Peer :=
  ((network.streams[place]?).map (·.peer)).getD { parts := [] }

def write (place : Nat) (bytes : Bytes) (network : Network) : Option LinkFault × Network :=
  match (network.peer place).writeFault with
  | some fault => (some fault, network)
  | none => (none, network.change place fun s => { s with written := s.written ++ bytes })

def startTls (place : Nat) (name : String) (network : Network) : Option LinkFault × Network :=
  ((network.peer place).tlsFault,
    network.change place fun s => { s with tls := s.tls ++ [name] })

def setParts (place : Nat) (parts : List Bytes) (network : Network) : Network :=
  network.change place fun s => { s with peer := { s.peer with parts } }

def close (place : Nat) (network : Network) : Network :=
  network.change place fun s => { s with closed := true }

end Network

end MmsHttp.Wire
