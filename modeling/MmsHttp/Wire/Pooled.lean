import MmsHttp.Link.Basic
import MmsHttp.Registry
import MmsHttp.Wire.Body
import MmsHttp.Wire.Network
import MmsHttp.Wire.Request

/-!
Pools over the network. A pool keeps connections that are idle and uses one again for the
next request to the same origin; it makes a new one as long as it may have more, and
closes an idle one to make room. A request to a plain origin goes through a proxy as it
is, one to a secure origin through a tunnel.
-/

namespace MmsHttp.Wire

open Text

/-- Where a request finally goes. -/
structure Origin where
  scheme : String
  host : String
  port : Int
  deriving DecidableEq, Repr

namespace Origin

def isSecure (origin : Origin) : Bool :=
  origin.scheme == "https" || origin.scheme == "wss"

def schemePort (scheme : String) : Int :=
  if scheme == "https" || scheme == "wss" then 443 else 80

/-- The origin of a request. Zero stands for no port. -/
def ofRequest (request : LinkRequest) : Origin :=
  let port :=
    match request.port with
    | none => schemePort request.scheme
    | some port => if port == 0 then schemePort request.scheme else port
  ⟨request.scheme, request.host, port⟩

def text (origin : Origin) : String :=
  s!"{origin.host}:{origin.port}"

end Origin

inductive Usage where
  /-- It waits for the next request. These bytes have already come in. -/
  | idle (buffer : Bytes)
  /-- It carries a request. If that ends well the connection can be used again, and these
  bytes will already have come in. -/
  | busy (next : Option Bytes)
  /-- It leads to a proxy, but no further, and will never be free again. -/
  | stuck
  deriving DecidableEq, Repr

structure Connection where
  pool : Nat
  origin : Origin
  stream : Nat
  usage : Usage
  deriving DecidableEq, Repr

namespace Connection

def isIdle (connection : Connection) : Bool :=
  match connection.usage with
  | .idle _ => true
  | _ => false

def isBusy (connection : Connection) : Bool :=
  match connection.usage with
  | .busy _ => true
  | _ => false

end Connection

/-- The pools of a registry on the network: their connections, oldest first, the pool that
was acquired last, and the numbers of those that were closed. -/
structure Pools where
  network : Network
  registry : Registry
  connections : List Connection := []
  current : Option Pool := none
  closed : List Nat := []

namespace Pools

def drop (connection : Connection) (pools : Pools) : Pools :=
  { pools with
    network := pools.network.close connection.stream
    connections := pools.connections.filter (·.stream != connection.stream) }

/-- Whether idle connections are not kept at all. -/
def keepsNothing (limits : PoolLimits) : Bool :=
  match limits.keepaliveExpiry with
  | none | some .nan => false
  | some expiry => !expiry.isPositive

def connectionsOf (pools : Pools) (pool : Pool) : List Connection :=
  pools.connections.filter (·.pool == pool.number)

/-- Closes the idle connections of a pool that are no good any more. -/
def tidy (pool : Pool) (pools : Pools) : Pools :=
  let gone := (pools.connectionsOf pool).filter fun connection =>
    connection.isIdle &&
      (keepsNothing pool.limits || (pools.network.peer connection.stream).hangsUp)
  gone.foldl (fun pools connection => pools.drop connection) pools

def add (connection : Connection) (pools : Pools) : Pools :=
  { pools with connections := pools.connections ++ [connection] }

def setUsage (stream : Nat) (usage : Usage) (pools : Pools) : Pools :=
  { pools with
    connections := pools.connections.map fun connection =>
      if connection.stream == stream then { connection with usage } else connection }

/-! ## A request over a stream -/

/-- Writes a request. A write that fails because the other end does not listen any more
is no fault: it may have answered before. Gives whether everything was written. -/
def writeRequest (stream : Nat) (request : Request) (network : Network) :
    Except LinkFault Bool × Network :=
  let (body, lengthFault) := request.writtenBody
  let (fault, network) :=
    match network.write stream request.head with
    | (some fault, network) => (some fault, network)
    | (none, network) => network.write stream body
  match fault <|> lengthFault with
  | none => (.ok true, network)
  | some fault =>
    if fault.cls.descendsFrom .writeError then (.ok false, network) else (.error fault, network)

/-- Writes a request and reads the head of the response. Gives the head and the bytes
after it, and whether everything was written. -/
def converse (stream : Nat) (buffer : Bytes) (request : Request) (network : Network) :
    Except LinkFault (Head × Bytes × Bool) × Network :=
  match writeRequest stream request network with
  | (.error fault, network) => (.error fault, network)
  | (.ok written, network) =>
    let peer := network.peer stream
    let received := receiveHead request.offersUpgrade peer.readFault peer.parts buffer
    (received.outcome.map fun head => (head, received.rest, written),
      network.setParts stream received.coming)

/-! ## Connections -/

def secure (origin : Origin) (stream : Nat) (network : Network) : Option LinkFault × Network :=
  if origin.isSecure then network.startTls stream origin.host else (none, network)

def tunnelRequest? (origin : Origin) : Option Request :=
  Request.make? "CONNECT" origin.text [("Host", origin.text), ("Accept", "*/*")] []

def askForTunnel (origin : Origin) (stream : Nat) (network : Network) :
    Except LinkFault Unit × Network :=
  match tunnelRequest? origin with
  | none => (.error .localProtocol, network)
  | some request =>
    match converse stream [] request network with
    | (.error fault, network) => (.error fault, network)
    | (.ok (head, _, _), network) =>
      if 200 ≤ head.status && head.status < 300 then (.ok (), network)
      else
        let reason := String.ofList (fromLatin1 (head.reason.filter (·.toNat < 128)))
        (.error (.plain .proxyError (s!"{head.status} " ++ reason)), network)

/-- Makes a connection of a pool that is ready for a request. A tunnel that is granted but
not secured stays behind. -/
def connect (pool : Pool) (origin : Origin) (timeout : Binary64) (pools : Pools) :
    Except LinkFault Connection × Pools :=
  let made (stream : Nat) (usage : Usage) : Connection :=
    ⟨pool.number, origin, stream, usage⟩
  let onto (network : Network) : Pools := { pools with network }
  match pool.proxy with
  | none =>
    match pools.network.dial origin.host origin.port timeout with
    | (.error fault, network) => (.error fault, onto network)
    | (.ok stream, network) =>
      match secure origin stream network with
      | (some fault, network) => (.error fault, onto network)
      | (none, network) =>
        let connection := made stream (.busy none)
        (.ok connection, (onto network).add connection)
  | some proxy =>
    match pools.network.dial proxy.host proxy.dialledPort timeout with
    | (.error fault, network) => (.error fault, onto network)
    | (.ok stream, network) =>
      if origin.scheme == "http" then
        let connection := made stream (.busy none)
        (.ok connection, (onto network).add connection)
      else
        match askForTunnel origin stream network with
        | (.error fault, network) => (.error fault, onto (network.close stream))
        | (.ok (), network) =>
          match network.startTls stream origin.host with
          | (some fault, network) => (.error fault, (onto network).add (made stream .stuck))
          | (none, network) =>
            let connection := made stream (.busy none)
            (.ok connection, (onto network).add connection)

def noneFree : LinkFault := .plain .poolTimeout ""

/-- A connection for a request, and the bytes that have already come in on it. -/
def obtain (pool : Pool) (origin : Origin) (timeout : Binary64) (pools : Pools) :
    Except LinkFault (Connection × Bytes) × Pools :=
  let mine := pools.connectionsOf pool
  let fresh (pools : Pools) : Except LinkFault (Connection × Bytes) × Pools :=
    let (made, pools) := connect pool origin timeout pools
    (made.map fun connection => (connection, []), pools)
  let usable? := mine.findSome? fun connection =>
    match connection.usage with
    | .idle buffer => if connection.origin == origin then some (connection, buffer) else none
    | _ => none
  match usable? with
  | some (connection, buffer) =>
    (.ok (connection, buffer), pools.setUsage connection.stream (.busy none))
  | none =>
    if (mine.length : Int) < pool.limits.maxConnections then fresh pools
    else
      match mine.find? (·.isIdle) with
      | some idle => fresh (pools.drop idle)
      | none => (.error noneFree, pools)

/-! ## The link -/

def schemeFault? (scheme : String) : Option LinkFault :=
  if scheme == "" then
    some (.plain .unsupportedProtocol
      "Request URL is missing an 'http://' or 'https://' protocol.")
  else if ["http", "https", "ws", "wss"].contains scheme then none
  else
    some (.plain .unsupportedProtocol
      ("Request URL has an unsupported protocol '" ++ scheme ++ "://'."))

/-- The target of a request as a pool writes it: in full for a proxy that passes plain
requests on. -/
def targetFor (pool : Pool) (request : LinkRequest) : String :=
  if pool.proxy.isSome && request.scheme == "http" then
    let port :=
      match request.port with
      | none => ""
      | some port => s!":{port}"
    request.scheme ++ "://" ++ request.host ++ port ++ request.target
  else request.target

def canReuse (request : Request) (written : Bool) (head : Head) : Bool :=
  written && !asksToClose request.fields && head.keepsOpen && head.status != 101 &&
    head.framing != .untilClosed

def sendOver (pool : Pool) (connection : Connection) (buffer : Bytes) (request : LinkRequest)
    (pools : Pools) : Except LinkFault LinkReply × Pools :=
  match Request.make? request.method (targetFor pool request) request.headers request.body with
  | none => (.error .localProtocol, pools.drop connection)
  | some wire =>
    match converse connection.stream buffer wire pools.network with
    | (.error fault, network) => (.error fault, drop connection { pools with network })
    | (.ok (head, rest, written), network) =>
      let peer := network.peer connection.stream
      let body := Body.receive head.framing peer.readFault peer.parts rest
      let next := if canReuse wire written head then some body.rest else none
      let pools := { pools with network := network.setParts connection.stream body.coming }
      (.ok
        { status := head.status
          reason := some head.reason
          headers := head.fields
          chunks := body.pieces
          failure := body.failure },
        pools.setUsage connection.stream (.busy next))

def sendVia (pool : Pool) (request : LinkRequest) (pools : Pools) :
    Except LinkFault LinkReply × Pools :=
  match schemeFault? request.scheme with
  | some fault => (.error fault, pools)
  | none =>
    match obtain pool (.ofRequest request) request.timeout (pools.tidy pool) with
    | (.error fault, pools) => (.error fault, pools.tidy pool)
    | (.ok (connection, buffer), pools) =>
      match sendOver pool connection buffer request pools with
      | (.error fault, pools) => (.error fault, pools.tidy pool)
      | (.ok reply, pools) => (.ok reply, pools)

def send (request : LinkRequest) (pools : Pools) : Except LinkFault LinkReply × Pools :=
  match pools.current with
  | none => (.error noneFree, pools)
  | some pool => sendVia pool request pools

def release (reading : Reading) (pools : Pools) : Pools :=
  match pools.current with
  | none => pools
  | some pool =>
    match (pools.connectionsOf pool).find? (·.isBusy) with
    | none => pools
    | some connection =>
      let pools :=
        match connection.usage, reading.complete with
        | .busy (some buffer), true => pools.setUsage connection.stream (.idle buffer)
        | _, _ => pools.drop connection
      pools.tidy pool

def acquire (route : Route) (pools : Pools) : Except Fault (List Event) × Pools :=
  match pools.registry.acquire route with
  | (.error fault, registry) => (.error fault, { pools with registry })
  | (.ok (pool, events), registry) =>
    (.ok events, { pools with registry, current := some pool })

def link : Link Pools where
  acquire := acquire
  send := send
  release := release

/-- Closes pools with their connections in turn. One whose closing fails ends this; `fails`
says which. -/
def closeEach (fails : Pool → Option Fault) : List Pool → Pools → Option Fault × Pools
  | [], pools => (none, pools)
  | pool :: rest, pools =>
    let pools := { pools with closed := pools.closed ++ [pool.number] }
    match fails pool with
    | some fault => (some fault, pools)
    | none =>
      closeEach fails rest
        ((pools.connectionsOf pool).foldl (fun pools connection => pools.drop connection) pools)

def close (fails : Pool → Option Fault) (pools : Pools) : Option Fault × Pools :=
  let (gone, registry) := pools.registry.close
  closeEach fails gone { pools with registry, current := none }

/-- The pools of another registry, which takes the place of the one before. -/
def renew (limits : PoolLimits) (pools : Pools) : Pools :=
  { pools with registry := { limits, next := pools.registry.next }, current := none }

end Pools

end MmsHttp.Wire
