import MmsHttp.Decimal.Binary64
import MmsHttp.Event
import MmsHttp.Proxy.Endpoint
import MmsHttp.Route

/-!
The registry of connection pools. Every route has a pool of its own, which is made when
the route is first asked for and lasts until the registry is closed. Whoever acquires a
pool only borrows it.
-/

namespace MmsHttp

/-- The limits of the pools of a registry; the time for which an idle connection is kept
is in seconds, and without one it is kept for ever. -/
structure PoolLimits where
  maxConnections : Int
  keepaliveExpiry : Option Binary64
  deriving DecidableEq, Repr

def PoolLimits.usual : PoolLimits := ⟨5, some (.ofInt 300)⟩

/-- A pool of connections. The number tells it from every pool made before or after it. -/
structure Pool where
  number : Nat
  proxy : Option Endpoint
  limits : PoolLimits
  http1 : Bool := true
  http2 : Bool := false
  deriving DecidableEq, Repr

/-- A registry: the pools by route, in the order in which they were made, and the number
of the next one. -/
structure Registry where
  limits : PoolLimits
  routes : List (Route × Pool) := []
  next : Nat := 0
  deriving DecidableEq, Repr

namespace Registry

def find? (registry : Registry) (route : Route) : Option Pool :=
  (registry.routes.find? (·.1 == route)).map (·.2)

def routeCount (registry : Registry) : Nat :=
  registry.routes.length

def newPool (registry : Registry) (route : Route) : Except Fault Pool := do
  let proxy ← route.proxy.mapM Proxy.endpoint
  pure { number := registry.next, proxy, limits := registry.limits }

def newPoolEvent (route : Route) (routes : Nat) : Event :=
  let proxy :=
    match route.proxy with
    | some proxy => proxy.text
    | none => "None"
  ⟨.debug, "HTTP: new connection pool, proxy=" ++ proxy ++ s!", routes={routes}", []⟩

/-- The pool for a route, with the records of making it. A proxy that cannot be read
leaves the registry as it was. -/
def acquire (registry : Registry) (route : Route) :
    Except Fault (Pool × List Event) × Registry :=
  match registry.find? route with
  | some pool => (.ok (pool, []), registry)
  | none =>
    match registry.newPool route with
    | .error fault => (.error fault, registry)
    | .ok pool =>
      let routes := registry.routes ++ [(route, pool)]
      (.ok (pool, [newPoolEvent route routes.length]),
        { registry with routes, next := registry.next + 1 })

/-- Gives a borrowed pool back. Its connections are the registry's to close, so nothing
changes. -/
def giveBack (_borrowed : Pool) (registry : Registry) : Registry :=
  registry

/-- The pools that have to be closed with the registry, and the registry after that. -/
def close (registry : Registry) : List Pool × Registry :=
  (registry.routes.map (·.2), { registry with routes := [] })

end Registry

end MmsHttp
