import MmsHttp.Executor
import MmsHttp.Settings
import MmsHttp.Wire.Pooled

/-!
Sessions. A session reads its settings once. While it is open it has an executor, which
all calls share, and a registry of pools; closing it gives both up, and a failure to
close a pool is noted but never keeps the session open.
-/

namespace MmsHttp

/-- What a session has as its connection pool. -/
inductive Holding where
  | nothing
  | registry
  /-- A pool that has no routes and cannot be closed. -/
  | broken (text : String)
  deriving DecidableEq, Repr

/-- A session and the network that it works on. -/
structure Session where
  settings : Settings
  /-- The locale that the process reports. -/
  processLocale : Option String
  pools : Wire.Pools
  executor : Option Executor := none
  holding : Holding := .nothing
  /-- How the closing of a pool fails, if it does. -/
  closing : Pool → Option Fault := fun _ => none

namespace Session

def new (settings : Settings) (processLocale : Option String) (network : Wire.Network) : Session :=
  { settings
    processLocale
    pools := { network, registry := { limits := settings.poolLimits } } }

/-- The fault of a part that is only there while a session is open. -/
def notInitialized (part : String) : Fault :=
  ⟨.outside "RuntimeError", part ++ " is not initialized"⟩

def locale (session : Session) : String :=
  match session.settings.locale with
  | some locale => if locale == "" then Locale.ofProcess session.processLocale else locale
  | none => Locale.ofProcess session.processLocale

/-- Opens a session. One that is open already gets a new executor and a new registry; the
pools of the old one stay as they are. -/
def opened (session : Session) : Session :=
  { session with
    pools := session.pools.renew session.settings.poolLimits
    executor := some { locale := session.locale }
    holding := .registry }

/-- Puts a pool that cannot be closed in the place of the registry. The executor keeps the
one that it has. -/
def withBrokenPool (text : String) (session : Session) : Session :=
  { session with holding := .broken text }

def closeFailed (text : String) : Event :=
  ⟨.warning, "connection pool close failed: " ++ text, []⟩

def closed (session : Session) : List Event × Session :=
  let (fault, pools) :=
    match session.holding with
    | .nothing => (none, session.pools)
    | .registry => session.pools.close session.closing
    | .broken text => (some ⟨.outside "OSError", text⟩, session.pools)
  ((fault.map fun fault => closeFailed fault.text).toList,
    { session with pools, executor := none, holding := .nothing })

def executor? (session : Session) : Except Fault Executor :=
  match session.executor with
  | some executor => .ok executor
  | none => .error (notInitialized "executor")

/-- How many routes the pool of a session has; a broken one has none to count. -/
def routeCount? (session : Session) : Except Fault (Option Nat) :=
  match session.holding with
  | .nothing => .error (notInitialized "connection_pool")
  | .registry => .ok (some session.pools.registry.routeCount)
  | .broken _ => .ok none

def execute (call : Call) (session : Session) : Except Fault Result × List Event × Session :=
  match session.executor? with
  | .error fault => (.error fault, [], session)
  | .ok executor =>
    let run := executor.execute Wire.Pools.link.channel call session.pools
    (run.answer, run.events, { session with pools := run.world })

end Session

end MmsHttp
