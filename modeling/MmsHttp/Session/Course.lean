import MmsHttp.Session

/-!
What becomes of a session over time. It can be opened and closed again and again, and in
between it executes calls. Every opening makes a registry of its own; whoever has got hold of
one can acquire routes from it for as long as he likes, also when the session has given it up.
-/

namespace MmsHttp.Session

/-- What can be done with a session. Openings are counted from zero. -/
inductive Operation where
  | opening
  /-- A route is acquired from the registry that an opening has made. -/
  | acquisition (opening : Nat) (route : Route)
  | execution (call : Call)
  | closing

/-- A session through all its openings. -/
structure Life where
  session : Session
  /-- The registries before the present one: that with which the session begins and which
  nobody gets to see, and one for each opening but the last. -/
  past : List Registry := []

namespace Life

/-- A session that has not been opened; `closing` says how the closing of a pool fails, if
it does. -/
def new (settings : Settings) (processLocale : Option String) (network : Wire.Network)
    (closing : Pool → Option Fault) : Life :=
  { session := { Session.new settings processLocale network with closing } }

def opened (life : Life) : Life :=
  { session := life.session.opened
    past := life.past ++ [life.session.pools.registry] }

def withPools (pools : Wire.Pools) (life : Life) : Life :=
  { life with session := { life.session with pools } }

/-- The number of the pool that is made next. All registries count on from one another. -/
def next (life : Life) : Nat :=
  life.session.pools.registry.next

/-- Acquires a route from the registry of the last opening, which the session has to this day
or has closed. -/
def acquirePresent (route : Route) (life : Life) : Except Fault (List Event) × Life :=
  let (outcome, pools) := life.session.pools.acquire route
  (outcome, life.withPools pools)

/-- Acquires a route from a registry that another one has replaced. -/
def acquirePast (place : Nat) (registry : Registry) (route : Route) (life : Life) :
    Except Fault (List Event) × Life :=
  let pools := life.session.pools
  let (outcome, registry) := { registry with next := life.next }.acquire route
  (outcome.map (·.2),
    { session :=
        { life.session with
          pools := { pools with registry := { pools.registry with next := registry.next } } }
      past := life.past.set place registry })

/-- Acquires a route from the registry of an opening. Nobody has the registry of an opening
that is still to come. -/
def acquire (opening : Nat) (route : Route) (life : Life) : Except Fault (List Event) × Life :=
  if life.past.length = opening + 1 then life.acquirePresent route
  else
    match life.past[opening + 1]? with
    | some registry => life.acquirePast (opening + 1) registry route
    | none => (.ok [], life)

end Life

/-- What an operation leaves: the fault that escaped from it, its records, and the session
before and after it. -/
structure Step where
  operation : Operation
  before : Life
  fault : Option Fault
  events : List Event
  after : Life

namespace Life

def perform (life : Life) (operation : Operation) : Step :=
  match operation with
  | .opening => ⟨operation, life, none, [], life.opened⟩
  | .acquisition opening route =>
    match life.acquire opening route with
    | (.error fault, after) => ⟨operation, life, some fault, [], after⟩
    | (.ok events, after) => ⟨operation, life, none, events, after⟩
  | .execution call =>
    match life.session.execute call with
    | (.error fault, events, session) =>
      ⟨operation, life, some fault, events, { life with session }⟩
    | (.ok _, events, session) => ⟨operation, life, none, events, { life with session }⟩
  | .closing =>
    let (events, session) := life.session.closed
    ⟨operation, life, none, events, { life with session }⟩

/-- The steps that operations leave, each working on what the one before it has left. -/
def course : Life → List Operation → List Step
  | _, [] => []
  | life, operation :: rest =>
    let step := life.perform operation
    step :: course step.after rest

def reached (life : Life) (operations : List Operation) : Life :=
  operations.foldl (fun life operation => (life.perform operation).after) life

end Life

end MmsHttp.Session
