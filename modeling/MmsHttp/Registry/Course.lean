import MmsHttp.Registry

namespace MmsHttp.Registry

/-- What can be done with a registry. -/
inductive Operation where
  | acquire (route : Route)
  | giveBack (borrowed : Pool)
  | close
  deriving DecidableEq, Repr

/-- What an operation came to. -/
inductive Incident where
  | acquired (route : Route) (pool : Pool)
  | failed (route : Route) (fault : Fault)
  | givenBack (borrowed : Pool)
  | closed
  deriving DecidableEq, Repr

structure Step where
  before : Registry
  incident : Incident
  events : List Event
  after : Registry
  deriving DecidableEq, Repr

def perform (registry : Registry) : Operation → Step
  | .acquire route =>
    match registry.acquire route with
    | (.ok (pool, events), after) => ⟨registry, .acquired route pool, events, after⟩
    | (.error fault, after) => ⟨registry, .failed route fault, [], after⟩
  | .giveBack borrowed => ⟨registry, .givenBack borrowed, [], registry.giveBack borrowed⟩
  | .close => ⟨registry, .closed, [], registry.close.2⟩

/-- The steps that operations leave, each working on what the one before it has left. -/
def course : Registry → List Operation → List Step
  | _, [] => []
  | registry, operation :: rest =>
    let step := registry.perform operation
    step :: course step.after rest

end MmsHttp.Registry
