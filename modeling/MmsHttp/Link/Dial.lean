import MmsHttp.Decimal.Binary64
import MmsHttp.Link.Fault
import MmsHttp.Resolver

namespace MmsHttp.Dial

/-- Why a host cannot be dialled when its name does not resolve: a fault of the system or
of encoding counts as unreachable, every other one is handed on. -/
def unresolved (host : String) (fault : LinkFault) : LinkFault :=
  if fault.cls.descendsFrom .system || fault.cls.descendsFrom .encoding then
    .unreachable ("unable to resolve host " ++ host ++ ": " ++ fault.text)
  else fault

def noAddresses (host : String) : LinkFault :=
  .unreachable ("no addresses for host " ++ host)

variable {σ γ : Type}

/-- Tries addresses in order. The fault given is that of the attempt before. -/
def tryEach (attempt : String → σ → Except LinkFault γ × σ) :
    LinkFault → List String → σ → Except LinkFault γ × σ
  | last, [], world => (.error last, world)
  | _, address :: rest, world =>
    match attempt address world with
    | (.ok connection, world) => (.ok connection, world)
    | (.error fault, world) =>
      if fault.cls.descendsFrom .connectError then tryEach attempt fault rest world
      else (.error fault, world)

def dial (attempt : String → σ → Except LinkFault γ × σ) (host : String) (answer : Answer)
    (world : σ) : Except LinkFault γ × σ :=
  match answer with
  | .error fault => (.error (unresolved host fault), world)
  | .ok addresses => tryEach attempt (noAddresses host) addresses world

end MmsHttp.Dial

namespace MmsHttp

/-- What a caller asks of every attempt at a connection, whatever the address. -/
structure Terms (ω : Type) where
  port : Int
  timeout : Option Binary64 := none
  localAddress : Option String := none
  socketOptions : Option ω := none
  deriving DecidableEq, Repr

/-- The means of dialling: a resolver of host names, and attempts to connect to addresses. -/
structure Dialler (ω σ γ : Type) where
  resolve : String → σ → Answer × σ
  attempt : String → Terms ω → σ → Except LinkFault γ × σ

/-- Connects to a host. The resolver is asked for its name, and all its addresses are tried on
the same terms. -/
def Dialler.connect {ω σ γ : Type} (dialler : Dialler ω σ γ) (host : String) (terms : Terms ω)
    (world : σ) : Except LinkFault γ × σ :=
  let (answer, world) := dialler.resolve host world
  Dial.dial (dialler.attempt · terms) host answer world

end MmsHttp
