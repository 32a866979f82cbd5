import MmsHttp.Link.Fault
import MmsHttp.Url.Address

namespace MmsHttp

/-- What a directory answers to a name: addresses, or a fault with its descent. -/
abbrev Answer := Except LinkFault (List String)

abbrev Directory := List (String × Answer)

namespace Directory

def unknownName : LinkFault :=
  ⟨.derived "gaierror" [.system], "[Errno -2] Name or service not known"⟩

/-- What a directory answers to a name. An address in numbers stands for itself unless it
is listed. -/
def answer (directory : Directory) (host : String) : Answer :=
  match directory.find? (·.1 == host) with
  | some (_, answer) => answer
  | none =>
    if Url.isIpv4 host.toList || Url.isIpv6 host.toList then .ok [host] else .error unknownName

end Directory

namespace Resolver

def distinct (addresses : List String) : List String :=
  addresses.foldl (fun kept address => if kept.contains address then kept else kept ++ [address]) []

/-- The addresses of a host, given what the directory answers. A name that cannot be
encoded is a fault of the system too. -/
def addresses (host : String) (answer : Answer) : Answer :=
  match answer with
  | .ok addresses => .ok (distinct addresses)
  | .error fault =>
    if fault.cls.descendsFrom .encoding then
      .error (.plain .system ("invalid host name " ++ host ++ ": " ++ fault.text))
    else .error fault

/-- The resolver that looks a name up in the system's own directory. -/
def system {σ : Type} (lookUp : String → σ → Answer × σ) (host : String) (world : σ) : Answer × σ :=
  let (found, world) := lookUp host world
  (addresses host found, world)

end Resolver

end MmsHttp
