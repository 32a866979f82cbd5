import MmsHttp.Text.Blank

namespace MmsHttp

/-- The address of a proxy. The port is whatever a configuration gives; a call checks
its range before it is used. -/
structure Proxy where
  host : String
  port : Int
  deriving DecidableEq, Repr

namespace Proxy

/-- Access-point settings carry an address even where no proxy applies, so only the
flag decides whether there is one. -/
def ofFlag (enabled : Bool) (host : String) (port : Int) : Option Proxy :=
  if enabled then some ⟨host, port⟩ else none

def text (proxy : Proxy) : String :=
  s!"{proxy.host}:{proxy.port}"

/-- The address as a URL; a host with colons is taken for an IPv6 address. -/
def url (proxy : Proxy) : String :=
  let host := if proxy.host.toList.contains ':' then s!"[{proxy.host}]" else proxy.host
  s!"http://{host}:{proxy.port}"

end Proxy

end MmsHttp
