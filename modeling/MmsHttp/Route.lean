import MmsHttp.Proxy

namespace MmsHttp

/-- What tells routes apart: the proxy, the resolver and the TLS settings. Resolvers and
settings are known by name. -/
structure Route where
  proxy : Option Proxy
  resolver : String
  tls : Option String
  deriving DecidableEq, Repr

end MmsHttp
