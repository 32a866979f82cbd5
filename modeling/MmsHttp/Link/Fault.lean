import MmsHttp.Fault

/-!
Faults of the connections below the exchange. Their classes form a tree of their own. A
fault is reported to the exchange under the class that stands for its nearest ancestor;
one without such an ancestor is handed on as it is.
-/

namespace MmsHttp

/-- The kinds of fault that the exchange knows from connections, and all others by name. -/
inductive LinkKind where
  | timeout
  | poolTimeout
  | connectTimeout
  | readTimeout
  | writeTimeout
  | networkError
  | connectError
  | readError
  | writeError
  | protocolError
  | localProtocolError
  | remoteProtocolError
  | proxyError
  | unsupportedProtocol
  /-- A kind of the system or of something else, known by its name only. -/
  | outside (name : String)
  deriving DecidableEq, Repr

namespace LinkKind

def name : LinkKind → String
  | timeout => "TimeoutException"
  | poolTimeout => "PoolTimeout"
  | connectTimeout => "ConnectTimeout"
  | readTimeout => "ReadTimeout"
  | writeTimeout => "WriteTimeout"
  | networkError => "NetworkError"
  | connectError => "ConnectError"
  | readError => "ReadError"
  | writeError => "WriteError"
  | protocolError => "ProtocolError"
  | localProtocolError => "LocalProtocolError"
  | remoteProtocolError => "RemoteProtocolError"
  | proxyError => "ProxyError"
  | unsupportedProtocol => "UnsupportedProtocol"
  | outside name => name

/-- The class of what the system reports, such as a name that does not resolve. -/
def system : LinkKind := .outside "OSError"

/-- The class of texts that cannot be encoded or decoded. -/
def encoding : LinkKind := .outside "UnicodeError"

/-- The kinds that a kind descends from, nearest first. -/
def above : LinkKind → List LinkKind
  | poolTimeout | connectTimeout | readTimeout | writeTimeout => [timeout]
  | connectError | readError | writeError => [networkError]
  | localProtocolError | remoteProtocolError => [protocolError]
  | _ => []

/-- The class of the exchange that directly stands for a kind of connection fault. -/
def counterpart? : LinkKind → Option FaultClass
  | timeout => some .timeout
  | poolTimeout => some .poolTimeout
  | connectTimeout => some .connectTimeout
  | readTimeout => some .readTimeout
  | writeTimeout => some .writeTimeout
  | networkError => some .networkError
  | connectError => some .connectError
  | readError => some .readError
  | writeError => some .writeError
  | protocolError => some .protocolError
  | localProtocolError => some .localProtocolError
  | remoteProtocolError => some .remoteProtocolError
  | proxyError => some .proxyError
  | unsupportedProtocol => some .unsupportedProtocol
  | outside _ => none

end LinkKind

/-- The class of a fault of connections. -/
inductive LinkClass where
  | plain (kind : LinkKind)
  /-- A class of its own below others, in the order in which they are looked at. It can have
  several parents, so the order is part of it. -/
  | derived (name : String) (above : List LinkKind)
  deriving DecidableEq, Repr

namespace LinkClass

def name : LinkClass → String
  | plain kind => kind.name
  | derived name _ => name

/-- A class and those that it descends from, nearest first. -/
def lineage : LinkClass → List LinkKind
  | plain kind => kind :: kind.above
  | derived name above => .outside name :: above

def descendsFrom (cls : LinkClass) (ancestor : LinkKind) : Bool :=
  cls.lineage.contains ancestor

/-- The class under which a fault is reported to the exchange, if it is. -/
def reportedAs? (cls : LinkClass) : Option FaultClass :=
  cls.lineage.findSome? LinkKind.counterpart?

end LinkClass

structure LinkFault where
  cls : LinkClass
  text : String
  deriving DecidableEq, Repr

namespace LinkFault

def plain (kind : LinkKind) (text : String) : LinkFault := ⟨.plain kind, text⟩

def reported (fault : LinkFault) : Fault :=
  ⟨fault.cls.reportedAs?.getD (.outside fault.cls.name), fault.text⟩

def unreachable (text : String) : LinkFault := .plain .connectError text

def remoteProtocol : LinkFault := .plain .remoteProtocolError Fault.unworded

def localProtocol : LinkFault := .plain .localProtocolError Fault.unworded

end LinkFault

end MmsHttp
