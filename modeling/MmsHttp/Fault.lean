import MmsHttp.Text.Quoted

/-!
Faults: what can go wrong below a transaction. Those of the exchange are reported to the
caller as network failures; every other one is handed on as it is.
-/

namespace MmsHttp

inductive FaultClass where
  | httpError
  | requestError
  | transportError
  | timeout
  | connectTimeout
  | readTimeout
  | writeTimeout
  | poolTimeout
  | networkError
  | connectError
  | readError
  | writeError
  | closeError
  | protocolError
  | localProtocolError
  | remoteProtocolError
  | proxyError
  | unsupportedProtocol
  | decodingError
  | tooManyRedirects
  | invalidUrl
  | cookieConflict
  /-- A class of the system or of something else, known by its name only. -/
  | outside (name : String)
  deriving DecidableEq, Repr

namespace FaultClass

def name : FaultClass → String
  | httpError => "HTTPError"
  | requestError => "RequestError"
  | transportError => "TransportError"
  | timeout => "TimeoutException"
  | connectTimeout => "ConnectTimeout"
  | readTimeout => "ReadTimeout"
  | writeTimeout => "WriteTimeout"
  | poolTimeout => "PoolTimeout"
  | networkError => "NetworkError"
  | connectError => "ConnectError"
  | readError => "ReadError"
  | writeError => "WriteError"
  | closeError => "CloseError"
  | protocolError => "ProtocolError"
  | localProtocolError => "LocalProtocolError"
  | remoteProtocolError => "RemoteProtocolError"
  | proxyError => "ProxyError"
  | unsupportedProtocol => "UnsupportedProtocol"
  | decodingError => "DecodingError"
  | tooManyRedirects => "TooManyRedirects"
  | invalidUrl => "InvalidURL"
  | cookieConflict => "CookieConflict"
  | outside name => name

def isExchangeFailure : FaultClass → Bool
  | invalidUrl | cookieConflict | outside _ => false
  | _ => true

end FaultClass

/-- A fault: its class and its text. -/
structure Fault where
  cls : FaultClass
  text : String
  deriving DecidableEq, Repr

namespace Fault

/-- The text of a fault whose wording is left to whoever found it. -/
def unworded : String := "*"

def remoteProtocol : Fault := ⟨.remoteProtocolError, unworded⟩

def localProtocol : Fault := ⟨.localProtocolError, unworded⟩

def undecodable : Fault := ⟨.decodingError, unworded⟩

def badValue (text : String) : Fault := ⟨.outside "ValueError", text⟩

def maxDigits : Nat := 4300

/-- The fault of a number with more digits than a message takes; nothing for any other
number. -/
def unwritable? (n : Int) : Option Fault :=
  if n.natAbs < Nat.pow 10 maxDigits then none
  else some (badValue (s!"Exceeds the limit ({maxDigits} digits) for integer string " ++
    "conversion; use sys.set_int_max_str_digits() to increase the limit"))

def overflow : Fault := ⟨.outside "OverflowError", "int too large to convert to float"⟩

end Fault

end MmsHttp
