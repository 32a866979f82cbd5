namespace MmsHttp

inductive Level where
  | trace
  | debug
  | info
  | warning
  | error
  deriving DecidableEq, Repr

def Level.name : Level → String
  | .trace => "TRACE"
  | .debug => "DEBUG"
  | .info => "INFO"
  | .warning => "WARNING"
  | .error => "ERROR"

inductive FieldValue where
  | absent
  | text (s : String)
  | number (n : Int)
  deriving DecidableEq, Repr

abbrev Fields := List (String × FieldValue)

structure Event where
  level : Level
  message : String
  fields : Fields
  deriving DecidableEq, Repr

namespace Event

def serviceName : String := "mms_transport"

/-- A record whose message is the name of an event, bound to it together with the
service and further fields. -/
def named (level : Level) (name : String) (outer fields : Fields) : Event :=
  { level
    message := name
    fields := outer ++ [("service_name", .text serviceName), ("event", .text name)] ++ fields }

end Event

end MmsHttp
