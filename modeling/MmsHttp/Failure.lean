import MmsHttp.ExtraHeader
import MmsHttp.Fault
import MmsHttp.Text.Lowercase
import MmsHttp.Text.Bytes
import MmsHttp.Text.Quoted

/-!
The outcome of a transaction: a body, or a failure of exactly one kind. Callers choose
what to do next by the kind, so the kinds are few and a status code is a real one only
for a failure that a response reports.
-/

namespace MmsHttp

/-- What kind of failure a transaction met. -/
inductive FailureKind where
  | invalidInput
  | invalidUrl
  | protocolMismatch
  | networkIo
  | httpStatus
  deriving DecidableEq, Repr

namespace FailureKind

def word : FailureKind → String
  | invalidInput => "invalid_input"
  | invalidUrl => "invalid_url"
  | protocolMismatch => "protocol_mismatch"
  | networkIo => "network_io"
  | httpStatus => "http_status"

def all : List FailureKind :=
  [invalidInput, invalidUrl, protocolMismatch, networkIo, httpStatus]

def ofWord (word : String) : Except String FailureKind :=
  match all.find? (·.word == word) with
  | some kind => .ok kind
  | none => .error (Text.quoted word ++ " is not a valid TransportErrorKind")

end FailureKind

def noStatus : Int := 0

/-- A failed transaction. The headers are those of the response, repeats included. -/
structure Failure where
  kind : FailureKind
  message : String
  statusCode : Int := noStatus
  headers : List Header := []
  cause : Option Fault := none
  deriving DecidableEq, Repr

namespace Failure

def invalidInput (message : String) : Failure :=
  { kind := .invalidInput, message }

def invalidUrl (url : String) (cause : Option Fault) : Failure :=
  { kind := .invalidUrl, message := "Invalid URL " ++ url, cause }

def protocolMismatch (url : String) : Failure :=
  { kind := .protocolMismatch, message := "Invalid URL protocol " ++ url }

def networkIo (cause : Fault) : Failure :=
  { kind := .networkIo, message := "IO failure: " ++ cause.text, cause := some cause }

/-- The message centre answered with something other than success. -/
def httpStatus (statusCode : Int) (message : String) (headers : List Header) : Failure :=
  { kind := .httpStatus, message, statusCode, headers }

/-- Headers given as a table: a name that comes again changes the value that it has. -/
def tableHeaders (headers : List Header) : List Header :=
  headers.foldl
    (fun kept (name, value) =>
      if kept.any (·.1 == name) then
        kept.map fun header => if header.1 == name then (name, value) else header
      else kept ++ [(name, value)])
    []

/-- Headers in the form in which messages carry them: in ASCII, names in small letters. -/
def wireHeaders (headers : List Header) : Except Fault (List Header) :=
  headers.mapM fun (name, value) =>
    match Text.asciiComplaint name.toList <|> Text.asciiComplaint value.toList with
    | some complaint => .error ⟨.outside "UnicodeEncodeError", complaint⟩
    | none => .ok (String.ofList (name.toList.map Text.lowerAscii), value)

def headerValues (failure : Failure) (name : String) : List String :=
  (failure.headers.filter fun header => Text.sameName header.1 name).map (·.2)

def isHttpStatus (failure : Failure) : Bool :=
  failure.kind == .httpStatus

def describe (failure : Failure) : String :=
  s!"TransportError(kind={failure.kind.word}, status_code={failure.statusCode}, message=" ++
    Text.quoted failure.message ++ ")"

end Failure

inductive Result where
  | success (body : Option Bytes)
  | failed (failure : Failure)
  deriving DecidableEq, Repr

namespace Result

/-- Success with a body; an empty body counts as none. -/
def ofBody (body : Bytes) : Result :=
  .success (if body.isEmpty then none else some body)

/-- The outcome made of a body and a failure, of which at most one may be given. -/
def ofParts (body : Option Bytes) (failure : Option Failure) : Except String Result :=
  match body, failure with
  | some _, some _ => .error "TransportResult cannot carry both a body and an error"
  | body, none => .ok (.success body)
  | none, some failure => .ok (.failed failure)

def body? : Result → Option Bytes
  | .success body => body
  | .failed _ => none

def failure? : Result → Option Failure
  | .success _ => none
  | .failed failure => some failure

/-- The body of a successful transaction; a failed one gives its failure. -/
def unwrap : Result → Except Failure (Option Bytes)
  | .success body => .ok body
  | .failed failure => .error failure

end Result

end MmsHttp
