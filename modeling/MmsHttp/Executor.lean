import MmsHttp.Exchange.Client
import MmsHttp.Failure
import MmsHttp.Request

/-!
The execution of one transaction. Everything that the caller gives is checked before the
network is touched, exactly one attempt is made, and whatever goes wrong in the exchange
comes back as a failure of one kind. Only faults that are no failures of the exchange
escape.
-/

namespace MmsHttp

/-- One call: a transaction, the locale that it asks for, if it asks for one, and what the
clock shows while it is carried out. -/
structure Call where
  transaction : Transaction
  locale : Option String := none
  clock : Clock := .unset

/-- What executes calls: the locale of calls that name none, the fields bound to every
record, and what its clients connect with. -/
structure Executor where
  locale : String
  bound : Fields := []
  means : Client.Means := {}

/-- What a call comes to: its result or the fault that escaped, the records it left, and
the world after it. -/
structure Run (σ : Type) where
  answer : Except Fault Result
  events : List Event
  world : σ

namespace Executor

open Text

def maxPort : Int := 65535

/-- Why a transaction is not carried out: a failure to report, or a fault that escapes. -/
inductive Refusal where
  | failure (failure : Failure)
  | fault (fault : Fault)
  deriving DecidableEq, Repr

def proxyFailure? (proxy : Proxy) : Option Failure :=
  if !(0 < proxy.port && proxy.port ≤ maxPort) then
    some (.invalidInput s!"Invalid proxy port {proxy.port}")
  else if isBlankText proxy.host then some (.invalidInput "Missing proxy host")
  else none

def timeoutRefusal? (millis : Int) : Option Refusal :=
  if millis ≤ 0 then
    match Fault.unwritable? millis with
    | some fault => some (.fault fault)
    | none => some (.failure (.invalidInput s!"Invalid timeout {millis}ms"))
  else none

/-- What is wrong with the arguments of a transaction, apart from its URL. -/
def inputRefusal? (t : Transaction) : Option Refusal :=
  if !Request.methods.contains t.method then
    some (.failure (.invalidInput ("Invalid method " ++ t.method)))
  else if t.method == "POST" && t.payloadSize == 0 then
    some (.failure (.invalidInput "Sending empty PDU"))
  else
    match t.proxy.bind proxyFailure? with
    | some failure => some (.failure failure)
    | none => timeoutRefusal? t.config.timeoutMillis

def maxHostLength : Nat := 253

def maxLabelLength : Nat := 63

/-- Whether a host name keeps the limits of the domain name system. Dots at its end do
not count; a host with colons is an IPv6 address and was checked as such. -/
def isValidHost (host : String) : Bool :=
  let cs := host.toList
  if cs.contains ':' then true
  else
    let name := (cs.reverse.dropWhile (· == '.')).reverse
    name.length ≤ maxHostLength &&
      (splitBy (· == '.') name).all fun label => !label.isEmpty && label.length ≤ maxLabelLength

def inHeaderName (c : Char) : Bool :=
  ('a' ≤ c && c ≤ 'z') || ('A' ≤ c && c ≤ 'Z') || ('0' ≤ c && c ≤ '9') ||
    "!#$%&'*+-.^_`|~".toList.contains c

def isHeaderName (name : String) : Bool :=
  name != "" && name.toList.all inHeaderName

/-- Whether a character may never stand in the value of a header. -/
def isForbidden (c : Char) : Bool :=
  c == '\r' || c == '\n' || c.toNat == 0

def headerFailure? : List Header → Option Failure
  | [] => none
  | (name, value) :: rest =>
    if !isHeaderName name then some (.invalidInput ("Invalid header name " ++ quoted name))
    else if value.toList.any isForbidden then
      some (.invalidInput ("Invalid character in " ++ name ++ " header value"))
    else headerFailure? rest

def encodingFailure? (headers : List Header) : Option Failure :=
  (headers.findSome? fun (name, value) =>
    asciiComplaint name.toList <|> asciiComplaint value.toList).map fun complaint =>
      .invalidInput ("Header value is not ASCII: " ++ complaint)

/-- Checks a URL: it must be one, with one of the two schemes and a host within limits. -/
def checkUrl (text : String) : Except Refusal Url := do
  match Url.parse text with
  | .error e => throw (.failure (.invalidUrl text (some e.fault)))
  | .ok url =>
    if url.scheme == "" then throw (.failure (.invalidUrl text none))
    else if !Url.supportedSchemes.contains url.scheme then
      throw (.failure (.protocolMismatch text))
    else
      match url.readableHost with
      | .error fault => throw (.fault fault)
      | .ok host =>
        if host == "" || !isValidHost host then throw (.failure (.invalidUrl text none))
        else pure url

def checkTransaction (t : Transaction) : Except Refusal Url :=
  match inputRefusal? t with
  | some refusal => .error refusal
  | none => checkUrl t.url

def requestedEvent (bound : Fields) (t : Transaction) : Event :=
  .named .info "mms_http_request" bound
    [("method", .text t.method), ("url", .text t.url),
      ("proxy", match t.proxy with
        | some proxy => .text proxy.text
        | none => .absent),
      ("pdu_size", .number t.payloadSize)]

def failedEvent (bound : Fields) (failure : Failure) : Event :=
  .named .warning "mms_http_failed" bound
    [("kind", .text failure.kind.word), ("status_code", .number failure.statusCode),
      ("error", .text failure.message)]

def completedEvent (bound : Fields) (status size : Nat) : Event :=
  .named .info "mms_http_completed" bound
    [("status_code", .number status), ("size", .number size)]

def headersEvent (bound : Fields) (headers : List Header) : Event :=
  ⟨.trace, "HTTP: headers\n" ++ String.join (headers.map fun (name, value) =>
    name ++ "=" ++ value ++ "\n"), bound⟩

def sendingEvents (bound : Fields) (request : Request) : List Event :=
  [⟨.info, "HTTP: User-Agent=" ++ (request.header? "User-Agent").getD "None", bound⟩,
    headersEvent bound request.headers]

variable {σ : Type}

/-- The outcome of a final response and the records that it leaves. Only the body of a
success is read. -/
def conclude (bound : Fields) (channel : Channel σ) (response : Incoming) (world : σ) : Run σ :=
  let phrase := response.phrase
  let fields := response.fields
  let status : Event := ⟨.debug, s!"HTTP: {response.status} " ++ phrase, bound⟩
  if !Status.isSuccess response.status then
    let failure := Failure.httpStatus response.status phrase fields
    { answer := .ok (.failed failure)
      events := [status, failedEvent bound failure]
      world := channel.release ⟨0, false⟩ world }
  else
    let (outcome, reading) := response.body.read fields
    let world := channel.release reading world
    match outcome with
    | .ok body =>
      { answer := .ok (Result.ofBody body)
        events := [status, headersEvent bound fields,
          ⟨.debug, s!"HTTP: response size={body.length}", bound⟩,
          completedEvent bound response.status body.length]
        world }
    | .error fault =>
      { answer := .error fault, events := [status, headersEvent bound fields], world }

/-- Sends a request over a channel and concludes with the final response. -/
def send (executor : Executor) (channel : Channel σ) (call : Call) (url : Url)
    (request : Request) (world : σ) : Run σ :=
  let t := call.transaction
  match Client.open? channel executor.means url.scheme t.proxy t.config.timeoutMillis world with
  | (.error fault, events, world) => { answer := .error fault, events, world }
  | (.ok client, events, world) =>
    let body := request.content.getD []
    match Outgoing.first request.method url request.headers body client.timeout with
    | .error fault => { answer := .error fault, events, world }
    | .ok first =>
      match channel.exchange client.followsRedirects Channel.maxRequests call.clock [] first
        world with
      | (.error fault, world) => { answer := .error fault, events, world }
      | (.ok response, world) =>
        let run := conclude executor.bound channel response world
        { run with events := events ++ run.events }

/-- Turns a failure of the exchange into a failed result; other faults escape. -/
def report (bound : Fields) (run : Run σ) : Run σ :=
  match run.answer with
  | .ok _ => run
  | .error fault =>
    if fault.cls.isExchangeFailure then
      let failure := Failure.networkIo fault
      { run with
        answer := .ok (.failed failure)
        events := run.events ++ [failedEvent bound failure] }
    else run

/-- A call that ends before the network is touched. -/
def refuse (bound : Fields) (events : List Event) (refusal : Refusal) (world : σ) : Run σ :=
  match refusal with
  | .failure failure =>
    { answer := .ok (.failed failure), events := events ++ [failedEvent bound failure], world }
  | .fault fault => { answer := .error fault, events, world }

def requestFailure? (request : Request) : Option Failure :=
  headerFailure? request.headers <|> encodingFailure? request.headers

/-- The locale of a call: the one that it asks for, or the one of the executor. -/
def localeOf (executor : Executor) (call : Call) : String :=
  match call.locale with
  | some locale => if locale == "" then executor.locale else locale
  | none => executor.locale

/-- The request that a call asks for. -/
def requestOf (executor : Executor) (call : Call) : Request :=
  Request.assemble call.transaction (executor.localeOf call)

/-- Carries out a transaction whose URL has been checked: its headers are checked, and the
request is sent. -/
def carryOut (executor : Executor) (channel : Channel σ) (call : Call) (url : Url)
    (asked : Event) (world : σ) : Run σ :=
  let bound := executor.bound
  let t := call.transaction
  let request := executor.requestOf call
  let events := asked :: Request.assemblyEvents bound t
  match requestFailure? request with
  | some failure => refuse bound events (.failure failure) world
  | none =>
    let run := report bound (executor.send channel call url request world)
    { run with events := events ++ sendingEvents bound request ++ run.events }

/-- Executes a call over a channel. A call whose first record cannot be written leaves
none. -/
def execute (executor : Executor) (channel : Channel σ) (call : Call) (world : σ) : Run σ :=
  let t := call.transaction
  match t.proxy.bind fun proxy => Fault.unwritable? proxy.port with
  | some fault => { answer := .error fault, events := [], world }
  | none =>
    let asked := requestedEvent executor.bound t
    match checkTransaction t with
    | .error refusal => refuse executor.bound [asked] refusal world
    | .ok url => executor.carryOut channel call url asked world

end Executor

end MmsHttp
