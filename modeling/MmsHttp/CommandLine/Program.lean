import MmsHttp.CommandLine.Arguments
import MmsHttp.CommandLine.Files
import MmsHttp.Session

/-!
The program: one transaction, with settings from the environment and from the file `.env`
of the working directory. The body of a successful response goes to a file or to the
standard output, after all connections have been closed.
-/

namespace MmsHttp.CommandLine

/-- What a program finds when it starts. -/
structure Surroundings where
  environment : List (String × String)
  files : Files
  network : Wire.Network
  /-- The locale that the process reports. -/
  locale : Option String
  clock : Clock := .unset

inductive Ending where
  | returned (code : Nat)
  | exited (exit : Exit)
  | refused (problems : List Settings.Problem)
  | fault (fault : Fault)
  | interrupted

/-- The exit code that tells how a program ended. A process that is interrupted ends in
peace. -/
def Ending.code : Ending → Nat
  | returned code => code
  | exited exit => exit.code
  | refused _ => 1
  | fault _ => 1
  | interrupted => 0

structure Outcome where
  ending : Ending
  printed : Bytes := []
  files : Files
  events : List Event := []
  network : Wire.Network

namespace Surroundings

/-- A program that ends without a trace. -/
def ending (surroundings : Surroundings) (ending : Ending) : Outcome :=
  { ending, files := surroundings.files, network := surroundings.network }

def environmentFile (surroundings : Surroundings) : Except Fault (Option String) :=
  match surroundings.files.entry? [".env"] with
  | some (.file bytes) =>
    match Text.fromUtf8? bytes with
    | some cs => .ok (some (String.ofList cs))
    | none => .error ⟨.outside "UnicodeDecodeError", (Text.utf8Complaint 0 bytes).getD ""⟩
  | _ => .ok none

def settings (surroundings : Surroundings) : Except Settings.Refusal Settings :=
  match surroundings.environmentFile with
  | .error fault => .error (.fault fault)
  | .ok file => Settings.read { arguments := [], environment := surroundings.environment, file }

end Surroundings

/-- The message that a command sends. An argument that two dashes have used up names no
file. -/
def Command.payload (command : Command) (files : Files) : Except Fault (Option Bytes) :=
  match command.message with
  | none => .ok none
  | some none =>
    .error ⟨.outside "AttributeError", "'list' object has no attribute 'read_bytes'"⟩
  | some (some path) => (files.read (.ofText path)).map some

def Command.call (command : Command) (payload : Option Bytes) (settings : Settings)
    (clock : Clock) : Call :=
  { clock
    transaction :=
      { method := if command.message.isSome then "POST" else "GET"
        url := command.url
        payload
        proxy := settings.proxy
        config := settings.config } }

def failedEvent (failure : Failure) : Event :=
  .named .info "mms_transaction_failed" []
    [("kind", .text failure.kind.word), ("status_code", .number failure.statusCode),
      ("error", .text failure.message)]

def completedEvent (size : Nat) : Event :=
  .named .info "mms_transaction_completed" [] [("size", .number size)]

/-- Hands the result of a transaction on, when its session has been closed. -/
def deliver (command : Command) (result : Result) (outcome : Outcome) : Outcome :=
  match result with
  | .failed failure =>
    { outcome with ending := .returned 1, events := outcome.events ++ [failedEvent failure] }
  | .success body? =>
    let body := body?.getD []
    let completed (outcome : Outcome) : Outcome :=
      { outcome with
        ending := .returned 0
        events := outcome.events ++ [completedEvent body.length] }
    match command.output with
    | none => completed { outcome with printed := body }
    | some path =>
      match outcome.files.write (.ofText path) body with
      | .error fault => { outcome with ending := .fault fault }
      | .ok files => completed { outcome with files }

def interruption : String := "KeyboardInterrupt"

def perform (command : Command) (payload : Option Bytes) (surroundings : Surroundings)
    (settings : Settings) : Outcome :=
  let session := (Session.new settings surroundings.locale surroundings.network).opened
  let call := command.call payload settings surroundings.clock
  let (answer, events, session) := session.execute call
  let (more, session) := session.closed
  let outcome : Outcome :=
    { ending := .returned 0
      files := surroundings.files
      events := events ++ more
      network := session.pools.network }
  match answer with
  | .error fault => { outcome with ending := .fault fault }
  | .ok result => deliver command result outcome

def run (arguments : List String) (surroundings : Surroundings) : Outcome :=
  match read arguments with
  | .error exit => surroundings.ending (.exited exit)
  | .ok command =>
    match command.payload surroundings.files with
    | .error fault => surroundings.ending (.fault fault)
    | .ok payload =>
      match surroundings.settings with
      | .error (.fault fault) => surroundings.ending (.fault fault)
      | .error (.problems problems) => surroundings.ending (.refused problems)
      | .ok settings => perform command payload surroundings settings

def brokenEvent (text : String) : Event :=
  ⟨.error, "mms transport failed: " ++ text, []⟩

def interruptedEvent : Event :=
  .named .info "mms_transport_interrupted" [] []

/-- Runs the program as a process does: faults are put on record before they end it, and
an interruption ends it in peace. -/
def runProcess (arguments : List String) (surroundings : Surroundings) : Outcome :=
  let outcome := run arguments surroundings
  match outcome.ending with
  | .fault fault =>
    if fault.cls.name == interruption then
      { outcome with ending := .interrupted, events := outcome.events ++ [interruptedEvent] }
    else { outcome with events := outcome.events ++ [brokenEvent fault.text] }
  | .refused problems =>
    let text := s!"{problems.length} validation errors for Settings"
    { outcome with events := outcome.events ++ [brokenEvent text] }
  | _ => outcome

end MmsHttp.CommandLine
