import MmsHttp.CommandLine.Dialogue
import Std.Async.DNS
import Std.Async.TCP
import Std.Async.Timer
import Std.Time

/-!
The program as a process runs it. Arguments, environment and files come from the system,
and so do the answers to the questions of the dialogue with the network; what the program
leaves behind goes back. Connections can be made but not secured.
-/

namespace MmsHttp.CommandLine

open Std.Async

def usage : String :=
  "usage: mms-transport get URL [--output FILE]\n" ++
    "       mms-transport post URL PDU_FILE [--output FILE]\n"

def inspect (path : String) : IO (Option Entry) := do
  try
    let real ← IO.FS.realPath path
    if ← real.isDir then return some .directory
    return some (.file (← IO.FS.readBinFile real).toList)
  catch _ => return none

/-- What is found along the paths that a program may use. -/
def lookAround (paths : List Path) : IO Files := do
  let places := paths.flatMap (·.places)
  let found ← places.mapM fun place => do
    return (← inspect (Path.ofPlace place).text).map ((place, ·))
  return found.filterMap id

/-- The paths that arguments name, and that of the environment file. -/
def pathsOf (arguments : List String) : List Path :=
  let named :=
    match read arguments with
    | .ok command => [command.message.join, command.output].filterMap id
    | .error _ => []
  (".env" :: named).map .ofText

/-- What the clock shows now. -/
def present : IO Instant := do
  let now ← Std.Time.Timestamp.now
  return ⟨now.toSecondsSinceUnixEpoch.val, (← Std.Time.PlainDateTime.now).year⟩

def Surroundings.ofProcess (arguments : List String) : IO Surroundings := do
  let environment := (← Std.Internal.UV.System.osEnviron).toList
  return {
    environment
    files := ← lookAround (pathsOf arguments)
    network := Dialogue.network {}
    locale := Locale.ofEnvironment environment
    clock := .still (← present) }

/-- Does something within a time in milliseconds, if there is a limit. -/
def within (limit : Option Nat) {α : Type} (action : Async α) : IO (Option α) :=
  match limit with
  | none => (some <$> action).block
  | some limit =>
    let wait : Async (Option α) := do
      sleep (Std.Time.Millisecond.Offset.ofNat limit)
      return none
    (Async.race (some <$> action) wait).block

/-- A connection: how many of the written bytes have been sent, and how long it may take
to deliver something. -/
structure Line where
  socket : TCP.Socket.Client
  sent : Nat := 0
  limit : Option Nat

def resolve (host : String) : IO Answer := do
  try
    let addresses ← (DNS.getAddrInfo host "").block
    return .ok (addresses.toList.map (·.toString))
  catch problem => return .error ⟨.derived "gaierror" [.system], toString problem⟩

def socketAddress? (address : String) (port : Int) : Option Std.Net.SocketAddress :=
  let port := port.toNat.toUInt16
  match Std.Net.IPv4Addr.ofString address, Std.Net.IPv6Addr.ofString address with
  | some addr, _ => some (.v4 ⟨addr, port⟩)
  | none, some addr => some (.v6 ⟨addr, port⟩)
  | none, none => none

def connect (address : String) (port : Int) (limit : Option Nat) :
    IO (Except LinkFault Line) := do
  match socketAddress? address port with
  | none => return .error (.unreachable address)
  | some place =>
    try
      let socket ← TCP.Socket.Client.mk
      match ← within limit (socket.connect place) with
      | some () => return .ok { socket, limit }
      | none => return .error (.plain .connectTimeout "timed out")
    catch problem => return .error (.unreachable (toString problem))

/-- Sends what was written to a connection since. What cannot be sent shows in what the
other end delivers. -/
def Line.send (line : Line) (written : Bytes) : IO Line := do
  let rest := written.drop line.sent
  try
    if !rest.isEmpty then discard (within line.limit (line.socket.send ⟨rest.toArray⟩))
  catch _ => pure ()
  return { line with sent := written.length }

def Line.receive (line : Line) : IO Delivery := do
  try
    match ← within line.limit (line.socket.recv? 65536) with
    | none => return .fault (.plain .readTimeout "timed out")
    | some none => return .ending
    | some (some bytes) => return .part bytes.toList
  catch problem => return .fault (.plain .readError (toString problem))

def insecure : LinkFault := .unreachable "no secure connections"

/-- Runs the program until it has no more questions, with the lines that connections have
so far; an attempt that failed has none. -/
partial def converse (arguments : List String) (surroundings : Surroundings)
    (dialogue : Dialogue) (lines : List (Option Line)) : IO Outcome := do
  let outcome := runProcess arguments { surroundings with network := dialogue.network }
  match dialogue.question? outcome with
  | none => return outcome
  | some (.name host) =>
    converse arguments surroundings (dialogue.named host (← resolve host)) lines
  | some (.connection address port timeout) =>
    match ← connect address port timeout.toThousandths? with
    | .ok line =>
      converse arguments surroundings (dialogue.connected insecure) (lines ++ [some line])
    | .error fault =>
      converse arguments surroundings (dialogue.notConnected fault) (lines ++ [none])
  | some (.delivery place) =>
    match lines[place]?.join, outcome.network.streams[place]? with
    | some line, some stream =>
      let line ← line.send stream.written
      let dialogue := dialogue.delivered place (← line.receive)
      converse arguments surroundings dialogue (lines.set place (some line))
    | _, _ => return outcome

/-- Writes the files that a program has changed. -/
def keep (before after : Files) : IO Unit := do
  for (place, entry) in after do
    match entry with
    | .file bytes =>
      if before.entry? place != some entry then
        IO.FS.writeBinFile (Path.ofPlace place).text ⟨bytes.toArray⟩
    | .directory => pure ()

def shown (name : String) : FieldValue → Option String
  | .absent => none
  | .text value => some (name ++ "=" ++ value)
  | .number value => some (name ++ "=" ++ toString value)

/-- Puts a record on the error output, unless it is one for tracing. -/
def report (event : Event) : IO Unit :=
  let words := event.level.name :: event.message ::
    event.fields.filterMap fun (name, value) => shown name value
  if event.level == .trace then pure () else IO.eprintln (String.intercalate " " words)

/-- Puts the end of a program on the error output, if it did not end by itself. -/
def explain : Ending → IO Unit
  | .exited .usage => IO.eprint usage
  | .exited .help => IO.print usage
  | .fault fault => IO.eprintln (fault.cls.name ++ ": " ++ fault.text)
  | .refused problems => do
    for problem in problems do
      IO.eprintln (String.intercalate "." problem.place ++ ": " ++ problem.word)
  | .returned _ | .interrupted => pure ()

end MmsHttp.CommandLine

open MmsHttp.CommandLine in
def main (arguments : List String) : IO UInt32 := do
  let surroundings ← Surroundings.ofProcess arguments
  let outcome ← converse arguments surroundings {} []
  outcome.events.forM report
  keep surroundings.files outcome.files
  let output ← IO.getStdout
  output.write ⟨outcome.printed.toArray⟩
  output.flush
  explain outcome.ending
  return outcome.ending.code.toUInt32
