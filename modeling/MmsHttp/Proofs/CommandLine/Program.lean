import MmsHttp.Proofs.CommandLine.Exchange
import MmsHttp.Proofs.CommandLine.Files
import MmsHttp.Proofs.Executor.Log

/-!
The program from its arguments to its exit code. Where it returns, the code tells whether the
transaction was a success; the body of a success goes to one of the two sinks and to that
alone, a failure leaves both of them alone, and one record tells how the transaction went.
-/

namespace MmsHttp.CommandLine

open Wire

/-- A record of how a transaction went. -/
def isVerdict (event : Event) : Bool :=
  ["mms_transaction_failed", "mms_transaction_completed"].contains event.message

theorem not_isVerdict_of_isOfCall {event : Event} (h : event.IsOfCall) :
    isVerdict event = false := by
  rcases h with ⟨rest, hremark⟩ | hnames
  · have hother (name : String) (hname : name ∈ ["mms_transaction_failed",
        "mms_transaction_completed"]) : event.message ≠ name := by
      rintro rfl
      have hfirst := congrArg List.head? hremark
      simp only [List.mem_cons, List.not_mem_nil, or_false] at hname
      rcases hname with hname | hname <;> simp [hname] at hfirst
    simpa [isVerdict] using hother
  · simp only [List.mem_cons, List.not_mem_nil, or_false] at hnames
    rcases hnames with hname | hname | hname <;> simp [isVerdict, hname]

def exitCode : Result → Nat
  | .success _ => 0
  | .failed _ => 1

/-- The only verdict among the records of a program is about this result. -/
def Tells (events : List Event) (result : Result) : Prop :=
  ∃ record, events.filter isVerdict = [record] ∧ record.level = .info ∧
    match result with
    | .failed failure =>
      record.IsNamed "mms_transaction_failed" ∧
        record.field? "kind" = some (.text failure.kind.word) ∧
        record.field? "status_code" = some (.number failure.statusCode) ∧
        record.field? "error" = some (.text failure.message)
    | .success body =>
      record.IsNamed "mms_transaction_completed" ∧
        record.field? "size" = some (.number (body.getD []).length)

/-- Where the body of a result goes: to the file that the command names for it, or else to the
standard output; nowhere if the result is a failure. -/
def Puts (command : Command) (result : Result) (before : Files) (outcome : Outcome) : Prop :=
  match result, command.output with
  | .failed _, _ => outcome.printed = [] ∧ outcome.files = before
  | .success body, none => outcome.printed = body.getD [] ∧ outcome.files = before
  | .success body, some path =>
    outcome.printed = [] ∧ outcome.files.read (.ofText path) = .ok (body.getD []) ∧
      ∃ place, before.place (.ofText path) = .ok place ∧
        Files.Puts place (body.getD []) before outcome.files

section Delivery

variable {command : Command} {result : Result} {outcome : Outcome} {code : Nat}

theorem tells_of_verdict {events : List Event} {record : Event}
    (hquiet : ∀ event ∈ events, isVerdict event = false) (hrecord : isVerdict record = true) :
    (events ++ [record]).filter isVerdict = [record] := by
  have hnone : events.filter isVerdict = [] := by simpa using hquiet
  rw [List.filter_append, hnone, List.nil_append, List.filter_singleton, hrecord]
  rfl

/-- Handing on a result that is told, put where it belongs, and nothing else changed. -/
theorem deliver_returned (hprinted : outcome.printed = [])
    (hquiet : ∀ event ∈ outcome.events, isVerdict event = false)
    (h : (deliver command result outcome).ending = .returned code) :
    code = exitCode result ∧
      Puts command result outcome.files (deliver command result outcome) ∧
      Tells (deliver command result outcome).events result ∧
      (deliver command result outcome).network = outcome.network := by
  cases result with
  | failed failure =>
      obtain rfl : 1 = code := by simpa [deliver] using h
      have hverdict : isVerdict (failedEvent failure) = true := rfl
      refine ⟨rfl, ⟨hprinted, rfl⟩, ?_, rfl⟩
      refine ⟨failedEvent failure, tells_of_verdict hquiet hverdict, rfl, ?_⟩
      simp [failedEvent, Event.named, Event.IsNamed, Event.field?]
  | success body =>
      have hverdict : isVerdict (completedEvent (body.getD []).length) = true := rfl
      have htells : Tells (outcome.events ++ [completedEvent (body.getD []).length])
          (.success body) := by
        refine ⟨_, tells_of_verdict hquiet hverdict, rfl, ?_⟩
        simp [completedEvent, Event.named, Event.IsNamed, Event.field?]
      cases houtput : command.output with
      | none =>
          simp only [deliver, houtput] at h ⊢
          obtain rfl : 0 = code := by simpa using h
          exact ⟨rfl, by simp [Puts, houtput], htells, trivial⟩
      | some path =>
          simp only [deliver, houtput] at h ⊢
          cases hwrite : outcome.files.write (.ofText path) (body.getD []) with
          | error fault => simp [hwrite] at h
          | ok files =>
              simp only [hwrite] at h ⊢
              obtain rfl : 0 = code := by simpa using h
              obtain ⟨place, hplace, hputs, hread⟩ := Files.puts_of_write hwrite
              refine ⟨rfl, ?_, htells, trivial⟩
              simp only [Puts, houtput]
              exact ⟨hprinted, hread, place, hplace, hputs⟩

end Delivery

section Program

variable (command : Command) (payload : Option Bytes) (surroundings : Surroundings)
  (settings : Settings)

/-- What the program has when its session is closed and before it hands anything on. -/
def ready : Outcome :=
  { ending := .returned 0
    files := surroundings.files
    events := (exchanged command payload surroundings settings).2.1 ++
      (exchanged command payload surroundings settings).2.2.closed.1
    network := (ended command payload surroundings settings).pools.network }

theorem perform_eq :
    perform command payload surroundings settings =
      match (exchanged command payload surroundings settings).1 with
      | .error fault => { ready command payload surroundings settings with ending := .fault fault }
      | .ok result => deliver command result (ready command payload surroundings settings) :=
  rfl

theorem quiet_ready :
    ∀ event ∈ (ready command payload surroundings settings).events, isVerdict event = false := by
  intro event hmem
  have hclosing := (shut_ended command payload surroundings settings).2
  simp only [ready, hclosing, List.append_nil] at hmem
  apply not_isVerdict_of_isOfCall
  exact Executor.isOfCall_execute (executor surroundings settings) Executor.remarks_pools
    (command.call payload settings surroundings.clock) (begun surroundings settings).pools event
    hmem

end Program

/-- What a run of the program that returns a code has done: for which command and settings, with
which result, and what became of that. -/
structure Accomplishes (arguments : List String) (surroundings : Surroundings)
    (command : Command) (payload : Option Bytes) (settings : Settings) (result : Result)
    (code : Nat) (outcome : Outcome) : Prop where
  asked : read arguments = .ok command
  loaded : command.payload surroundings.files = .ok payload
  configured : surroundings.settings = .ok settings
  answered : (exchanged command payload surroundings settings).1 = .ok result
  returned : code = exitCode result
  put : Puts command result surroundings.files outcome
  told : Tells outcome.events result
  traffic : ∃ names, outcome.network.lookups = surroundings.network.lookups ++ names ∧
    Traffic command surroundings settings (noted command payload surroundings settings) names
  shut : (ended command payload surroundings settings).Shut
  /-- The session is closed first; what is handed on comes after that. -/
  handed : ∃ closed : Outcome, outcome = deliver command result closed ∧
    closed.printed = [] ∧ closed.files = surroundings.files ∧
    closed.network = (ended command payload surroundings settings).pools.network

/-- Where the program returns, its code says whether the transaction was a success, the body of
a success has gone to its one sink and nothing to any other, the verdict on record is that of the
result, and all this after the session was closed. -/
theorem accomplishes_of_returned {arguments : List String} {surroundings : Surroundings}
    {code : Nat} (h : (run arguments surroundings).ending = .returned code) :
    ∃ command payload settings result,
      Accomplishes arguments surroundings command payload settings result code
        (run arguments surroundings) := by
  unfold run at h ⊢
  cases hcommand : read arguments with
  | error exit => simp [hcommand, Surroundings.ending] at h
  | ok command =>
      simp only [hcommand] at h ⊢
      cases hpayload : command.payload surroundings.files with
      | error fault => simp [hpayload, Surroundings.ending] at h
      | ok payload =>
          simp only [hpayload] at h ⊢
          cases hsettings : surroundings.settings with
          | error refusal => cases refusal <;> simp [hsettings, Surroundings.ending] at h
          | ok settings =>
              simp only [hsettings] at h ⊢
              rw [perform_eq] at h ⊢
              cases hanswer : (exchanged command payload surroundings settings).1 with
              | error fault => simp [hanswer] at h
              | ok result =>
                  simp only [hanswer] at h ⊢
                  obtain ⟨hcode, hput, htold, hnetwork⟩ := deliver_returned rfl
                    (quiet_ready command payload surroundings settings) h
                  refine ⟨command, payload, settings, result, ?_⟩
                  constructor
                  case asked => exact hcommand
                  case loaded => exact hpayload
                  case configured => exact hsettings
                  case answered => exact hanswer
                  case returned => exact hcode
                  case put => exact hput
                  case told => exact htold
                  case traffic =>
                    rw [hnetwork]
                    exact traffic_noted hpayload
                  case shut => exact (shut_ended command payload surroundings settings).1
                  case handed =>
                    exact ⟨ready command payload surroundings settings, rfl, rfl, rfl, rfl⟩

def Ending.returned? : Ending → Option Nat
  | .returned code => some code
  | _ => none

theorem Ending.of_returned? {ending : Ending} {code : Nat} (h : ending.returned? = some code) :
    ending = .returned code := by
  cases ending with
  | returned own => rw [Option.some.inj h]
  | _ => cases h

/-- A message is sent, and its confirmation is written to a file. -/
theorem accomplishes_sending :
    let arguments := ["post", "http://mms.example/m", "send.pdu", "--output", "conf.pdu"]
    let surroundings : Surroundings :=
      { environment := []
        files := [(["send.pdu"], .file [0x8c, 0x80])]
        network :=
          { directory := [("mms.example", .ok ["10.0.0.1"])]
            peers := [.ok { parts := [Text.utf8
              "HTTP/1.1 200 OK\r\nContent-Length: 2\r\n\r\nok".toList] }] }
        locale := none }
    (run arguments surroundings).ending = .returned 0 ∧
      ∃ command payload settings result,
        Accomplishes arguments surroundings command payload settings result 0
          (run arguments surroundings) := by
  intro arguments surroundings
  have hended : (run arguments surroundings).ending.returned? = some 0 := by decide +kernel
  have hreturned := Ending.of_returned? hended
  exact ⟨hreturned, accomplishes_of_returned hreturned⟩

end MmsHttp.CommandLine
