import MmsHttp.Proofs.Executor.Outward
import MmsHttp.Proofs.Executor.Records

/-!
The event log of a call agrees with its result. Every call begins with the record of what it
was asked for, and a call with a result ends with the record of that result; no record
between them, and none of a call that ends with a fault, names either.
-/

namespace MmsHttp

namespace Event

/-- The value that is bound last to a name. -/
def field? (event : Event) (name : String) : Option FieldValue :=
  (event.fields.reverse.find? (·.1 == name)).map (·.2)

def IsNamed (event : Event) (name : String) : Prop :=
  event.message = name ∧ event.field? "event" = some (.text name)

/-- A record that tells neither how a call begins nor how it ends. -/
def Quiet (event : Event) : Prop :=
  event.message ∉ ["mms_http_request", "mms_http_failed", "mms_http_completed"]

theorem IsRemark.quiet {event : Event} (h : event.IsRemark) : event.Quiet := by
  obtain ⟨rest, h⟩ := h
  intro hnames
  simp only [List.mem_cons, List.not_mem_nil, or_false] at hnames
  rcases hnames with hname | hname | hname <;>
    · rw [hname] at h
      have hfirst := congrArg List.head? h
      simp at hfirst

/-- The record that tells a result. -/
def Tells (bound : Fields) (event : Event) : Result → Prop
  | .failed failure => event = Executor.failedEvent bound failure
  | .success body => ∃ status, event = Executor.completedEvent bound status (body.getD []).length

end Event

/-- A channel that has nothing to say about calls when it is acquired. -/
def Channel.Quiet {σ : Type} (channel : Channel σ) : Prop :=
  ∀ route world events after, channel.acquire route world = (.ok events, after) →
    ∀ event ∈ events, event.Quiet

/-- A run whose last record, and no other one, tells its result. -/
structure Run.Logged {σ : Type} (bound : Fields) (run : Run σ) : Prop where
  ended : ∀ result, run.answer = .ok result → ∃ middle last, run.events = middle ++ [last] ∧
    (∀ event ∈ middle, event.Quiet) ∧ last.Tells bound result
  broken : ∀ fault, run.answer = .error fault → ∀ event ∈ run.events, event.Quiet

section Runs

variable {σ : Type} {bound : Fields} {events : List Event}

theorem Run.Logged.behind {run : Run σ} (hlogged : run.Logged bound)
    (hquiet : ∀ event ∈ events, event.Quiet) : (run.behind events).Logged bound := by
  constructor
  case ended =>
    intro result hresult
    obtain ⟨middle, last, hevents, hmiddle, hlast⟩ := hlogged.ended result hresult
    refine ⟨events ++ middle, last, ?_, ?_, hlast⟩
    · rw [Run.behind, hevents, List.append_assoc]
    · intro event hmem
      rcases List.mem_append.mp hmem with hmem | hmem
      · exact hquiet event hmem
      · exact hmiddle event hmem
  case broken =>
    intro fault hfault event hmem
    rcases List.mem_append.mp hmem with hmem | hmem
    · exact hquiet event hmem
    · exact hlogged.broken fault hfault event hmem

/-- A run that has ended with a record of its result. -/
theorem Run.logged_of_told {run : Run σ} {result : Result} {last : Event} (middle : List Event)
    (hanswer : run.answer = .ok result) (hevents : run.events = middle ++ [last])
    (hquiet : ∀ event ∈ middle, event.Quiet) (hlast : last.Tells bound result) :
    run.Logged bound where
  ended := by
    intro other hother
    obtain rfl := Except.ok.inj (hanswer.symm.trans hother)
    exact ⟨middle, last, hevents, hquiet, hlast⟩
  broken := by
    intro fault hfault
    cases hanswer.symm.trans hfault

theorem Run.logged_broken {fault : Fault} {world : σ} (hquiet : ∀ event ∈ events, event.Quiet) :
    (Run.broken fault events world).Logged bound where
  ended := nofun
  broken := fun _ _ => hquiet

theorem Run.Logged.report {run : Run σ} (hlogged : run.Logged bound) :
    (Executor.report bound run).Logged bound := by
  unfold Executor.report
  split
  · exact hlogged
  case h_2 fault hfault =>
    split
    · exact Run.logged_of_told run.events rfl rfl (hlogged.broken fault hfault) rfl
    · exact hlogged

end Runs

namespace Executor

open Channel

variable {σ : Type} {bound : Fields}

theorem logged_conclude (channel : Channel σ) (response : Incoming) (world : σ) :
    (conclude bound channel response world).Logged bound := by
  let status : Event := ⟨.debug, s!"HTTP: {response.status} " ++ response.phrase, bound⟩
  have hstatus : status.Quiet := Event.IsRemark.quiet ⟨_, by simp [status]; rfl⟩
  have hhead : ∀ event ∈ [status, headersEvent bound response.fields], event.Quiet := by
    simpa using ⟨hstatus, (isRemark_headersEvent _).quiet⟩
  unfold conclude
  dsimp only
  split
  · exact Run.logged_of_told [status] rfl rfl (by simpa using hstatus) rfl
  · split
    case h_1 body _ =>
      let size : Event := ⟨.debug, s!"HTTP: response size={body.length}", bound⟩
      have hsize : size.Quiet := Event.IsRemark.quiet ⟨_, by simp [size]; rfl⟩
      apply Run.logged_of_told [status, headersEvent bound response.fields, size] rfl rfl
      · intro event hmem
        rcases List.mem_append.mp (show event ∈ [status, _] ++ [size] from hmem) with hmem | hmem
        · exact hhead event hmem
        · obtain rfl := List.mem_singleton.mp hmem
          exact hsize
      · refine ⟨response.status, ?_⟩
        cases body <;> rfl
    case h_2 fault _ => exact Run.logged_broken hhead

theorem Sends.logged {executor : Executor} {channel : Channel σ} (hchannel : channel.Quiet)
    {call : Call} {url : Url} {request : Request} {world : σ} {run : Run σ}
    (hsends : Sends executor channel call url request world run) : run.Logged executor.bound := by
  cases hsends with
  | unopened fault events after hopen =>
      exact Run.logged_broken (forall_events_of_open? hchannel hopen)
  | unmade client events opened hopen fault hfirst =>
      exact Run.logged_broken (forall_events_of_open? hchannel hopen)
  | interrupted client events opened hopen first fault after hended =>
      exact Run.logged_broken (forall_events_of_open? hchannel hopen)
  | concluded client events opened hopen first response after hended =>
      exact (logged_conclude channel response after).behind (forall_events_of_open? hchannel hopen)

/-- A call with a result begins and ends with the records that are about the whole of it. -/
theorem events_of_result {executor : Executor} {channel : Channel σ} (hchannel : channel.Quiet)
    {call : Call} {world : σ} {result : Result}
    (hresult : (executor.execute channel call world).answer = .ok result) :
    ∃ middle last, (executor.execute channel call world).events =
        requestedEvent executor.bound call.transaction :: (middle ++ [last]) ∧
      (∀ event ∈ middle, event.Quiet) ∧ last.Tells executor.bound result := by
  have hends := ends_execute executor channel call world
  generalize executor.execute channel call world = run at hends hresult ⊢
  cases hends with
  | unwritable fault hport => cases hresult
  | refused refusal hcheck =>
      cases refusal with
      | fault fault => cases hresult
      | failure failure =>
          obtain rfl := Except.ok.inj hresult
          exact ⟨[], failedEvent executor.bound failure, rfl, nofun, rfl⟩
  | unsendable failure hheaders =>
      obtain rfl := Except.ok.inj hresult
      exact ⟨Request.assemblyEvents executor.bound call.transaction,
        failedEvent executor.bound failure, rfl,
        fun event hmem => (isRemark_assemblyEvents _ event hmem).quiet, rfl⟩
  | sent url run hsends =>
      have hquiet : ∀ event ∈ Request.assemblyEvents executor.bound call.transaction ++
          sendingEvents executor.bound (executor.requestOf call), event.Quiet := by
        intro event hmem
        rcases List.mem_append.mp hmem with hmem | hmem
        · exact (isRemark_assemblyEvents _ event hmem).quiet
        · exact (isRemark_sendingEvents _ event hmem).quiet
      obtain ⟨middle, last, hevents, hmiddle, hlast⟩ :=
        ((hsends.logged hchannel).report.behind hquiet).ended result hresult
      exact ⟨middle, last, congrArg _ hevents, hmiddle, hlast⟩

theorem quiet_channel : Script.channel.Quiet := by
  intro route world events after hacquire
  obtain rfl := Except.ok.inj (Prod.mk.inj hacquire).1
  exact nofun

/-- The record of a call's end agrees with its result. The status of a success is that of the
reply to the last request. -/
def Agrees (before : Script) (run : Run Script) (last : Event) : Result → Prop
  | .failed failure =>
    last.IsNamed "mms_http_failed" ∧ last.level = .warning ∧
      last.field? "kind" = some (.text failure.kind.word) ∧
      last.field? "status_code" = some (.number failure.statusCode) ∧
      last.field? "error" = some (.text failure.message)
  | .success body =>
    last.IsNamed "mms_http_completed" ∧ last.level = .info ∧
      last.field? "size" = some (.number (body.getD []).length) ∧
      ∃ requests response, run.world.sent = before.sent ++ requests ∧ requests ≠ [] ∧
        Script.reply (before.replies.drop (requests.length - 1)) = .ok response ∧
        200 ≤ response.status ∧ response.status ≤ 299 ∧
        last.field? "status_code" = some (.number response.status)

theorem agrees_failedEvent (before : Script) (run : Run Script) (failure : Failure) :
    Agrees before run (failedEvent bound failure) (.failed failure) := by
  simp [Agrees, Event.IsNamed, Event.field?, failedEvent, Event.named]

section Success

variable {executor : Executor} {call : Call} {script : Script} {body : Option Bytes}

theorem completedEvent_mem_of_success
    (hresult : (executor.execute Script.channel call script).answer = .ok (.success body)) :
    ∃ requests response bytes,
      (executor.execute Script.channel call script).world.sent = script.sent ++ requests ∧
      requests ≠ [] ∧ Script.reply (script.replies.drop (requests.length - 1)) = .ok response ∧
      200 ≤ response.status ∧ response.status ≤ 299 ∧
      completedEvent executor.bound response.status bytes ∈
        (executor.execute Script.channel call script).events := by
  obtain ⟨url, first, hgoes⟩ := exists_goesOut_of_isAnswer hresult (Or.inl ⟨body, rfl⟩)
  obtain ⟨earlier, last, response, hlegs, _, hreply, hended, hconcluded⟩ :=
    hgoes.last_reply hresult (by simp)
  obtain ⟨hstatus, bytes, hread, _⟩ := concluded_eq_success_iff.mp hconcluded
  refine ⟨(legs call url first script).map Script.Leg.request, response, bytes.length,
    (hgoes.sent script).1, by simp [hlegs], by simpa [hlegs] using hreply, hstatus.1, hstatus.2, ?_⟩
  apply mem_execute_events script hgoes.admits hgoes.opening (Prod.ext hended rfl)
  exact completedEvent_mem_conclude _ _ ((isSuccess_iff _).mpr hstatus) hread _

theorem agrees_of_success
    (hresult : (executor.execute Script.channel call script).answer = .ok (.success body))
    {middle : List Event} {last : Event}
    (hevents : (executor.execute Script.channel call script).events =
      requestedEvent executor.bound call.transaction :: (middle ++ [last]))
    (hmiddle : ∀ event ∈ middle, event.Quiet)
    (htells : last.Tells executor.bound (.success body)) :
    Agrees script (executor.execute Script.channel call script) last (.success body) := by
  obtain ⟨requests, response, size, hsent, hsome, hreply, hlow, hhigh, hmem⟩ :=
    completedEvent_mem_of_success hresult
  -- The record of the last reply can only be the last one of the call.
  have hlast : last = completedEvent executor.bound response.status size := by
    rw [hevents, List.mem_cons, List.mem_append, List.mem_singleton] at hmem
    rcases hmem with hfirst | hquiet | hlast
    · have hmessage := congrArg Event.message hfirst
      simp [completedEvent, requestedEvent, Event.named] at hmessage
    · exact absurd (hmiddle _ hquiet) (by simp [Event.Quiet, completedEvent, Event.named])
    · exact hlast.symm
  obtain ⟨status, hstatus⟩ := htells
  refine ⟨?_, ?_, ?_, requests, response, hsent, hsome, hreply, hlow, hhigh, ?_⟩
  · simp [hlast, Event.IsNamed, Event.field?, completedEvent, Event.named]
  · rw [hlast]
    rfl
  · simp [hstatus, Event.field?, completedEvent, Event.named]
  · simp [hlast, Event.field?, completedEvent, Event.named]

end Success

/-- The log of a call with a result begins with the record of the call and ends with one
that agrees with the result, and no record between them is of either kind. -/
theorem log_agrees (executor : Executor) (call : Call) (script : Script) {result : Result}
    (hresult : (executor.execute Script.channel call script).answer = .ok result) :
    let run := executor.execute Script.channel call script
    ∃ first middle last, run.events = first :: (middle ++ [last]) ∧
      first.IsNamed "mms_http_request" ∧ first.level = .info ∧
      (∀ event ∈ middle, event.Quiet) ∧ Agrees script run last result := by
  obtain ⟨middle, last, hevents, hmiddle, htells⟩ := events_of_result quiet_channel hresult
  refine ⟨_, middle, last, hevents, ?_, rfl, hmiddle, ?_⟩
  · simp [Event.IsNamed, Event.field?, requestedEvent, Event.named]
  · cases result with
    | failed failure =>
        obtain rfl := htells
        exact agrees_failedEvent _ _ failure
    | success body => exact agrees_of_success hresult hevents hmiddle htells

/-- A message that is fetched after a redirect leaves five records of remarks between that of
the call and that of its success. -/
theorem log_agrees_after_redirect :
    let executor : Executor := { locale := "en_US", bound := [("event", .text "outer")] }
    let call : Call := { transaction := { method := "GET", url := "https://mms.example/m" } }
    let moved : Incoming := ⟨302, none, [("Location".toUTF8.toList, "/n".toUTF8.toList)], ⟨[], none⟩⟩
    let found : Incoming := ⟨200, none, [], ⟨[[0x6d], [0x6d, 0x73]], none⟩⟩
    let script : Script := { replies := [.ok moved, .ok found] }
    let run := executor.execute Script.channel call script
    run.answer = .ok (.success (some [0x6d, 0x6d, 0x73])) ∧ run.events.length = 7 ∧
      ∃ first middle last, run.events = first :: (middle ++ [last]) ∧
        first.IsNamed "mms_http_request" ∧ first.level = .info ∧
        (∀ event ∈ middle, event.Quiet) ∧
        Agrees script run last (.success (some [0x6d, 0x6d, 0x73])) := by
  intro executor call moved found script run
  have hrun : (run.answer, run.events.length) = (.ok (.success (some [0x6d, 0x6d, 0x73])), 7) := by
    decide +kernel
  obtain ⟨hresult, hlength⟩ := Prod.mk.inj hrun
  exact ⟨hresult, hlength, log_agrees executor call script hresult⟩

end Executor

end MmsHttp
