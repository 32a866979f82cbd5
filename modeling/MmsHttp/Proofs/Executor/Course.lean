import MmsHttp.Proofs.Exchange.Script
import MmsHttp.Proofs.Executor.Admission

/-!
The course of a call over replies that are given in advance. A call that is not admitted
leaves the world as it is. One that is admitted takes a route, and if it can open with a
request its exchange runs and the last response is concluded.
-/

namespace MmsHttp.Executor

open Channel Fault

/-- An answer as the caller gets to see it: a fault is reported if it is a failure of the
exchange. -/
def reported : Except Fault Result → Except Fault Result
  | .ok result => .ok result
  | .error fault =>
    if fault.cls.isExchangeFailure then .ok (.failed (.networkIo fault)) else .error fault

/-- The answer that a final response gives. -/
def concluded (response : Incoming) : Except Fault Result :=
  if Status.isSuccess response.status then
    (response.body.read response.fields).1.map Result.ofBody
  else .ok (.failed (.httpStatus response.status response.phrase response.fields))

/-- How a final response is left. Only the body of a success is read. -/
def leaving (response : Incoming) : Reading :=
  if Status.isSuccess response.status then (response.body.read response.fields).2 else ⟨0, false⟩

/-- Whether the clients for a URL use TLS and follow redirects. -/
def secures (url : Url) : Bool :=
  url.scheme == "https"

/-- The request that the exchange of a call opens with. -/
def opening (executor : Executor) (call : Call) (url : Url) : Except Fault Outgoing :=
  let request := executor.requestOf call
  Client.timeoutSeconds call.transaction.config.timeoutMillis >>= fun timeout =>
    Outgoing.first request.method url request.headers (request.content.getD []) timeout

def routeOf (executor : Executor) (call : Call) (url : Url) : Route :=
  executor.means.route call.transaction.proxy (secures url)

/-- The world once a call has its route. -/
def begun (executor : Executor) (call : Call) (url : Url) (script : Script) : Script :=
  { script with acquired := script.acquired ++ [executor.routeOf call url] }

def exchanged (executor : Executor) (call : Call) (url : Url) (first : Outgoing)
    (script : Script) : Outcome Script :=
  Script.channel.exchange (secures url) maxRequests call.clock [] first
    (executor.begun call url script)

theorem isSuccess_iff (status : Nat) :
    Status.isSuccess status = true ↔ 200 ≤ status ∧ status ≤ 299 := by
  simp [Status.isSuccess]

theorem concluded_eq_success_iff {response : Incoming} {body : Option Bytes} :
    concluded response = .ok (.success body) ↔
      (200 ≤ response.status ∧ response.status ≤ 299) ∧
        ∃ bytes, (response.body.read response.fields).1 = .ok bytes ∧
          Result.ofBody bytes = .success body := by
  rw [← isSuccess_iff]
  unfold concluded
  cases Status.isSuccess response.status with
  | false => simp
  | true => cases (response.body.read response.fields).1 <;> simp [Except.map]

theorem concluded_eq_failed_iff {response : Incoming} {failure : Failure} :
    concluded response = .ok (.failed failure) ↔
      ¬ (200 ≤ response.status ∧ response.status ≤ 299) ∧
        failure = .httpStatus response.status response.phrase response.fields := by
  rw [← isSuccess_iff]
  unfold concluded
  cases Status.isSuccess response.status with
  | false => simp [eq_comm]
  | true => cases (response.body.read response.fields).1 <;> simp [Except.map, Result.ofBody]

theorem eq_networkIo_of_reported {fault : Fault} {result : Result}
    (h : reported (.error fault) = .ok result) : result = .failed (.networkIo fault) := by
  unfold reported at h
  split at h
  case h_1 hok => cases hok
  case h_2 own hown =>
    obtain rfl := Except.error.inj hown
    split at h
    · exact (Except.ok.inj h).symm
    · cases h

theorem isSecure?_of_supported {scheme : String} (h : scheme ∈ Url.supportedSchemes) :
    Client.isSecure? scheme = some (scheme == "https") := by
  simp only [Url.supportedSchemes, List.mem_cons, List.not_mem_nil, or_false] at h
  rcases h with rfl | rfl <;> decide

theorem unwritable?_eq_none_iff (n : Int) :
    Fault.unwritable? n = none ↔ n.natAbs < Nat.pow 10 maxDigits := by
  unfold Fault.unwritable?
  split
  case isTrue h => exact iff_of_true rfl h
  case isFalse h => exact iff_of_false nofun h

theorem writable_of_le_maxPort {n : Int} (hlow : 0 < n) (hhigh : n ≤ maxPort) :
    Fault.unwritable? n = none := by
  rw [unwritable?_eq_none_iff]
  have hmax : maxPort < Nat.pow 10 maxDigits := by decide +kernel
  omega

theorem port_writable {t : Transaction} (hformed : t.WellFormed) :
    (t.proxy.bind fun proxy => Fault.unwritable? proxy.port) = none := by
  cases hsome : t.proxy with
  | none => rfl
  | some proxy =>
      obtain ⟨hlow, hhigh, _⟩ := hformed.proxy proxy hsome
      rw [Option.bind_some, writable_of_le_maxPort hlow hhigh]

section General

variable {σ : Type} (bound : Fields) (channel : Channel σ)

@[simp] theorem report_answer (run : Run σ) : (report bound run).answer = reported run.answer := by
  unfold report reported
  cases h : run.answer with
  | ok result => exact h
  | error fault =>
      dsimp only
      split
      · rfl
      · exact h

@[simp] theorem report_world (run : Run σ) : (report bound run).world = run.world := by
  unfold report
  split
  · rfl
  · split <;> rfl

@[simp] theorem conclude_answer (response : Incoming) (world : σ) :
    (conclude bound channel response world).answer = concluded response := by
  unfold conclude concluded
  cases Status.isSuccess response.status with
  | false => rfl
  | true =>
      simp only [Bool.not_true, Bool.false_eq_true, if_false, if_true]
      cases (response.body.read response.fields).1 <;> rfl

@[simp] theorem conclude_world (response : Incoming) (world : σ) :
    (conclude bound channel response world).world = channel.release (leaving response) world := by
  unfold conclude leaving
  cases Status.isSuccess response.status with
  | false => rfl
  | true =>
      simp only [Bool.not_true, Bool.false_eq_true, if_false, if_true]
      cases (response.body.read response.fields).1 <;> rfl

theorem mem_report_events {run : Run σ} {event : Event} (h : event ∈ run.events) :
    event ∈ (report bound run).events := by
  unfold report
  split
  · exact h
  · split
    · exact List.mem_append_left _ h
    · exact h

/-- Whoever concludes with a success notes the status of the response and how long its body
is. -/
theorem completedEvent_mem_conclude {response : Incoming} {body : Bytes}
    (hsuccess : Status.isSuccess response.status = true)
    (hbody : (response.body.read response.fields).1 = .ok body) (world : σ) :
    completedEvent bound response.status body.length ∈
      (conclude bound channel response world).events := by
  rcases hread : response.body.read response.fields with ⟨outcome, reading⟩
  rw [hread] at hbody
  obtain rfl : outcome = .ok body := hbody
  simp [conclude, hsuccess, hread]

end General

theorem foreign_timeoutSeconds (millis : Int) : Foreign (Client.timeoutSeconds millis) := by
  unfold Client.timeoutSeconds
  split
  · exact Foreign.error rfl
  · exact Foreign.ok _

theorem foreign_opening (executor : Executor) (call : Call) (url : Url) :
    Foreign (executor.opening call url) :=
  (foreign_timeoutSeconds _).bind fun _ _ => Outgoing.foreign_first

theorem reported_of_foreign {answer : Except Fault Result} (h : Foreign answer) :
    reported answer = answer := by
  cases answer with
  | ok result => rfl
  | error fault => simp [reported, h fault rfl]

section Admitted

variable {executor : Executor} {call : Call} {url : Url} (script : Script)
  (hadmits : executor.Admits call url)

include hadmits in
theorem execute_of_admits :
    (executor.execute Script.channel call script).answer =
        reported (executor.send Script.channel call url (executor.requestOf call) script).answer ∧
      (executor.execute Script.channel call script).world =
        (executor.send Script.channel call url (executor.requestOf call) script).world := by
  obtain ⟨hcheck, hheaders⟩ := admits_iff.mp hadmits
  simp only [execute, port_writable hadmits.usable.toWellFormed, hcheck, carryOut, hheaders,
    report_answer, report_world, and_self]

include hadmits in
private theorem open?_of_admits :
    Client.open? Script.channel executor.means url.scheme call.transaction.proxy
        call.transaction.config.timeoutMillis script =
      ((Client.timeoutSeconds call.transaction.config.timeoutMillis).map (⟨secures url, ·⟩), [],
        executor.begun call url script) := by
  rw [Client.open?, isSecure?_of_supported hadmits.callable.scheme]
  rfl

include hadmits in
theorem execute_of_opening_error {fault : Fault}
    (hopening : executor.opening call url = .error fault) :
    (executor.execute Script.channel call script).answer = .error fault ∧
      (executor.execute Script.channel call script).world = executor.begun call url script := by
  obtain ⟨hanswer, hworld⟩ := execute_of_admits script hadmits
  have hforeign := foreign_opening executor call url fault hopening
  rw [hanswer, hworld, ← reported_of_foreign (Foreign.error hforeign)]
  unfold send
  dsimp only
  rw [open?_of_admits script hadmits]
  -- The client may fail to be made, or else its first request.
  rcases bind_eq_error_iff.mp hopening with htimeout | ⟨timeout, htimeout, hfirst⟩
  · simp [htimeout, Except.map]
  · simp [htimeout, hfirst, Except.map]

include hadmits in
theorem execute_of_opening_ok {first : Outgoing}
    (hopening : executor.opening call url = .ok first) :
    (executor.execute Script.channel call script).answer =
        reported ((executor.exchanged call url first script).1 >>= concluded) ∧
      (executor.execute Script.channel call script).world =
        match executor.exchanged call url first script with
        | (.error _, script) => script
        | (.ok response, script) => Script.channel.release (leaving response) script := by
  obtain ⟨hanswer, hworld⟩ := execute_of_admits script hadmits
  rw [hanswer, hworld]
  unfold send
  dsimp only
  rw [open?_of_admits script hadmits]
  obtain ⟨timeout, htimeout, hfirst⟩ := bind_eq_ok_iff.mp hopening
  simp only [htimeout, hfirst, Except.map, exchanged]
  rcases Script.channel.exchange (secures url) maxRequests call.clock [] first
    (executor.begun call url script) with ⟨fault | response, after⟩
  · exact ⟨rfl, rfl⟩
  · exact ⟨congrArg reported (conclude_answer executor.bound Script.channel response after),
      conclude_world executor.bound Script.channel response after⟩

include hadmits in
theorem mem_execute_events {first : Outgoing} (hopening : executor.opening call url = .ok first)
    {response : Incoming} {world : Script}
    (hexchanged : executor.exchanged call url first script = (.ok response, world))
    {event : Event}
    (hevent : event ∈ (conclude executor.bound Script.channel response world).events) :
    event ∈ (executor.execute Script.channel call script).events := by
  obtain ⟨hcheck, hheaders⟩ := admits_iff.mp hadmits
  simp only [execute, port_writable hadmits.usable.toWellFormed, hcheck, carryOut, hheaders]
  apply List.mem_append_right
  apply mem_report_events
  unfold send
  dsimp only
  rw [open?_of_admits script hadmits]
  obtain ⟨timeout, htimeout, hfirst⟩ := bind_eq_ok_iff.mp hopening
  unfold exchanged at hexchanged
  simp only [htimeout, hfirst, Except.map, hexchanged]
  exact List.mem_append_right _ hevent

end Admitted

/-- Whatever an admitted call comes to, it has taken its route once. -/
theorem acquired_of_admits {executor : Executor} {call : Call} {url : Url}
    (hadmits : executor.Admits call url) (script : Script) :
    (executor.execute Script.channel call script).world.acquired =
      script.acquired ++ [executor.routeOf call url] := by
  let Taken (world : Script) : Prop :=
    world.acquired = script.acquired ++ [executor.routeOf call url]
  cases hopening : executor.opening call url with
  | error fault =>
      rw [(execute_of_opening_error script hadmits hopening).2]
      rfl
  | ok first =>
      have hsend (request : Outgoing) (world : Script) (_ : True) (h : Taken world) :
          Taken (Script.channel.send request world).2 := by
        rw [Script.channel_send]
        exact h
      have hended : Taken (executor.exchanged call url first script).2 :=
        exchange_preserves Script.channel (secures url) (fun _ => True) Taken
          (fun _ _ _ _ _ _ _ _ => trivial) hsend (fun _ _ h => h) _ _ _ _ _ trivial rfl
      rw [(execute_of_opening_ok script hadmits hopening).2]
      rcases hexchanged : executor.exchanged call url first script with ⟨fault | response, world⟩
      · rwa [hexchanged] at hended
      · rwa [hexchanged] at hended

theorem isAnswer_of_concluded {response : Incoming} {result : Result}
    (h : concluded response = .ok result) : result.IsAnswer := by
  cases result with
  | success body => exact Or.inl ⟨body, rfl⟩
  | failed failure =>
      obtain ⟨_, rfl⟩ := concluded_eq_failed_iff.mp h
      exact Or.inr ⟨_, rfl, by simp [Failure.httpStatus]⟩

theorem isAnswer_of_reported {outcome : Except Fault Incoming} {result : Result}
    (h : reported (outcome >>= concluded) = .ok result) : result.IsAnswer := by
  cases hended : outcome >>= concluded with
  | ok ended =>
      rw [hended] at h
      obtain rfl := Except.ok.inj h
      obtain ⟨response, _, hconcluded⟩ := bind_eq_ok_iff.mp hended
      exact isAnswer_of_concluded hconcluded
  | error fault =>
      rw [hended, reported] at h
      split at h
      · obtain rfl := Except.ok.inj h
        exact Or.inr ⟨_, rfl, by simp [Failure.networkIo]⟩
      · cases h

theorem isAnswer_of_admits {executor : Executor} {call : Call} {url : Url} {script : Script}
    {result : Result} (hadmits : executor.Admits call url)
    (hresult : (executor.execute Script.channel call script).answer = .ok result) :
    result.IsAnswer := by
  cases hopening : executor.opening call url with
  | error fault =>
      rw [(execute_of_opening_error script hadmits hopening).1] at hresult
      cases hresult
  | ok first =>
      rw [(execute_of_opening_ok script hadmits hopening).1] at hresult
      exact isAnswer_of_reported hresult

/-- A call that is not admitted leaves the world as it is, and if it gives a result at all
then one that refuses it. -/
theorem execute_of_not_admits {executor : Executor} {call : Call} (script : Script)
    (hrejects : ∀ url, ¬ executor.Admits call url) :
    (executor.execute Script.channel call script).world = script ∧
      ∀ result, (executor.execute Script.channel call script).answer = .ok result →
        result.IsRefusal := by
  unfold execute
  dsimp only
  split
  · refine ⟨rfl, fun result hresult => ?_⟩
    cases (show Except.error _ = Except.ok result from hresult)
  · split
    case h_1 refusal hcheck =>
      cases refusal with
      | fault fault =>
          refine ⟨rfl, fun result hresult => ?_⟩
          cases (show Except.error fault = Except.ok result from hresult)
      | failure failure =>
          refine ⟨rfl, fun result hresult => ?_⟩
          obtain rfl := Except.ok.inj hresult
          exact checkTransaction_isRefusal hcheck
    case h_2 url hcheck =>
      unfold carryOut
      dsimp only
      split
      case h_1 failure hheaders =>
        refine ⟨rfl, fun result hresult => ?_⟩
        obtain rfl := Except.ok.inj hresult
        exact requestFailure?_isRefusal hheaders
      case h_2 hheaders => exact absurd (admits_iff.mpr ⟨hcheck, hheaders⟩) (hrejects url)

end MmsHttp.Executor
