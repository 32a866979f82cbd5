import MmsHttp.Proofs.Exchange.Trail
import MmsHttp.Proofs.Executor.Opening

/-!
Calls that go out. A call sends something exactly when it is admitted and opens with a
request. It then sends the requests of one trail, and a result that reports a response
reports the one that ended the trail.
-/

namespace MmsHttp.Executor

open Channel Fault

/-- A call that goes out with this request to this URL. -/
structure GoesOut (executor : Executor) (call : Call) (url : Url) (first : Outgoing) : Prop where
  admits : executor.Admits call url
  opening : executor.opening call url = .ok first

/-- The leg on which a call goes out. -/
def firstLeg (call : Call) (first : Outgoing) (script : Script) : Script.Leg :=
  ⟨call.clock, [], first, script.replies⟩

/-- The legs of the exchange of a call. -/
def legs (call : Call) (url : Url) (first : Outgoing) (script : Script) : List Script.Leg :=
  Script.trail (secures url) maxRequests (firstLeg call first script)

variable {executor : Executor} {call : Call} {url : Url} {first : Outgoing} {script : Script}

theorem goesOut_or_stays (executor : Executor) (call : Call) :
    (∃ url first, executor.GoesOut call url first) ∨
      ∀ url first, ¬ executor.GoesOut call url first := by
  by_cases hsends : ∃ url first, executor.GoesOut call url first
  · exact Or.inl hsends
  · exact Or.inr (by simpa using hsends)

theorem GoesOut.scheme (hgoes : executor.GoesOut call url first) :
    url.scheme = "http" ∨ url.scheme = "https" := by
  simpa [Url.supportedSchemes] using hgoes.admits.callable.scheme

theorem GoesOut.first_eq (hgoes : executor.GoesOut call url first) :
    ∃ timeout, Outgoing.first (executor.requestOf call).method url
      (executor.requestOf call).headers ((executor.requestOf call).content.getD []) timeout =
        .ok first := by
  obtain ⟨timeout, _, hfirst⟩ := bind_eq_ok_iff.mp hgoes.opening
  exact ⟨timeout, hfirst⟩

theorem GoesOut.payload (hgoes : executor.GoesOut call url first) :
    let t := call.transaction
    first.method = t.method ∧ first.body = if t.method = "POST" then t.payload.getD [] else [] := by
  intro t
  obtain ⟨timeout, hfirst⟩ := hgoes.first_eq
  obtain ⟨hmethod, hbody⟩ := Outgoing.payload_of_first hfirst
  refine ⟨hmethod, hbody.trans ?_⟩
  by_cases hpost : t.method = "POST"
  · simp [requestOf, Request.assemble, t, hpost]
  · simp [requestOf, Request.assemble, t, hpost]

theorem exists_legs_eq_cons (call : Call) (url : Url) (first : Outgoing) (script : Script) :
    ∃ rest, legs call url first script = firstLeg call first script :: rest :=
  ⟨_, rfl⟩

theorem length_legs_pos : 0 < (legs call url first script).length := by
  obtain ⟨rest, hlegs⟩ := exists_legs_eq_cons call url first script
  rw [hlegs, List.length_cons]
  exact Nat.succ_pos _

theorem GoesOut.sent (hgoes : executor.GoesOut call url first) (script : Script) :
    let after := (executor.execute Script.channel call script).world
    after.sent = script.sent ++ (legs call url first script).map Script.Leg.request ∧
      after.replies = script.replies.drop (legs call url first script).length := by
  intro after
  have hworld := (execute_of_opening_ok script hgoes.admits hgoes.opening).2
  obtain ⟨hsent, hreplies⟩ := Script.exchange_trail (secures url) maxRequests call.clock [] first
    (executor.begun call url script)
  change after = _ at hworld
  rw [hworld]
  -- Letting go of the last response changes neither what was sent nor what is still to come.
  change (executor.exchanged call url first script).2.sent = _ at hsent
  change (executor.exchanged call url first script).2.replies = _ at hreplies
  rcases hexchanged : executor.exchanged call url first script with ⟨fault | response, world⟩
  · rw [hexchanged] at hsent hreplies
    exact ⟨hsent, hreplies⟩
  · rw [hexchanged] at hsent hreplies
    exact ⟨hsent, hreplies⟩

theorem GoesOut.sent_first (hgoes : executor.GoesOut call url first) (script : Script) :
    ∃ rest, (executor.execute Script.channel call script).world.sent =
      script.sent ++ first :: rest := by
  obtain ⟨rest, hlegs⟩ := exists_legs_eq_cons call url first script
  refine ⟨rest.map Script.Leg.request, ?_⟩
  rw [(hgoes.sent script).1, hlegs]
  rfl

/-- A call that does not go out does no more to the world than take a route. -/
theorem world_of_not_goesOut (hstays : ∀ url first, ¬ executor.GoesOut call url first)
    (script : Script) :
    let after := (executor.execute Script.channel call script).world
    after = { script with acquired := after.acquired } := by
  by_cases hadmits : ∃ url, executor.Admits call url
  · obtain ⟨url, hadmits⟩ := hadmits
    cases hopening : executor.opening call url with
    | error fault =>
        rw [(execute_of_opening_error script hadmits hopening).2]
        rfl
    | ok first => exact absurd ⟨hadmits, hopening⟩ (hstays url first)
  · rw [(execute_of_not_admits script (not_exists.mp hadmits)).1]

theorem sent_of_not_goesOut (hstays : ∀ url first, ¬ executor.GoesOut call url first)
    (script : Script) :
    (executor.execute Script.channel call script).world.sent = script.sent := by
  rw [world_of_not_goesOut hstays script]

theorem exists_goesOut_of_sent
    (hsends : (executor.execute Script.channel call script).world.sent ≠ script.sent) :
    ∃ url first, executor.GoesOut call url first := by
  rcases executor.goesOut_or_stays call with hgoes | hstays
  · exact hgoes
  · exact absurd (sent_of_not_goesOut hstays script) hsends

theorem exists_goesOut_of_isAnswer {result : Result}
    (hresult : (executor.execute Script.channel call script).answer = .ok result)
    (hanswer : result.IsAnswer) : ∃ url first, executor.GoesOut call url first := by
  by_cases hadmits : ∃ url, executor.Admits call url
  · obtain ⟨url, hadmits⟩ := hadmits
    cases hopening : executor.opening call url with
    | error fault =>
        rw [(execute_of_opening_error script hadmits hopening).1] at hresult
        cases hresult
    | ok first => exact ⟨url, first, hadmits, hopening⟩
  · have hrefusal := (execute_of_not_admits script (not_exists.mp hadmits)).2 result hresult
    exact absurd hrefusal ((Result.isAnswer_iff_not_isRefusal result).mp hanswer)

/-- A result that is no network failure is what a response comes to. -/
theorem concluded_of_reported {outcome : Except Fault Incoming} {result : Result}
    (h : reported (outcome >>= concluded) = .ok result)
    (hsettled : ∀ fault, result ≠ .failed (.networkIo fault)) :
    ∃ response, outcome = .ok response ∧ concluded response = .ok result := by
  cases hended : outcome >>= concluded with
  | error fault =>
      rw [hended] at h
      exact absurd (eq_networkIo_of_reported h) (hsettled fault)
  | ok ended =>
      rw [hended] at h
      obtain rfl := Except.ok.inj h
      exact bind_eq_ok_iff.mp hended

/-- A response that an exchange comes to was taken for final on its last leg. -/
theorem final_leg {response : Incoming}
    (hended : (executor.exchanged call url first script).1 = .ok response) :
    ∃ earlier last, legs call url first script = earlier ++ [last] ∧
      Script.Reached (secures url) (firstLeg call first script) earlier.length last ∧
      last.step (secures url) = .inl (.ok response) := by
  have houtcome : Script.outcome (secures url) maxRequests (firstLeg call first script) =
      .ok response :=
    (Script.exchange_fst _ _ _ _ _ (executor.begun call url script)).symm.trans hended
  rcases Script.outcome_eq_iff.mp houtcome with ⟨redirects, hless, last, hlast, hstep⟩ | ⟨_, hmany⟩
  · obtain ⟨earlier, hlegs, rfl⟩ := Script.trail_of_ended hless hlast hstep
    exact ⟨earlier, last, hlegs, hlast, hstep⟩
  · cases hmany

/-- The response that a result reports was the reply to the last request, and the exchange
took it for final. -/
theorem GoesOut.last_reply (hgoes : executor.GoesOut call url first) {result : Result}
    (hresult : (executor.execute Script.channel call script).answer = .ok result)
    (hsettled : ∀ fault, result ≠ .failed (.networkIo fault)) :
    ∃ earlier last response, legs call url first script = earlier ++ [last] ∧
      Script.Reached (secures url) (firstLeg call first script) earlier.length last ∧
      Script.reply (script.replies.drop earlier.length) = .ok response ∧
      (executor.exchanged call url first script).1 = .ok response ∧
      concluded response = .ok result := by
  rw [(execute_of_opening_ok script hgoes.admits hgoes.opening).1] at hresult
  obtain ⟨response, hended, hconcluded⟩ := concluded_of_reported hresult hsettled
  obtain ⟨earlier, last, hlegs, hlast, hstep⟩ := final_leg hended
  have hreply := (Script.Leg.step_eq_ok_iff.mp hstep).1
  rw [hlast.replies] at hreply
  exact ⟨earlier, last, response, hlegs, hlast, hreply, hended, hconcluded⟩

end MmsHttp.Executor
