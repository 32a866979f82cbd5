import MmsHttp.Proofs.Executor.Outward

/-!
One attempt for every call. A call sends its first request once and goes on only where a
redirect sends it, over a bounded number of requests; nothing is ever sent again after a
failure, and what a call reports of a response is what the last one said.
-/

namespace MmsHttp.Executor

open Channel Fault

/-- What a call may do once it sends something: `requests` are what it sends, one after the
other, and the reply to each of them is the one in the same place. -/
structure OneAttempt (executor : Executor) (url : Url) (before : Script)
    (requests : List Outgoing) (run : Run Script) : Prop where
  sent : run.world.sent = before.sent ++ requests
  replied : run.world.replies = before.replies.drop requests.length
  bounded : url.scheme = "http" ∧ requests.length = 1 ∨
    url.scheme = "https" ∧ 1 ≤ requests.length ∧ requests.length ≤ 21
  redirected : ∀ place, place + 1 < requests.length → ∃ response,
    Script.reply (before.replies.drop place) = .ok response ∧
    response.status ∈ [301, 302, 303, 307, 308] ∧
    Headers.has response.fields "location" = true
  stopped : ∀ place < requests.length, ∀ fault,
    Script.reply (before.replies.drop place) = .error fault → place + 1 = requests.length
  success : ∀ body, run.answer = .ok (.success body) → ∃ response,
    Script.reply (before.replies.drop (requests.length - 1)) = .ok response ∧
    (200 ≤ response.status ∧ response.status ≤ 299) ∧
    (response.body.read response.fields).1 = .ok (body.getD []) ∧
    completedEvent executor.bound response.status (body.getD []).length ∈ run.events
  failure : ∀ failure, run.answer = .ok (.failed failure) → failure.kind = .httpStatus →
    ∃ response, Script.reply (before.replies.drop (requests.length - 1)) = .ok response ∧
      failure = .httpStatus response.status response.phrase response.fields

section Outward

variable {executor : Executor} {call : Call} {url : Url} {first : Outgoing} {script : Script}

theorem GoesOut.length_legs (hgoes : executor.GoesOut call url first) (script : Script) :
    url.scheme = "http" ∧ (legs call url first script).length = 1 ∨
      url.scheme = "https" ∧ 1 ≤ (legs call url first script).length ∧
        (legs call url first script).length ≤ maxRequests := by
  rcases hgoes.scheme with hplain | hsecure
  · have hfollows : secures url = false := by simp [secures, hplain]
    left
    rw [legs, hfollows, Script.trail_of_not_follows (by decide)]
    exact ⟨hplain, rfl⟩
  · right
    exact ⟨hsecure, length_legs_pos, Script.length_trail_le⟩

/-- A request that is not the last one was answered by a redirect. -/
theorem redirected_of_lt_length {place : Nat}
    (hplace : place + 1 < (legs call url first script).length) :
    ∃ response, Script.reply (script.replies.drop place) = .ok response ∧
      response.status ∈ [301, 302, 303, 307, 308] ∧
      Headers.has response.fields "location" = true := by
  obtain ⟨_, leg, next, hleg, hstep⟩ := Script.lt_length_trail_iff.mp hplace
  obtain ⟨_, response, location, hreply, hmoves, _⟩ := Script.Leg.redirected_of_step hstep
  rw [hleg.replies] at hreply
  exact ⟨response, hreply, Incoming.location?_eq_some hmoves⟩

end Outward

/-- A call that sends a request makes one attempt. Over plain HTTP it sends one request; over
HTTPS it sends up to 21, each after the first in answer to a redirect. A request that fails
is its last, and a success or a status that it reports is that of the last response. -/
theorem oneAttempt_of_sent (executor : Executor) (call : Call) (script : Script)
    (hsends : (executor.execute Script.channel call script).world.sent ≠ script.sent) :
    ∃ url requests, Url.parse call.transaction.url = .ok url ∧
      OneAttempt executor url script requests (executor.execute Script.channel call script) := by
  obtain ⟨url, first, hgoes⟩ := exists_goesOut_of_sent hsends
  obtain ⟨hsent, hreplies⟩ := hgoes.sent script
  refine ⟨url, (legs call url first script).map Script.Leg.request, hgoes.admits.callable.parse, ?_⟩
  constructor
  case sent => exact hsent
  case replied => rwa [List.length_map]
  case bounded =>
    rw [List.length_map]
    exact hgoes.length_legs script
  case redirected =>
    intro place hplace
    rw [List.length_map] at hplace
    exact redirected_of_lt_length hplace
  case stopped =>
    intro place hplace fault hfault
    rw [List.length_map] at hplace ⊢
    -- If another request followed, the reply would have been a redirect and no fault.
    by_contra hlast
    have hmore : place + 1 < (legs call url first script).length := by omega
    obtain ⟨response, hreply, _⟩ := redirected_of_lt_length hmore
    cases hfault.symm.trans hreply
  case success =>
    intro body hbody
    obtain ⟨earlier, last, response, hlegs, _, hreply, hended, hconcluded⟩ :=
      hgoes.last_reply hbody (by simp)
    obtain ⟨hstatus, bytes, hread, hbytes⟩ := concluded_eq_success_iff.mp hconcluded
    have hwhole : body.getD [] = bytes := by
      obtain rfl := Result.success.inj hbytes
      cases bytes <;> rfl
    refine ⟨response, ?_, hstatus, ?_, ?_⟩
    · simpa [hlegs] using hreply
    · rw [hread, hwhole]
    · rw [hwhole]
      apply mem_execute_events script hgoes.admits hgoes.opening (Prod.ext hended rfl)
      exact completedEvent_mem_conclude _ _ ((isSuccess_iff _).mpr hstatus) hread _
  case failure =>
    intro failure hfailure hkind
    obtain ⟨earlier, last, response, hlegs, _, hreply, _, hconcluded⟩ :=
      hgoes.last_reply hfailure (by rintro fault ⟨⟩; cases hkind)
    refine ⟨response, ?_, (concluded_eq_failed_iff.mp hconcluded).2⟩
    simpa [hlegs] using hreply

/-- A redirect over HTTPS makes a second request, and the status that comes back then is the
one that is reported. -/
theorem oneAttempt_of_moved :
    let executor : Executor := { locale := "en_US" }
    let call : Call := { transaction := { method := "GET", url := "https://mms.example/m" } }
    let moved : Incoming := ⟨302, none, [("Location".toUTF8.toList, "/n".toUTF8.toList)], ⟨[], none⟩⟩
    let missing : Incoming := ⟨404, none, [], ⟨[], none⟩⟩
    let script : Script := { replies := [.ok moved, .ok missing] }
    let run := executor.execute Script.channel call script
    run.world.sent ≠ [] ∧ run.answer = .ok (.failed (.httpStatus 404 "Not Found" [])) ∧
      ∃ url requests, Url.parse call.transaction.url = .ok url ∧
        OneAttempt executor url script requests run := by
  intro executor call moved missing script run
  have hrun : (run.answer, run.world.sent.length) =
      (.ok (.failed (.httpStatus 404 "Not Found" [])), 2) := by decide +kernel
  obtain ⟨hanswer, hlength⟩ := Prod.mk.inj hrun
  have hsends : run.world.sent ≠ script.sent := by
    intro hnone
    rw [hnone] at hlength
    cases hlength
  exact ⟨hsends, hanswer, oneAttempt_of_sent executor call script hsends⟩

end MmsHttp.Executor
