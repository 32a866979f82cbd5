import MmsHttp.Proofs.Executor.Outward

/-!
What becomes of a message that is sent. A redirect with status 307 or 308 passes it on; one
with any other status turns the request into a fetch, and the message stays behind although
the call may still succeed.
-/

namespace MmsHttp

/-- A request that takes a message along. -/
def Outgoing.Carries (request : Outgoing) (payload : Bytes) : Prop :=
  request.method = "POST" ∧ request.body = payload

/-- A request that only asks for what is there. -/
def Outgoing.Fetches (request : Outgoing) : Prop :=
  request.method = "GET" ∧ request.body = []

namespace Redirect

theorem carries_next {present : Instant} {request further : Outgoing} {payload : Bytes}
    {status : Nat} {location : String} {jar : Jar} (hcarries : request.Carries payload)
    (hstatus : status ∈ [307, 308])
    (h : next present request status location jar = .ok further) : further.Carries payload := by
  obtain ⟨hmethod, hbody⟩ := payload_of_next h
  have hkept : method status request.method = request.method := by
    simp only [List.mem_cons, List.not_mem_nil, or_false] at hstatus
    rcases hstatus with rfl | rfl <;> rfl
  rw [hkept] at hmethod hbody
  exact ⟨hmethod.trans hcarries.1, by simpa [hcarries.2] using hbody⟩

theorem fetches_next_of_carries {present : Instant} {request further : Outgoing}
    {payload : Bytes} {status : Nat} {location : String} {jar : Jar}
    (hcarries : request.Carries payload) (hstatus : status ∈ [301, 302, 303])
    (h : next present request status location jar = .ok further) : further.Fetches := by
  obtain ⟨hmethod, hbody⟩ := payload_of_next h
  have hget : method status request.method = "GET" := by
    rw [hcarries.1]
    simp only [List.mem_cons, List.not_mem_nil, or_false] at hstatus
    rcases hstatus with rfl | rfl | rfl <;> rfl
  have hchanged : "GET" ≠ request.method := by simp [hcarries.1]
  rw [hget] at hmethod hbody
  exact ⟨hmethod, by simpa [hchanged] using hbody⟩

theorem fetches_next {present : Instant} {request further : Outgoing} {status : Nat}
    {location : String} {jar : Jar} (hfetches : request.Fetches)
    (h : next present request status location jar = .ok further) : further.Fetches := by
  obtain ⟨hmethod, hbody⟩ := payload_of_next h
  have hget : method status request.method = "GET" := by simp [method, hfetches.1]
  rw [hget] at hmethod hbody
  exact ⟨hmethod, by simpa [hfetches.1, hfetches.2] using hbody⟩

end Redirect

namespace Script

/-- The redirects among so many replies all pass a message on. -/
def PassesOn (replies : List (Except Fault Incoming)) (count : Nat) : Prop :=
  ∀ place < count, ∃ response, reply (replies.drop place) = .ok response ∧
    response.status ∈ [307, 308]

theorem passesOn_succ_iff {replies : List (Except Fault Incoming)} {count : Nat} :
    PassesOn replies (count + 1) ↔ PassesOn replies count ∧ ∃ response,
      reply (replies.drop count) = .ok response ∧ response.status ∈ [307, 308] := by
  simp only [PassesOn, Nat.lt_succ_iff_lt_or_eq, or_imp, forall_and, forall_eq]

/-- A leg of an exchange that began with a message carries it as long as all redirects have
passed it on, and fetches from then on. -/
theorem Reached.carries_or_fetches {follows : Bool} {first leg : Leg} {redirects : Nat}
    {payload : Bytes} (hreached : Reached follows first redirects leg)
    (hfirst : first.request.Carries payload) :
    PassesOn first.replies redirects ∧ leg.request.Carries payload ∨
      ¬ PassesOn first.replies redirects ∧ leg.request.Fetches := by
  induction redirects generalizing leg with
  | zero =>
      obtain rfl := reached_zero_iff.mp hreached
      exact Or.inl ⟨nofun, hfirst⟩
  | succ redirects ih =>
      obtain ⟨before, hbefore, hstep⟩ := reached_concat_iff.mp hreached
      obtain ⟨_, response, location, hreply, hmoves, hnext⟩ := Leg.redirected_of_step hstep
      rw [hbefore.replies] at hreply
      have hstatus := (Incoming.location?_eq_some hmoves).1
      rw [passesOn_succ_iff]
      rcases ih hbefore with ⟨hpassed, hcarries⟩ | ⟨hlost, hfetches⟩
      · by_cases hpasses : response.status ∈ [307, 308]
        · exact Or.inl ⟨⟨hpassed, response, hreply, hpasses⟩,
            Redirect.carries_next hcarries hpasses hnext⟩
        · have hturns : response.status ∈ [301, 302, 303] := by
            simp only [List.mem_cons, List.not_mem_nil, or_false] at hstatus hpasses ⊢
            omega
          refine Or.inr ⟨?_, Redirect.fetches_next_of_carries hcarries hturns hnext⟩
          rintro ⟨_, own, hown, hkeeps⟩
          obtain rfl := Except.ok.inj (hreply.symm.trans hown)
          exact hpasses hkeeps
      · exact Or.inr ⟨fun h => hlost h.1, Redirect.fetches_next hfetches hnext⟩

end Script

namespace Executor

open Channel Fault

theorem GoesOut.carries_first {executor : Executor} {call : Call} {url : Url} {first : Outgoing}
    {payload : Bytes} (hgoes : executor.GoesOut call url first)
    (hmethod : call.transaction.method = "POST")
    (hpayload : call.transaction.payload = some payload) : first.Carries payload := by
  obtain ⟨hsame, hbody⟩ := hgoes.payload
  exact ⟨hsame.trans hmethod, by simp [hbody, hmethod, hpayload]⟩

/-- A message whose sending succeeds was taken along by the request that the successful
response answered exactly when every redirect on the way had status 307 or 308. After any
other redirect that request was a fetch without a body. -/
theorem delivered_iff_passed_on (executor : Executor) (call : Call) (script : Script)
    (payload : Bytes) (body : Option Bytes) (hmethod : call.transaction.method = "POST")
    (hpayload : call.transaction.payload = some payload)
    (hsuccess : (executor.execute Script.channel call script).answer = .ok (.success body)) :
    ∃ redirected last response,
      (executor.execute Script.channel call script).world.sent =
        script.sent ++ redirected ++ [last] ∧
      Script.reply (script.replies.drop redirected.length) = .ok response ∧
      (200 ≤ response.status ∧ response.status ≤ 299) ∧
      (last.method = "POST" ∧ last.body = payload ↔
        Script.PassesOn script.replies redirected.length) ∧
      (¬ Script.PassesOn script.replies redirected.length →
        last.method = "GET" ∧ last.body = []) := by
  obtain ⟨url, first, hgoes⟩ := exists_goesOut_of_isAnswer hsuccess (Or.inl ⟨body, rfl⟩)
  obtain ⟨earlier, last, response, hlegs, hlast, hreply, _, hconcluded⟩ :=
    hgoes.last_reply hsuccess (by simp)
  have hsent := (hgoes.sent script).1
  rw [hlegs, List.map_append, ← List.append_assoc] at hsent
  refine ⟨earlier.map Script.Leg.request, last.request, response, hsent, ?_,
    (concluded_eq_success_iff.mp hconcluded).1, ?_⟩
  · rwa [List.length_map]
  rw [List.length_map]
  rcases hlast.carries_or_fetches (hgoes.carries_first hmethod hpayload) with
    ⟨hpassed, hcarries⟩ | ⟨hlost, hfetches⟩
  · exact ⟨iff_of_true hcarries hpassed, fun hlost => absurd hpassed hlost⟩
  · have hget : last.request.method ≠ "POST" := by simp [hfetches.1]
    exact ⟨iff_of_false (fun h => hget h.1) hlost, fun _ => hfetches⟩

/-- A message that is redirected with status 307 arrives. -/
theorem delivered_after_temporary_redirect :
    let executor : Executor := { locale := "en_US" }
    let call : Call :=
      { transaction := { method := "POST", url := "https://mms.example/m", payload := some [140, 128] } }
    let moved : Incoming := ⟨307, none, [("Location".toUTF8.toList, "/n".toUTF8.toList)], ⟨[], none⟩⟩
    let run := executor.execute Script.channel call { replies := [.ok moved] }
    run.answer = .ok (.success none) ∧
      ∃ redirected last, run.world.sent = redirected ++ [last] ∧ redirected.length = 1 ∧
        last.method = "POST" ∧ last.body = [140, 128] := by
  intro executor call moved run
  have hrun : (run.answer, run.world.sent.length) = (.ok (.success none), 2) := by decide +kernel
  obtain ⟨hsuccess, hlength⟩ := Prod.mk.inj hrun
  obtain ⟨redirected, last, _, hsent, _, _, hdelivered, _⟩ :=
    delivered_iff_passed_on executor call { replies := [.ok moved] } [140, 128] none rfl rfl hsuccess
  have hone : redirected.length = 1 := by
    rw [show run.world.sent = redirected ++ [last] from hsent] at hlength
    simpa using hlength
  refine ⟨hsuccess, redirected, last, hsent, hone, hdelivered.mpr ?_⟩
  rw [hone]
  intro place hplace
  obtain rfl : place = 0 := by omega
  exact ⟨moved, rfl, by simp [moved]⟩

/-- A message that is redirected with status 302 stays behind, and the call succeeds. -/
theorem not_delivered_after_found :
    let executor : Executor := { locale := "en_US" }
    let call : Call :=
      { transaction := { method := "POST", url := "https://mms.example/m", payload := some [140, 128] } }
    let moved : Incoming := ⟨302, none, [("Location".toUTF8.toList, "/n".toUTF8.toList)], ⟨[], none⟩⟩
    let run := executor.execute Script.channel call { replies := [.ok moved] }
    run.answer = .ok (.success none) ∧
      ∃ last, run.world.sent.getLast? = some last ∧
        ¬ (last.method = "POST" ∧ last.body = [140, 128]) := by
  intro executor call moved run
  have hrun : (run.answer, run.world.sent.getLast?.map fun last => (last.method, last.body)) =
      (.ok (.success none), some ("GET", [])) := by decide +kernel
  obtain ⟨hsuccess, hlast⟩ := Prod.mk.inj hrun
  obtain ⟨last, hfound, hparts⟩ := Option.map_eq_some_iff.mp hlast
  refine ⟨hsuccess, last, hfound, fun h => ?_⟩
  rw [h.1] at hparts
  simp at hparts

end Executor

end MmsHttp
