import MmsHttp.Proofs.Executor.Outward

/-!
When a call gives a result whatever the server sends. Every failure of the exchange is
reported, so a fault can only escape where the exchange is stuck: at a response from which
cookies cannot be taken, or at a redirect, followed or not, that names a place for which there
is no request.
-/

namespace MmsHttp.Executor

open Channel Fault

theorem reported_isOk_iff {answer : Except Fault Result} :
    (∃ result, reported answer = .ok result) ↔
      ∀ fault, answer = .error fault → fault.cls.isExchangeFailure = true := by
  cases answer with
  | ok result => simp [reported]
  | error fault => cases hcls : fault.cls.isExchangeFailure <;> simp [reported, hcls]

theorem exchangeFailure_of_concluded {replies : List (Except Fault Incoming)}
    {response : Incoming} {fault : Fault} (hordinary : Script.Ordinary replies)
    (hreply : Script.reply replies = .ok response) (h : concluded response = .error fault) :
    fault.cls.isExchangeFailure = true := by
  unfold concluded at h
  split at h
  · rcases hbody : response.body.read response.fields with ⟨own | body, reading⟩
    · rw [hbody] at h
      obtain rfl : own = fault := Except.error.inj h
      exact hordinary.read_error hreply hbody
    · rw [hbody] at h
      cases h
  · cases h

theorem returns_iff_of_opening {executor : Executor} {call : Call} {url : Url} {script : Script}
    {first : Outgoing} (hadmits : executor.Admits call url)
    (hordinary : Script.Ordinary script.replies)
    (hopening : executor.opening call url = .ok first) :
    (∃ result, (executor.execute Script.channel call script).answer = .ok result) ↔
      ∀ redirects < maxRequests, ∀ leg,
        Script.Reached (secures url) (firstLeg call first script) redirects leg → ¬ leg.Stuck := by
  have hsound := (sound_opening hadmits hopening).1
  have houtcome : (executor.exchanged call url first script).1 =
      Script.outcome (secures url) maxRequests (firstLeg call first script) :=
    Script.exchange_fst _ _ _ _ _ _
  have hforeign := @Script.outcome_foreign_iff (secures url) maxRequests
    (firstLeg call first script) hsound hordinary
  rw [(execute_of_opening_ok script hadmits hopening).1, reported_isOk_iff, houtcome]
  constructor
  · intro hreports redirects hless leg hreached hstuck
    obtain ⟨fault, hended, hcls⟩ := hforeign.mpr ⟨redirects, hless, leg, hreached, hstuck⟩
    have hreported := hreports fault (bind_eq_error_iff.mpr (Or.inl hended))
    rw [hcls] at hreported
    cases hreported
  · -- A fault that is no failure of the exchange comes from a leg that is stuck: concluding an
    -- ordinary response never brings one about.
    intro hnever fault hfault
    rcases bind_eq_error_iff.mp hfault with hended | ⟨response, hended, hconcluded⟩
    · by_contra hcls
      obtain ⟨redirects, hless, leg, hreached, hstuck⟩ :=
        hforeign.mp ⟨fault, hended, by simpa using hcls⟩
      exact hnever redirects hless leg hreached hstuck
    · obtain ⟨replies, hreplies, hreply⟩ := Script.Ordinary.outcome_ok hordinary hended
      exact exchangeFailure_of_concluded hreplies hreply hconcluded

end MmsHttp.Executor
