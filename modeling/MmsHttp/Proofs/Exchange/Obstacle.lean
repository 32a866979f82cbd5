import MmsHttp.Proofs.Exchange.Body
import MmsHttp.Proofs.Exchange.Redirect
import MmsHttp.Proofs.Exchange.Script

/-!
What a server can say that ends an exchange with a fault other than a failure of the
exchange. It is stuck at a response that names a place which is a URL but cannot be
followed, and at any response from which cookies cannot be taken; nowhere else, however
long the chain of redirects is.
-/

namespace MmsHttp.Script

open Channel Fault

/-- Replies whose own faults are all failures of the exchange. -/
def Ordinary (replies : List (Except Fault Incoming)) : Prop :=
  ∀ reply ∈ replies,
    match reply with
    | .error fault => fault.cls.isExchangeFailure = true
    | .ok response =>
      ∀ fault, response.body.failure = some fault → fault.cls.isExchangeFailure = true

theorem Ordinary.tail {replies : List (Except Fault Incoming)} (hordinary : Ordinary replies) :
    Ordinary replies.tail :=
  fun reply hmem => hordinary reply (List.mem_of_mem_tail hmem)

theorem Ordinary.reply_error {replies : List (Except Fault Incoming)} {fault : Fault}
    (hordinary : Ordinary replies) (h : reply replies = .error fault) :
    fault.cls.isExchangeFailure = true := by
  cases replies with
  | nil => cases h
  | cons first rest =>
      obtain rfl : first = .error fault := h
      exact hordinary _ List.mem_cons_self

theorem Ordinary.read_error {replies : List (Except Fault Incoming)} {response : Incoming}
    {headers : List Header} {fault : Fault} {reading : Reading} (hordinary : Ordinary replies)
    (hreply : reply replies = .ok response)
    (h : response.body.read headers = (.error fault, reading)) :
    fault.cls.isExchangeFailure = true := by
  rcases BodyStream.read_error h with hfailure | rfl
  · cases replies with
    | nil =>
        obtain rfl := Except.ok.inj hreply
        cases hfailure
    | cons first rest =>
        obtain rfl : first = .ok response := hreply
        exact hordinary _ List.mem_cons_self fault hfailure
  · rfl

/-- A leg at whose response the exchange ends with a fault that is no failure of it. -/
inductive Leg.Stuck (leg : Leg) : Prop where
  /-- Cookies cannot be taken from the response. -/
  | placeless (response : Incoming) (hreply : reply leg.replies = .ok response) (fault : Fault)
      (htaken : Cookie.change (leg.clock 0) leg.request.url response.fields = .error fault)
  /-- The response names a place that is a URL but cannot be followed. -/
  | stranded (response : Incoming) (hreply : reply leg.replies = .ok response)
      (change : Cookie.Change)
      (htaken : Cookie.change (leg.clock 0) leg.request.url response.fields = .ok change)
      (location : String) (hmoves : response.location? = some location) (named : Url)
      (hparse : Url.parse location = .ok named)
      (hfollow : ¬ Redirect.Followable (leg.clock 1) leg.request location
        (change.apply leg.jar))

theorem step_foreign_iff {follows : Bool} {leg : Leg} (hsound : leg.request.Sound)
    (hordinary : Ordinary leg.replies) :
    (∃ fault, leg.step follows = .inl (.error fault) ∧ fault.cls.isExchangeFailure = false) ↔
      leg.Stuck := by
  constructor
  · rintro ⟨fault, hstep, hforeign⟩
    rcases Leg.step_eq_error_iff.mp hstep with hreply | ⟨response, left, hreply, hturn⟩
    · simp [hordinary.reply_error hreply] at hforeign
    · cases turn_eq_iff.mp hturn with
      | placeless _ htaken => exact .placeless response hreply fault htaken
      | unread _ _ _ _ _ _ _ _ _ hbody => simp [hordinary.read_error hreply hbody] at hforeign
      | stranded change htaken location hmoves _ hnext =>
          cases hparse : Url.parse location with
          | error e =>
              rw [Redirect.next_of_parse_error hparse] at hnext
              obtain rfl := Except.error.inj hnext
              cases hforeign
          | ok named =>
              apply Leg.Stuck.stranded response hreply change htaken location hmoves named hparse
              rw [← Redirect.next_isOk_iff hsound _ response.status]
              rintro ⟨further, hfurther⟩
              cases hnext.symm.trans hfurther
  · intro hstuck
    cases hstuck with
    | placeless response hreply fault htaken =>
        exact ⟨fault, Leg.step_of_placeless hreply htaken,
          Cookie.foreign_change _ _ _ fault htaken⟩
    | stranded response hreply change htaken location hmoves named hparse hfollow =>
        rw [← Redirect.next_isOk_iff hsound _ response.status] at hfollow
        obtain ⟨fault, hnext⟩ := (exists_ok_or_error _).resolve_left hfollow
        have hturn := turn_eq_iff.mpr
          (TakesTurn.stranded change htaken location hmoves fault hnext :
            TakesTurn follows _ _ _ _ _)
        exact ⟨fault, Leg.step_eq_error_iff.mpr (Or.inr ⟨response, _, hreply, hturn⟩),
          Redirect.foreign_next_of_parse_ok hparse fault hnext⟩

theorem Ordinary.step {follows : Bool} {leg next : Leg} (hordinary : Ordinary leg.replies)
    (hstep : leg.step follows = .inr next) : Ordinary next.replies := by
  obtain ⟨response, reading, _, _, hreplies, _⟩ := Leg.step_eq_next_iff.mp hstep
  rw [hreplies]
  exact hordinary.tail

theorem sound_step {follows : Bool} {leg next : Leg} (hsound : leg.request.Sound)
    (hstep : leg.step follows = .inr next) : next.request.Sound := by
  obtain ⟨response, reading, _, hturn, _⟩ := Leg.step_eq_next_iff.mp hstep
  generalize next.jar = jar, next.request = request at hturn
  cases turn_eq_iff.mp hturn with
  | moves _ _ _ _ _ _ hnext => exact Redirect.sound_next hsound hnext

theorem Ordinary.outcome_ok {follows : Bool} {requests : Nat} {first : Leg}
    {response : Incoming} (hordinary : Ordinary first.replies)
    (h : outcome follows requests first = .ok response) :
    ∃ replies, Ordinary replies ∧ reply replies = .ok response := by
  rcases outcome_eq_iff.mp h with ⟨redirects, _, leg, hreached, hstep⟩ | ⟨_, hmany⟩
  · exact ⟨leg.replies, hreached.preserves (fun _ _ => Ordinary.step) hordinary,
      (Leg.step_eq_ok_iff.mp hstep).1⟩
  · cases hmany

/-- An exchange that begins soundly and gets ordinary replies ends with a fault that is no
failure of it exactly when it reaches a leg at which it is stuck. -/
theorem outcome_foreign_iff {follows : Bool} {requests : Nat} {first : Leg}
    (hsound : first.request.Sound) (hordinary : Ordinary first.replies) :
    (∃ fault, outcome follows requests first = .error fault ∧
        fault.cls.isExchangeFailure = false) ↔
      ∃ redirects < requests, ∃ leg, Reached follows first redirects leg ∧ leg.Stuck := by
  -- On every leg the request is sound and the replies are ordinary, so a step decides.
  have hinvariant {redirects : Nat} {leg : Leg} (hreached : Reached follows first redirects leg) :
      leg.request.Sound ∧ Ordinary leg.replies :=
    ⟨hreached.preserves (fun _ _ => sound_step) hsound,
      hreached.preserves (fun _ _ => Ordinary.step) hordinary⟩
  constructor
  · rintro ⟨fault, houtcome, hforeign⟩
    rcases outcome_eq_iff.mp houtcome with ⟨redirects, hless, leg, hreached, hstep⟩ | ⟨_, hmany⟩
    · obtain ⟨hlegSound, hlegOrdinary⟩ := hinvariant hreached
      have hstuck := (step_foreign_iff hlegSound hlegOrdinary).mp ⟨fault, hstep, hforeign⟩
      exact ⟨redirects, hless, leg, hreached, hstuck⟩
    · obtain rfl := Except.error.inj hmany
      cases hforeign
  · rintro ⟨redirects, hless, leg, hreached, hstuck⟩
    obtain ⟨hlegSound, hlegOrdinary⟩ := hinvariant hreached
    obtain ⟨fault, hstep, hforeign⟩ := (step_foreign_iff hlegSound hlegOrdinary).mpr hstuck
    exact ⟨fault, outcome_eq_iff.mpr (Or.inl ⟨redirects, hless, leg, hreached, hstep⟩), hforeign⟩

end MmsHttp.Script
