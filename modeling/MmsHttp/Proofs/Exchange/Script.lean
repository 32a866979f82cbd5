import MmsHttp.Exchange.Script
import MmsHttp.Proofs.Exchange.Turn

/-!
Exchanges over replies that are given in advance. Where such an exchange stands is what it
will send next, the cookies so far, the replies still to come and what the clock will show; this
decides how it goes on, so an exchange runs from one leg to the next and ends as the last of them
does.
-/

namespace MmsHttp.Script

open Channel

def reply (replies : List (Except Fault Incoming)) : Except Fault Incoming :=
  replies.headD (.ok defaultReply)

def opened (streams : List StreamUse) : Except Fault Incoming → List StreamUse
  | .error _ => streams
  | .ok _ => streams ++ [{}]

theorem channel_send (request : Outgoing) (script : Script) :
    channel.send request script =
      (reply script.replies,
        { script with
          replies := script.replies.tail
          sent := script.sent ++ [request]
          streams := opened script.streams (reply script.replies) }) := by
  obtain ⟨replies, acquired, sent, streams⟩ := script
  rcases replies with _ | ⟨_ | _, rest⟩ <;> rfl

theorem noteReading_concat (reading : Reading) (streams : List StreamUse) (last : StreamUse) :
    noteReading reading (streams ++ [last]) =
      streams ++ [{ taken := last.taken + reading.taken, closed := last.closed + 1 }] := by
  induction streams with
  | nil => rfl
  | cons first rest ih =>
      cases hrest : rest ++ [last] with
      | nil => simp at hrest
      | cons next more =>
          rw [List.cons_append, hrest, noteReading, ← hrest, ih, List.cons_append]
          simp

/-- Where an exchange stands before it sends a request. -/
structure Leg where
  clock : Clock
  jar : Jar
  request : Outgoing
  replies : List (Except Fault Incoming)

/-- What comes of a leg: the end of the exchange, or the next leg. -/
def Leg.step (follows : Bool) (leg : Leg) : Except Fault Incoming ⊕ Leg :=
  match reply leg.replies with
  | .error fault => .inl (.error fault)
  | .ok response =>
    match turn follows leg.clock leg.jar leg.request response with
    | .final => .inl (.ok response)
    | .broken fault _ => .inl (.error fault)
    | .onward jar next _ => .inr ⟨leg.clock.after 2, jar, next, leg.replies.tail⟩

theorem Leg.step_eq_next_iff {follows : Bool} {leg next : Leg} :
    leg.step follows = .inr next ↔
      ∃ response reading, reply leg.replies = .ok response ∧
        turn follows leg.clock leg.jar leg.request response =
          .onward next.jar next.request reading ∧
        next.replies = leg.replies.tail ∧ next.clock = leg.clock.after 2 := by
  constructor
  · intro h
    unfold step at h
    split at h
    · cases h
    case h_2 response hreply =>
      split at h
      · cases h
      · cases h
      case h_3 reading hturn =>
        obtain rfl := Sum.inr.inj h
        exact ⟨response, reading, hreply, hturn, rfl, rfl⟩
  · rintro ⟨response, reading, hreply, hturn, hreplies, hclock⟩
    simp only [step, hreply, hturn, ← hreplies, ← hclock]

theorem Leg.step_eq_ok_iff {follows : Bool} {leg : Leg} {response : Incoming} :
    leg.step follows = .inl (.ok response) ↔
      reply leg.replies = .ok response ∧
        turn follows leg.clock leg.jar leg.request response = .final := by
  constructor
  · intro h
    unfold step at h
    split at h
    · cases h
    case h_2 own hreply =>
      split at h
      case h_1 hturn =>
        obtain rfl := Except.ok.inj (Sum.inl.inj h)
        exact ⟨hreply, hturn⟩
      · cases h
      · cases h
  · rintro ⟨hreply, hturn⟩
    simp only [step, hreply, hturn]

theorem Leg.step_eq_error_iff {follows : Bool} {leg : Leg} {fault : Fault} :
    leg.step follows = .inl (.error fault) ↔
      reply leg.replies = .error fault ∨
        ∃ response left, reply leg.replies = .ok response ∧
          turn follows leg.clock leg.jar leg.request response = .broken fault left := by
  constructor
  · intro h
    unfold step at h
    split at h
    case h_1 own hreply =>
      obtain rfl := Except.error.inj (Sum.inl.inj h)
      exact Or.inl hreply
    case h_2 response hreply =>
      split at h
      · cases h
      case h_2 own left hturn =>
        obtain rfl := Except.error.inj (Sum.inl.inj h)
        exact Or.inr ⟨response, left, hreply, hturn⟩
      · cases h
  · rintro (hreply | ⟨response, left, hreply, hturn⟩)
    · simp only [step, hreply]
    · simp only [step, hreply, hturn]

theorem Leg.step_of_placeless {follows : Bool} {leg : Leg} {response : Incoming} {fault : Fault}
    (hreply : reply leg.replies = .ok response)
    (htaken : Cookie.change (leg.clock 0) leg.request.url response.fields = .error fault) :
    leg.step follows = .inl (.error fault) :=
  step_eq_error_iff.mpr
    (Or.inr ⟨response, none, hreply, turn_eq_iff.mpr (.placeless fault htaken)⟩)

theorem Leg.step_of_settled {follows : Bool} {leg : Leg} {response : Incoming}
    {change : Cookie.Change} (hreply : reply leg.replies = .ok response)
    (htaken : Cookie.change (leg.clock 0) leg.request.url response.fields = .ok change)
    (hstays : response.location? = none) : leg.step follows = .inl (.ok response) :=
  step_eq_ok_iff.mpr ⟨hreply, turn_eq_iff.mpr (.settled change htaken hstays)⟩

/-- What an exchange that may send so many requests comes to. -/
def outcome (follows : Bool) : Nat → Leg → Except Fault Incoming
  | 0, _ => .error tooManyRedirects
  | requests + 1, leg =>
    match leg.step follows with
    | .inl result => result
    | .inr next => outcome follows requests next

/-- An exchange comes to what its legs come to, whatever was sent before it. -/
theorem exchange_fst (follows : Bool) (requests : Nat) (clock : Clock) (jar : Jar)
    (request : Outgoing) (script : Script) :
    (channel.exchange follows requests clock jar request script).1 =
      outcome follows requests ⟨clock, jar, request, script.replies⟩ := by
  induction requests generalizing clock jar request script with
  | zero => rfl
  | succ requests ih =>
      -- What is sent and how streams are left differs from leg to leg, but no turn depends on it.
      rw [exchange_succ, channel_send, outcome, Leg.step]
      dsimp only
      cases reply script.replies with
      | error fault => rfl
      | ok response =>
          dsimp only
          cases turn follows clock jar request response with
          | final => rfl
          | broken fault left => rfl
          | onward jar next reading => exact ih (clock.after 2) jar next _

/-- One leg leads to another over so many redirects. -/
inductive Reached (follows : Bool) : Leg → Nat → Leg → Prop where
  | here (leg : Leg) : Reached follows leg 0 leg
  | onward {leg next last : Leg} {redirects : Nat} (hstep : leg.step follows = .inr next)
      (hrest : Reached follows next redirects last) : Reached follows leg (redirects + 1) last

theorem reached_zero_iff {follows : Bool} {first last : Leg} :
    Reached follows first 0 last ↔ first = last := by
  constructor
  · intro h
    cases h with
    | here => rfl
  · rintro rfl
    exact .here first

theorem reached_succ_iff {follows : Bool} {first last : Leg} {redirects : Nat} :
    Reached follows first (redirects + 1) last ↔
      ∃ next, first.step follows = .inr next ∧ Reached follows next redirects last := by
  constructor
  · intro h
    cases h with
    | onward hstep hrest => exact ⟨_, hstep, hrest⟩
  · rintro ⟨next, hstep, hrest⟩
    exact .onward hstep hrest

theorem Reached.preserves {follows : Bool} {holds : Leg → Prop}
    (hstep : ∀ leg next, holds leg → leg.step follows = .inr next → holds next)
    {first last : Leg} {redirects : Nat} (hreached : Reached follows first redirects last)
    (hfirst : holds first) : holds last := by
  induction hreached with
  | here leg => exact hfirst
  | onward hnext _ ih => exact ih (hstep _ _ hfirst hnext)

theorem outcome_eq_iff {follows : Bool} {requests : Nat} {first : Leg}
    {result : Except Fault Incoming} :
    outcome follows requests first = result ↔
      (∃ redirects < requests, ∃ last, Reached follows first redirects last ∧
        last.step follows = .inl result) ∨
      ((∃ last, Reached follows first requests last) ∧ result = .error tooManyRedirects) := by
  induction requests generalizing first with
  | zero =>
      constructor
      · rintro rfl
        exact Or.inr ⟨⟨first, .here first⟩, rfl⟩
      · rintro (⟨_, hless, _⟩ | ⟨_, rfl⟩)
        · exact absurd hless (Nat.not_lt_zero _)
        · rfl
  | succ requests ih =>
      rw [outcome]
      cases hstep : first.step follows with
      | inl ended =>
          -- No leg follows, so every leg that is reached is the first one.
          dsimp only
          constructor
          · rintro rfl
            exact Or.inl ⟨0, Nat.succ_pos requests, first, .here first, hstep⟩
          · rintro (⟨redirects, _, last, hreached, hlast⟩ | ⟨⟨last, hreached⟩, _⟩)
            · cases redirects with
              | zero =>
                  obtain rfl := reached_zero_iff.mp hreached
                  exact Sum.inl.inj (hstep.symm.trans hlast)
              | succ redirects =>
                  obtain ⟨next, hnext, _⟩ := reached_succ_iff.mp hreached
                  cases hstep.symm.trans hnext
            · obtain ⟨next, hnext, _⟩ := reached_succ_iff.mp hreached
              cases hstep.symm.trans hnext
      | inr next =>
          dsimp only
          rw [ih]
          constructor
          · rintro (⟨redirects, hless, last, hreached, hlast⟩ | ⟨⟨last, hreached⟩, hresult⟩)
            · exact Or.inl ⟨redirects + 1, Nat.succ_lt_succ hless, last, .onward hstep hreached,
                hlast⟩
            · exact Or.inr ⟨⟨last, .onward hstep hreached⟩, hresult⟩
          · rintro (⟨redirects, hless, last, hreached, hlast⟩ | ⟨⟨last, hreached⟩, hresult⟩)
            · cases redirects with
              | zero =>
                  obtain rfl := reached_zero_iff.mp hreached
                  cases hstep.symm.trans hlast
              | succ redirects =>
                  obtain ⟨after, hnext, hrest⟩ := reached_succ_iff.mp hreached
                  obtain rfl := Sum.inr.inj (hstep.symm.trans hnext)
                  exact Or.inl ⟨redirects, Nat.lt_of_succ_lt_succ hless, last, hrest, hlast⟩
            · obtain ⟨after, hnext, hrest⟩ := reached_succ_iff.mp hreached
              obtain rfl := Sum.inr.inj (hstep.symm.trans hnext)
              exact Or.inr ⟨⟨last, hrest⟩, hresult⟩

end MmsHttp.Script
