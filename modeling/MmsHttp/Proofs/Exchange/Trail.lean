import MmsHttp.Proofs.Exchange.Obstacle

/-!
The trail of an exchange: the legs on which it sends its requests, in order. Every leg takes
one reply, and every leg but the last was left by a redirect that was followed. What an
exchange sends, and in answer to what, can be read off its trail.
-/

namespace MmsHttp

theorem Incoming.location?_eq_some {response : Incoming} {location : String}
    (h : response.location? = some location) :
    response.status ∈ [301, 302, 303, 307, 308] ∧
      Headers.has response.fields "location" = true := by
  unfold location? at h
  split at h
  case isTrue hstatus =>
    refine ⟨by simpa [Status.isRedirect, or_assoc] using hstatus, ?_⟩
    by_contra hnone
    have hvalues : Headers.values response.fields "location" = [] := by
      simpa [Headers.values, Headers.has] using hnone
    rw [Headers.value?, hvalues] at h
    cases h
  case isFalse => cases h

namespace Script

open Channel

/-- A leg leads on to a next one by a redirect, and only if redirects are followed. -/
theorem Leg.redirected_of_step {follows : Bool} {leg next : Leg}
    (hstep : leg.step follows = .inr next) :
    follows = true ∧ ∃ response location, reply leg.replies = .ok response ∧
      response.location? = some location ∧
      Redirect.next (leg.clock 1) leg.request response.status location next.jar =
        .ok next.request := by
  obtain ⟨response, reading, hreply, hturn, _⟩ := Leg.step_eq_next_iff.mp hstep
  generalize next.jar = jar, next.request = request at hturn ⊢
  cases turn_eq_iff.mp hturn with
  | moves _ _ hfollows location hmoves _ hnext =>
      exact ⟨hfollows, response, location, hreply, hmoves, hnext⟩

/-- The legs on which an exchange that may send so many requests does send one. -/
def trail (follows : Bool) : (requests : Nat) → Leg → List Leg
  | 0, _ => []
  | requests + 1, leg =>
    leg ::
      match leg.step follows with
      | .inl _ => []
      | .inr next => trail follows requests next

/-- An exchange sends the requests of its trail and takes one reply for each of them. -/
theorem exchange_trail (follows : Bool) (requests : Nat) (clock : Clock) (jar : Jar)
    (request : Outgoing) (script : Script) :
    let legs := trail follows requests ⟨clock, jar, request, script.replies⟩
    let after := (channel.exchange follows requests clock jar request script).2
    after.sent = script.sent ++ legs.map Leg.request ∧
      after.replies = script.replies.drop legs.length := by
  induction requests generalizing clock jar request script with
  | zero => simp [trail, Channel.exchange]
  | succ requests ih =>
      rw [exchange_succ, channel_send, trail, Leg.step]
      dsimp only
      cases reply script.replies with
      | error fault => simp
      | ok response =>
          dsimp only
          cases turn follows clock jar request response with
          | final => simp
          | broken fault left => cases left <;> simp [channel]
          | onward jar next reading =>
              let taken : Script :=
                { script with
                  replies := script.replies.tail
                  sent := script.sent ++ [request]
                  streams := opened script.streams (.ok response) }
              obtain ⟨hsent, hreplies⟩ :=
                ih (clock.after 2) jar next (channel.release reading taken)
              refine ⟨hsent.trans ?_, hreplies.trans ?_⟩
              · simp [channel, taken]
              · simp [channel, taken]

/-- The last of so many redirects is a step from the leg that the others lead to. -/
theorem reached_concat_iff {follows : Bool} {first last : Leg} {redirects : Nat} :
    Reached follows first (redirects + 1) last ↔
      ∃ leg, Reached follows first redirects leg ∧ leg.step follows = .inr last := by
  induction redirects generalizing first with
  | zero => simp only [reached_succ_iff, reached_zero_iff, exists_eq_left', exists_eq_right]
  | succ redirects ih =>
      rw [reached_succ_iff]
      simp only [ih, reached_succ_iff]
      constructor
      · rintro ⟨next, hnext, leg, hleg, hlast⟩
        exact ⟨leg, ⟨next, hnext, hleg⟩, hlast⟩
      · rintro ⟨leg, ⟨next, hnext, hleg⟩, hlast⟩
        exact ⟨next, hnext, leg, hleg, hlast⟩

theorem Reached.replies {follows : Bool} {first last : Leg} {redirects : Nat}
    (hreached : Reached follows first redirects last) :
    last.replies = first.replies.drop redirects := by
  induction redirects generalizing last with
  | zero =>
      obtain rfl := reached_zero_iff.mp hreached
      rfl
  | succ redirects ih =>
      obtain ⟨leg, hleg, hstep⟩ := reached_concat_iff.mp hreached
      obtain ⟨_, _, _, _, htail, _⟩ := Leg.step_eq_next_iff.mp hstep
      rw [htail, ih hleg, List.tail_drop]

/-- Every redirect reads the clock twice. -/
theorem Reached.clock {follows : Bool} {first last : Leg} {redirects : Nat}
    (hreached : Reached follows first redirects last) :
    last.clock = first.clock.after (2 * redirects) := by
  induction redirects generalizing last with
  | zero =>
      obtain rfl := reached_zero_iff.mp hreached
      exact (Clock.after_zero _).symm
  | succ redirects ih =>
      obtain ⟨leg, hleg, hstep⟩ := reached_concat_iff.mp hreached
      obtain ⟨_, _, _, _, _, hclock⟩ := Leg.step_eq_next_iff.mp hstep
      rw [hclock, ih hleg, Clock.after_after, Nat.mul_succ]

/-- A trail holds, each in its place, the legs that redirects lead to. -/
theorem trail_getElem?_eq_some_iff {follows : Bool} {requests place : Nat} {first leg : Leg} :
    (trail follows requests first)[place]? = some leg ↔
      place < requests ∧ Reached follows first place leg := by
  induction requests generalizing first place with
  | zero => simp [trail]
  | succ requests ih =>
      cases place with
      | zero => simp [trail, reached_zero_iff]
      | succ place =>
          rw [trail, List.getElem?_cons_succ, reached_succ_iff, Nat.succ_lt_succ_iff]
          cases first.step follows with
          | inl ended => simp
          | inr next => simpa using ih

theorem Reached.unique {follows : Bool} {first leg other : Leg} {redirects : Nat}
    (hleg : Reached follows first redirects leg) (hother : Reached follows first redirects other) :
    leg = other := by
  have hplace := trail_getElem?_eq_some_iff.mpr ⟨Nat.lt_succ_self redirects, hleg⟩
  have hsame := trail_getElem?_eq_some_iff.mpr ⟨Nat.lt_succ_self redirects, hother⟩
  exact Option.some.inj (hplace.symm.trans hsame)

section Places

variable {follows : Bool} {requests : Nat} {first : Leg}

theorem length_trail_le : (trail follows requests first).length ≤ requests := by
  by_contra hmore
  have hplace := List.getElem?_eq_getElem (Nat.lt_of_not_le hmore)
  exact Nat.lt_irrefl requests (trail_getElem?_eq_some_iff.mp hplace).1

theorem trail_of_ended {last : Leg} {redirects : Nat} {ended : Except Fault Incoming}
    (hless : redirects < requests) (hreached : Reached follows first redirects last)
    (hended : last.step follows = .inl ended) :
    ∃ earlier, trail follows requests first = earlier ++ [last] ∧ earlier.length = redirects := by
  have hlast := trail_getElem?_eq_some_iff.mpr ⟨hless, hreached⟩
  have hlong := (List.getElem?_eq_some_iff.mp hlast).1
  have hnext : (trail follows requests first)[redirects + 1]? = none := by
    by_contra hmore
    obtain ⟨next, hnext⟩ := Option.ne_none_iff_exists'.mp hmore
    obtain ⟨leg, hleg, hstep⟩ := reached_concat_iff.mp (trail_getElem?_eq_some_iff.mp hnext).2
    obtain rfl := hleg.unique hreached
    cases hended.symm.trans hstep
  refine ⟨(trail follows requests first).take redirects, ?_,
    List.length_take_of_le (Nat.le_of_lt hlong)⟩
  have hwhole := List.take_of_length_le (List.getElem?_eq_none_iff.mp hnext)
  rw [List.take_add_one, hlast] at hwhole
  exact hwhole.symm

/-- Every place of a trail but the last one is that of a leg that leads on. -/
theorem lt_length_trail_iff {place : Nat} :
    place + 1 < (trail follows requests first).length ↔
      place + 1 < requests ∧ ∃ leg next, Reached follows first place leg ∧
        leg.step follows = .inr next := by
  constructor
  · intro hplace
    obtain ⟨hless, hnext⟩ := trail_getElem?_eq_some_iff.mp (List.getElem?_eq_getElem hplace)
    obtain ⟨leg, hleg, hstep⟩ := reached_concat_iff.mp hnext
    exact ⟨hless, leg, _, hleg, hstep⟩
  · rintro ⟨hless, leg, next, hleg, hstep⟩
    have hnext := reached_concat_iff.mpr ⟨leg, hleg, hstep⟩
    exact (List.getElem?_eq_some_iff.mp (trail_getElem?_eq_some_iff.mpr ⟨hless, hnext⟩)).1

theorem trail_of_not_follows (hsome : 0 < requests) : trail false requests first = [first] := by
  obtain ⟨requests, rfl⟩ := Nat.exists_eq_add_of_lt hsome
  rw [Nat.zero_add, trail]
  cases hstep : first.step false with
  | inl ended => rfl
  | inr next => cases (Leg.redirected_of_step hstep).1

end Places

end Script

end MmsHttp
