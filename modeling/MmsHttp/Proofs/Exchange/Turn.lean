import MmsHttp.Exchange.Channel

/-!
Exchanges turn by turn. What a response leads to depends on the request, the cookies so far and
the clock, but not on the channel, so a turn is a function of its own and an exchange is the
repetition of sending a request and taking its turn.
-/

namespace MmsHttp

namespace Channel

variable {σ : Type}

/-- What a response leads to: it is the last one, or it ends the exchange with a fault,
its stream left in some way if it is released at all, or there is a next request. -/
inductive Turn where
  | final
  | broken (fault : Fault) (left : Option Reading)
  | onward (jar : Jar) (next : Outgoing) (reading : Reading)

def turn (follows : Bool) (clock : Clock) (jar : Jar) (request : Outgoing)
    (response : Incoming) : Turn :=
  match Cookie.change (clock 0) request.url response.fields with
  | .error fault => .broken fault none
  | .ok change =>
    match response.location? with
    | none => .final
    | some location =>
      match Redirect.next (clock 1) request response.status location (change.apply jar) with
      | .error fault => .broken fault (some ⟨0, false⟩)
      | .ok next =>
        if follows then
          match response.body.read response.fields with
          | (.error fault, reading) => .broken fault (some reading)
          | (.ok _, reading) => .onward (change.apply jar) next reading
        else .final

theorem exchange_succ (channel : Channel σ) (follows : Bool) (requests : Nat) (clock : Clock)
    (jar : Jar) (request : Outgoing) (world : σ) :
    channel.exchange follows (requests + 1) clock jar request world =
      match channel.send request world with
      | (.error fault, world) => (.error fault, world)
      | (.ok response, world) =>
        match turn follows clock jar request response with
        | .final => (.ok response, world)
        | .broken fault left => (.error fault, left.elim world (channel.release · world))
        | .onward jar next reading =>
          channel.exchange follows requests (clock.after 2) jar next
            (channel.release reading world) := by
  rw [exchange]
  rcases channel.send request world with ⟨_ | response, after⟩
  · rfl
  · dsimp only
    unfold turn
    cases Cookie.change (clock 0) request.url response.fields with
    | error fault => rfl
    | ok change =>
        cases response.location? with
        | none => rfl
        | some location =>
            dsimp only
            cases Redirect.next (clock 1) request response.status location (change.apply jar) with
            | error fault => rfl
            | ok next =>
                cases follows with
                | false => rfl
                | true => rcases response.body.read response.fields with ⟨_ | _, reading⟩ <;> rfl

/-- The ways in which a turn can come about. -/
inductive TakesTurn (follows : Bool) (clock : Clock) (jar : Jar) (request : Outgoing)
    (response : Incoming) : Turn → Prop where
  /-- Cookies cannot be taken from the response. -/
  | placeless (fault : Fault)
      (htaken : Cookie.change (clock 0) request.url response.fields = .error fault) :
      TakesTurn follows clock jar request response (.broken fault none)
  /-- The response sends the caller nowhere. -/
  | settled (change : Cookie.Change)
      (htaken : Cookie.change (clock 0) request.url response.fields = .ok change)
      (hstays : response.location? = none) :
      TakesTurn follows clock jar request response .final
  /-- There is no request for the place that the response names. -/
  | stranded (change : Cookie.Change)
      (htaken : Cookie.change (clock 0) request.url response.fields = .ok change)
      (location : String) (hmoves : response.location? = some location) (fault : Fault)
      (hnext : Redirect.next (clock 1) request response.status location (change.apply jar) =
        .error fault) :
      TakesTurn follows clock jar request response (.broken fault (some ⟨0, false⟩))
  /-- There is a request for it, but redirects are not followed. -/
  | stays (change : Cookie.Change)
      (htaken : Cookie.change (clock 0) request.url response.fields = .ok change)
      (hfollows : follows = false) (location : String)
      (hmoves : response.location? = some location) (next : Outgoing)
      (hnext : Redirect.next (clock 1) request response.status location (change.apply jar) =
        .ok next) :
      TakesTurn follows clock jar request response .final
  /-- The body of a redirect, which has to be read first, ends with a fault. -/
  | unread (change : Cookie.Change)
      (htaken : Cookie.change (clock 0) request.url response.fields = .ok change)
      (hfollows : follows = true) (location : String)
      (hmoves : response.location? = some location) (next : Outgoing)
      (hnext : Redirect.next (clock 1) request response.status location (change.apply jar) =
        .ok next)
      (fault : Fault) (reading : Reading)
      (hbody : response.body.read response.fields = (.error fault, reading)) :
      TakesTurn follows clock jar request response (.broken fault (some reading))
  /-- The redirect is followed. -/
  | moves (change : Cookie.Change)
      (htaken : Cookie.change (clock 0) request.url response.fields = .ok change)
      (hfollows : follows = true) (location : String)
      (hmoves : response.location? = some location) (next : Outgoing)
      (hnext : Redirect.next (clock 1) request response.status location (change.apply jar) =
        .ok next)
      (body : Bytes) (reading : Reading)
      (hbody : response.body.read response.fields = (.ok body, reading)) :
      TakesTurn follows clock jar request response (.onward (change.apply jar) next reading)

theorem takesTurn_turn (follows : Bool) (clock : Clock) (jar : Jar) (request : Outgoing)
    (response : Incoming) :
    TakesTurn follows clock jar request response (turn follows clock jar request response) := by
  unfold turn
  cases htaken : Cookie.change (clock 0) request.url response.fields with
  | error fault => exact .placeless fault htaken
  | ok change =>
      dsimp only
      cases hmoves : response.location? with
      | none => exact .settled change htaken hmoves
      | some location =>
          dsimp only
          cases hnext : Redirect.next (clock 1) request response.status location
              (change.apply jar) with
          | error fault => exact .stranded change htaken location hmoves fault hnext
          | ok next =>
              cases hfollows : follows with
              | false => exact .stays change htaken rfl location hmoves next hnext
              | true =>
                  dsimp only [if_true]
                  rcases hbody : response.body.read response.fields with ⟨fault | body, reading⟩
                  · exact .unread change htaken rfl location hmoves next hnext fault reading hbody
                  · exact .moves change htaken rfl location hmoves next hnext body reading hbody

/-- A turn is taken exactly when it comes about in one of these ways. -/
theorem turn_eq_iff {follows : Bool} {clock : Clock} {jar : Jar} {request : Outgoing}
    {response : Incoming} {t : Turn} :
    turn follows clock jar request response = t ↔
      TakesTurn follows clock jar request response t := by
  constructor
  · rintro rfl
    exact takesTurn_turn follows clock jar request response
  · intro h
    unfold turn
    cases h with
    | placeless fault htaken => simp only [htaken]
    | settled change htaken hstays => simp only [htaken, hstays]
    | stranded change htaken location hmoves fault hnext => simp only [htaken, hmoves, hnext]
    | stays change htaken hfollows location hmoves next hnext =>
        simp only [htaken, hmoves, hnext, hfollows, Bool.false_eq_true, if_false]
    | unread change htaken hfollows location hmoves next hnext fault reading hbody =>
        simp only [htaken, hmoves, hnext, hfollows, if_true, hbody]
    | moves change htaken hfollows location hmoves next hnext body reading hbody =>
        simp only [htaken, hmoves, hnext, hfollows, if_true, hbody]

section Preservation

variable (channel : Channel σ) (follows : Bool) (sends : Outgoing → Prop) (holds : σ → Prop)
  (hnext : ∀ present request status location jar next, sends request →
    Redirect.next present request status location jar = .ok next → sends next)
  (hsend : ∀ request world, sends request → holds world → holds (channel.send request world).2)
  (hrelease : ∀ reading world, holds world → holds (channel.release reading world))

include hnext in
/-- The next request of a turn is made like those before it. -/
theorem sends_of_turn {clock : Clock} {jar later : Jar} {request next : Outgoing}
    {response : Incoming} {reading : Reading} (hrequest : sends request)
    (hturn : turn follows clock jar request response = .onward later next reading) :
    sends next := by
  cases turn_eq_iff.mp hturn with
  | moves _ _ _ location _ next hmoved => exact hnext _ _ _ _ _ _ hrequest hmoved

include hnext hrelease in
/-- One turn: what holds after the request was sent holds at the end if the rest of the
exchange preserves it. -/
private theorem turn_preserves (requests : Nat) (clock : Clock) (jar : Jar) (request : Outgoing)
    (world : σ) (hrequest : sends request) (hsent : holds (channel.send request world).2)
    (hrest : ∀ clock jar next world, sends next → holds world →
      holds (channel.exchange follows requests clock jar next world).2) :
    holds (channel.exchange follows (requests + 1) clock jar request world).2 := by
  rw [exchange_succ]
  rcases hsend : channel.send request world with ⟨fault | response, after⟩
  · rwa [hsend] at hsent
  · rw [hsend] at hsent
    dsimp only at hsent ⊢
    cases hturn : turn follows clock jar request response with
    | final => exact hsent
    | broken fault left =>
        cases left with
        | none => exact hsent
        | some reading => exact hrelease reading after hsent
    | onward later next reading =>
        exact hrest _ later next _ (sends_of_turn follows sends hnext hrequest hturn)
          (hrelease reading after hsent)

include hnext hsend hrelease in
theorem exchange_preserves (requests : Nat) (clock : Clock) (jar : Jar) (request : Outgoing)
    (world : σ) (hrequest : sends request) (hworld : holds world) :
    holds (channel.exchange follows requests clock jar request world).2 := by
  induction requests generalizing clock jar request world with
  | zero => exact hworld
  | succ requests ih =>
      exact turn_preserves channel follows sends holds hnext hrelease requests clock jar request
        world hrequest (hsend request world hrequest hworld) ih

include hnext hsend hrelease in
/-- What holds as soon as the first request was sent holds at the end. -/
theorem exchange_preserves_sent (requests : Nat) (clock : Clock) (jar : Jar) (request : Outgoing)
    (world : σ) (hrequest : sends request) (hsent : holds (channel.send request world).2) :
    holds (channel.exchange follows (requests + 1) clock jar request world).2 :=
  turn_preserves channel follows sends holds hnext hrelease requests clock jar request world
    hrequest hsent fun clock jar next world =>
      exchange_preserves channel follows sends holds hnext hsend hrelease requests clock jar next
        world

end Preservation

end Channel

end MmsHttp
