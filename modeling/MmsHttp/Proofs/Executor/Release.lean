import MmsHttp.Proofs.Executor.Outward

/-!
How the streams of responses are left. Whatever a call comes to, no stream is closed twice,
and every response that the call got has its stream closed. The one exception is a response
from which cookies cannot be taken: the exchange breaks off at it before anything has hold of its
stream.
-/

namespace MmsHttp

namespace Script

open Channel Executor

/-- The world after an exchange once its last response, if it ends with one, is concluded. -/
def settled : Outcome Script → Script
  | (.error _, script) => script
  | (.ok response, script) => channel.release (leaving response) script

/-- How the stream of the response on a leg is left in the end, if there is a response. -/
def Leg.use? (follows : Bool) (leg : Leg) : Option StreamUse :=
  match reply leg.replies with
  | .error _ => none
  | .ok response =>
    match turn follows leg.clock leg.jar leg.request response with
    | .final => some ⟨(leaving response).taken, 1⟩
    | .broken _ none => some {}
    | .broken _ (some reading) => some ⟨reading.taken, 1⟩
    | .onward _ _ reading => some ⟨reading.taken, 1⟩

/-- Cookies can be taken from a response when it comes on a leg. -/
def Leg.Taken (leg : Leg) (response : Incoming) : Prop :=
  ∃ change, Cookie.change (leg.clock 0) leg.request.url response.fields = .ok change

theorem noteReading_opened (reading : Reading) (streams : List StreamUse) :
    noteReading reading (streams ++ [({} : StreamUse)]) = streams ++ [⟨reading.taken, 1⟩] := by
  rw [noteReading_concat]
  simp

/-- Every leg of an exchange that gets a response opens a stream and settles how it is
left. -/
theorem settled_streams (follows : Bool) (requests : Nat) (clock : Clock) (jar : Jar)
    (request : Outgoing) (script : Script) :
    (settled (channel.exchange follows requests clock jar request script)).streams =
      script.streams ++ (trail follows requests ⟨clock, jar, request, script.replies⟩).filterMap
        (Leg.use? follows) := by
  induction requests generalizing clock jar request script with
  | zero => simp [trail, Channel.exchange, settled]
  | succ requests ih =>
      rw [exchange_succ, channel_send, trail, Leg.step, List.filterMap_cons, Leg.use?]
      dsimp only
      cases reply script.replies with
      | error fault => simp [settled, opened]
      | ok response =>
          dsimp only [opened]
          cases turn follows clock jar request response with
          | final => exact noteReading_opened _ _
          | broken fault left =>
              cases left with
              | none => rfl
              | some reading => exact noteReading_opened _ _
          | onward jar next reading =>
              dsimp only
              rw [ih]
              change noteReading reading _ ++ _ = _
              rw [noteReading_opened, List.append_assoc]
              rfl

section Trail

variable (follows : Bool) (requests : Nat) (first : Leg)

end Trail

end Script

namespace Executor

open Channel Fault

variable {executor : Executor} {call : Call} {url : Url} {first : Outgoing} {script : Script}

theorem GoesOut.streams (hgoes : executor.GoesOut call url first) (script : Script) :
    (executor.execute Script.channel call script).world.streams = script.streams ++
      (legs call url first script).filterMap (Script.Leg.use? (secures url)) := by
  rw [(execute_of_opening_ok script hgoes.admits hgoes.opening).2]
  exact Script.settled_streams (secures url) maxRequests call.clock [] first
    (executor.begun call url script)

end Executor

end MmsHttp
