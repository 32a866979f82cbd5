import MmsHttp.Executor
import MmsHttp.Proofs.Exchange.Turn

/-!
Channels that do the same on worlds that hold more. What a call comes to over such a channel,
and what it does to the part of the world that counts, is what it comes to and does over the
plain one.
-/

namespace MmsHttp

variable {σ τ : Type}

/-- A channel whose world holds that of another one, on which it does the same. -/
structure Channel.Over (outer : Channel τ) (inner : Channel σ) (part : τ → σ) : Prop where
  acquire : ∀ route world, inner.acquire route (part world) =
    ((outer.acquire route world).1, part (outer.acquire route world).2)
  send : ∀ request world, inner.send request (part world) =
    ((outer.send request world).1, part (outer.send request world).2)
  release : ∀ reading world, inner.release reading (part world) =
    part (outer.release reading world)

variable {outer : Channel τ} {inner : Channel σ} {part : τ → σ}

theorem Channel.Over.exchange (hover : outer.Over inner part) (follows : Bool) (requests : Nat)
    (clock : Clock) (jar : Jar) (request : Outgoing) (world : τ) :
    inner.exchange follows requests clock jar request (part world) =
      ((outer.exchange follows requests clock jar request world).1,
        part (outer.exchange follows requests clock jar request world).2) := by
  induction requests generalizing clock jar request world with
  | zero => rfl
  | succ requests ih =>
      rw [exchange_succ, exchange_succ, hover.send]
      rcases outer.send request world with ⟨fault | response, after⟩
      · rfl
      · dsimp only
        cases turn follows clock jar request response with
        | final => rfl
        | broken fault left =>
            cases left with
            | none => rfl
            | some reading =>
                dsimp only [Option.elim]
                rw [hover.release]
        | onward jar next reading =>
            dsimp only
            rw [hover.release]
            exact ih (clock.after 2) jar next _

theorem Channel.Over.open? (hover : outer.Over inner part) (means : Client.Means)
    (scheme : String) (proxy : Option Proxy) (timeoutMillis : Int) (world : τ) :
    Client.open? inner means scheme proxy timeoutMillis (part world) =
      ((Client.open? outer means scheme proxy timeoutMillis world).1,
        (Client.open? outer means scheme proxy timeoutMillis world).2.1,
        part (Client.open? outer means scheme proxy timeoutMillis world).2.2) := by
  unfold Client.open?
  cases Client.isSecure? scheme with
  | none => rfl
  | some secure =>
      dsimp only
      rw [hover.acquire]
      rcases outer.acquire (means.route proxy secure) world with ⟨fault | events, after⟩
      · rfl
      · rfl

def Run.on (part : τ → σ) (run : Run τ) : Run σ :=
  { answer := run.answer, events := run.events, world := part run.world }

namespace Executor

theorem conclude_over (hover : outer.Over inner part) (bound : Fields) (response : Incoming)
    (world : τ) :
    conclude bound inner response (part world) = (conclude bound outer response world).on part := by
  unfold conclude
  cases Status.isSuccess response.status with
  | false =>
      simp only [Bool.not_false, if_true, hover.release]
      rfl
  | true =>
      simp only [Bool.not_true, Bool.false_eq_true, if_false, hover.release]
      cases (response.body.read response.fields).1 <;> rfl

theorem send_over (hover : outer.Over inner part) (executor : Executor) (call : Call)
    (url : Url) (request : Request) (world : τ) :
    executor.send inner call url request (part world) =
      (executor.send outer call url request world).on part := by
  unfold send
  dsimp only
  rw [hover.open?]
  rcases Client.open? outer executor.means url.scheme call.transaction.proxy
    call.transaction.config.timeoutMillis world with ⟨fault | client, events, opened⟩
  · rfl
  · dsimp only
    cases Outgoing.first request.method url request.headers (request.content.getD [])
        client.timeout with
    | error fault => rfl
    | ok first =>
        dsimp only
        rw [hover.exchange]
        rcases outer.exchange client.followsRedirects Channel.maxRequests call.clock [] first opened
          with ⟨fault | response, after⟩
        · rfl
        · dsimp only
          rw [conclude_over hover]
          rfl

theorem report_on (bound : Fields) (run : Run τ) :
    report bound (run.on part) = (report bound run).on part := by
  obtain ⟨answer, events, world⟩ := run
  cases answer with
  | ok result => rfl
  | error fault =>
      unfold report Run.on
      dsimp only
      split
      · rfl
      · rfl

/-- What a call comes to over a channel does not depend on what its world holds besides. -/
theorem execute_over (hover : outer.Over inner part) (executor : Executor) (call : Call)
    (world : τ) :
    executor.execute inner call (part world) = (executor.execute outer call world).on part := by
  unfold execute
  dsimp only
  cases call.transaction.proxy.bind fun proxy => Fault.unwritable? proxy.port with
  | some fault => rfl
  | none =>
      cases checkTransaction call.transaction with
      | error refusal => cases refusal <;> rfl
      | ok url =>
          unfold carryOut
          dsimp only
          cases requestFailure? (executor.requestOf call) with
          | some failure => rfl
          | none =>
              dsimp only
              rw [send_over hover, report_on]
              rfl

end Executor

end MmsHttp
