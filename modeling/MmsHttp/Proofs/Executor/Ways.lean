import MmsHttp.Executor

/-!
The ways in which a call can go, over any channel. A call stops before it has a request, or
its request goes over the channel; what is sent there stops at the client, at the first
request or in the exchange, or comes to a final response.
-/

namespace MmsHttp

/-- A run with the records that came before it. -/
def Run.behind {σ : Type} (events : List Event) (run : Run σ) : Run σ :=
  { run with events := events ++ run.events }

/-- A run that ends with a fault. -/
def Run.broken {σ : Type} (fault : Fault) (events : List Event) (world : σ) : Run σ :=
  { answer := .error fault, events, world }

namespace Executor

variable {σ : Type}

/-- The ways in which the sending of a request can go. -/
inductive Sends (executor : Executor) (channel : Channel σ) (call : Call) (url : Url)
    (request : Request) (world : σ) : Run σ → Prop where
  | unopened (fault : Fault) (events : List Event) (after : σ)
      (hopen : Client.open? channel executor.means url.scheme call.transaction.proxy
        call.transaction.config.timeoutMillis world = (.error fault, events, after)) :
      Sends executor channel call url request world (.broken fault events after)
  | unmade (client : Client) (events : List Event) (opened : σ)
      (hopen : Client.open? channel executor.means url.scheme call.transaction.proxy
        call.transaction.config.timeoutMillis world = (.ok client, events, opened))
      (fault : Fault)
      (hfirst : Outgoing.first request.method url request.headers (request.content.getD [])
        client.timeout = .error fault) :
      Sends executor channel call url request world (.broken fault events opened)
  | interrupted (client : Client) (events : List Event) (opened : σ)
      (hopen : Client.open? channel executor.means url.scheme call.transaction.proxy
        call.transaction.config.timeoutMillis world = (.ok client, events, opened))
      (first : Outgoing) (fault : Fault) (after : σ)
      (hended : channel.exchange client.followsRedirects Channel.maxRequests call.clock [] first
        opened = (.error fault, after))
      (hfirst : Outgoing.first request.method url request.headers (request.content.getD [])
        client.timeout = .ok first) :
      Sends executor channel call url request world (.broken fault events after)
  | concluded (client : Client) (events : List Event) (opened : σ)
      (hopen : Client.open? channel executor.means url.scheme call.transaction.proxy
        call.transaction.config.timeoutMillis world = (.ok client, events, opened))
      (first : Outgoing) (response : Incoming) (after : σ)
      (hended : channel.exchange client.followsRedirects Channel.maxRequests call.clock [] first
        opened = (.ok response, after))
      (hfirst : Outgoing.first request.method url request.headers (request.content.getD [])
        client.timeout = .ok first) :
      Sends executor channel call url request world
        (.behind events (conclude executor.bound channel response after))

theorem sends_send (executor : Executor) (channel : Channel σ) (call : Call) (url : Url)
    (request : Request) (world : σ) :
    Sends executor channel call url request world
      (executor.send channel call url request world) := by
  unfold send
  dsimp only
  rcases hopen : Client.open? channel executor.means url.scheme call.transaction.proxy
    call.transaction.config.timeoutMillis world with ⟨fault | client, events, opened⟩
  · exact .unopened fault events opened hopen
  · dsimp only
    cases hfirst : Outgoing.first request.method url request.headers (request.content.getD [])
        client.timeout with
    | error fault => exact .unmade client events opened hopen fault hfirst
    | ok first =>
        dsimp only
        rcases hended : channel.exchange client.followsRedirects Channel.maxRequests call.clock []
          first opened with ⟨fault | response, after⟩
        · exact .interrupted client events opened hopen first fault after hended hfirst
        · exact .concluded client events opened hopen first response after hended hfirst

/-- The records of a call up to where its request is sent. -/
def preparing (executor : Executor) (call : Call) : List Event :=
  requestedEvent executor.bound call.transaction ::
    Request.assemblyEvents executor.bound call.transaction

/-- The ways in which a call can go. -/
inductive Ends (executor : Executor) (channel : Channel σ) (call : Call) (world : σ) :
    Run σ → Prop where
  /-- Not even its first record can be written. -/
  | unwritable (fault : Fault)
      (hport : (call.transaction.proxy.bind fun proxy => Fault.unwritable? proxy.port) =
        some fault) :
      Ends executor channel call world (.broken fault [] world)
  | refused (refusal : Refusal) (hcheck : checkTransaction call.transaction = .error refusal) :
      Ends executor channel call world
        (refuse executor.bound [requestedEvent executor.bound call.transaction] refusal world)
  | unsendable (failure : Failure)
      (hheaders : requestFailure? (executor.requestOf call) = some failure) :
      Ends executor channel call world
        (refuse executor.bound (executor.preparing call) (.failure failure) world)
  | sent (url : Url) (run : Run σ)
      (hsends : Sends executor channel call url (executor.requestOf call) world run) :
      Ends executor channel call world
        (.behind
          (executor.preparing call ++ sendingEvents executor.bound (executor.requestOf call))
          (report executor.bound run))

theorem ends_execute (executor : Executor) (channel : Channel σ) (call : Call) (world : σ) :
    Ends executor channel call world (executor.execute channel call world) := by
  unfold execute
  dsimp only
  cases hport : call.transaction.proxy.bind fun proxy => Fault.unwritable? proxy.port with
  | some fault => exact .unwritable fault hport
  | none =>
      cases hcheck : checkTransaction call.transaction with
      | error refusal => exact .refused refusal hcheck
      | ok url =>
          unfold carryOut
          dsimp only
          cases hheaders : requestFailure? (executor.requestOf call) with
          | some failure => exact .unsendable failure hheaders
          | none => exact .sent url _ (sends_send executor channel _ url _ world)

end Executor

end MmsHttp
