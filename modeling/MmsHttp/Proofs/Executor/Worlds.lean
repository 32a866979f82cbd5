import MmsHttp.Proofs.Exchange.Message
import MmsHttp.Proofs.Exchange.Turn
import MmsHttp.Proofs.Executor.Course
import MmsHttp.Proofs.Executor.Ways

namespace MmsHttp.Executor

open Channel

variable {σ : Type}

/-- The ways in which a client can be opened. -/
inductive Opens (channel : Channel σ) (means : Client.Means) (proxy : Option Proxy) (world : σ) :
    Except Fault Client × List Event × σ → Prop where
  /-- There are no clients for the scheme. -/
  | foreign (fault : Fault) : Opens channel means proxy world (.error fault, [], world)
  | refused (secure : Bool) (fault : Fault) (after : σ)
      (hacquire : channel.acquire (means.route proxy secure) world = (.error fault, after)) :
      Opens channel means proxy world (.error fault, [], after)
  | acquired (secure : Bool) (events : List Event) (after : σ)
      (hacquire : channel.acquire (means.route proxy secure) world = (.ok events, after))
      (client : Except Fault Client) :
      Opens channel means proxy world (client, events, after)

theorem opens_open? (channel : Channel σ) (means : Client.Means) (scheme : String)
    (proxy : Option Proxy) (timeoutMillis : Int) (world : σ) :
    Opens channel means proxy world
      (Client.open? channel means scheme proxy timeoutMillis world) := by
  unfold Client.open?
  cases Client.isSecure? scheme with
  | none => exact .foreign _
  | some secure =>
      dsimp only
      rcases hacquire : channel.acquire (means.route proxy secure) world
        with ⟨fault | events, after⟩
      · exact .refused secure fault after hacquire
      · exact .acquired secure events after hacquire _

/-- The worlds that a call can leave. -/
inductive Leaves (executor : Executor) (channel : Channel σ) (call : Call) (world : σ) :
    σ → Prop where
  | untouched : Leaves executor channel call world world
  | refused (secure : Bool) (fault : Fault) (after : σ)
      (hacquire : channel.acquire (executor.means.route call.transaction.proxy secure) world =
        (.error fault, after)) :
      Leaves executor channel call world after
  | opened (secure : Bool) (events : List Event) (opened : σ)
      (hacquire : channel.acquire (executor.means.route call.transaction.proxy secure) world =
        (.ok events, opened)) :
      Leaves executor channel call world opened
  /-- There was an exchange, and if it came to a response that was let go of. -/
  | exchanged (secure : Bool) (events : List Event) (opened : σ)
      (hacquire : channel.acquire (executor.means.route call.transaction.proxy secure) world =
        (.ok events, opened))
      (url : Url) (timeout : Binary64) (first : Outgoing)
      (hfirst : Outgoing.first (executor.requestOf call).method url
        (executor.requestOf call).headers ((executor.requestOf call).content.getD []) timeout =
        .ok first)
      (follows : Bool) (outcome : Except Fault Incoming) (ended : σ)
      (hended : channel.exchange follows maxRequests call.clock [] first opened =
        (outcome, ended))
      (left : Option Reading) :
      Leaves executor channel call world (left.elim ended (channel.release · ended))

/-- A client that could not be made, or was made for nothing. -/
theorem Opens.leaves {executor : Executor} {channel : Channel σ} {call : Call} {world : σ}
    {client : Except Fault Client} {events : List Event} {opened : σ}
    (hopens : Opens channel executor.means call.transaction.proxy world (client, events, opened)) :
    Leaves executor channel call world opened := by
  cases hopens with
  | foreign => exact .untouched
  | refused secure fault _ hacquire => exact .refused secure fault _ hacquire
  | acquired secure _ _ hacquire => exact .opened secure events _ hacquire

theorem Opens.leaves_exchanged {executor : Executor} {channel : Channel σ} {call : Call}
    {world : σ} {url : Url} {client : Client} {events : List Event} {opened : σ}
    (hopens : Opens channel executor.means call.transaction.proxy world
      (.ok client, events, opened))
    {first : Outgoing}
    (hfirst : Outgoing.first (executor.requestOf call).method url (executor.requestOf call).headers
      ((executor.requestOf call).content.getD []) client.timeout = .ok first)
    {outcome : Except Fault Incoming} {ended : σ}
    (hended : channel.exchange client.followsRedirects maxRequests call.clock [] first opened =
      (outcome, ended)) (left : Option Reading) :
    Leaves executor channel call world (left.elim ended (channel.release · ended)) := by
  cases hopens with
  | acquired secure _ _ hacquire =>
      exact .exchanged secure events _ hacquire url _ first hfirst _ outcome ended hended left

theorem leaves_execute (executor : Executor) (channel : Channel σ) (call : Call) (world : σ) :
    Leaves executor channel call world (executor.execute channel call world).world := by
  have hends := ends_execute executor channel call world
  generalize executor.execute channel call world = run at hends
  cases hends with
  | unwritable => exact .untouched
  | refused refusal => cases refusal <;> exact .untouched
  | unsendable => exact .untouched
  | sent url run hsends =>
      have hopens := opens_open? channel executor.means url.scheme call.transaction.proxy
        call.transaction.config.timeoutMillis world
      simp only [Run.behind, report_world]
      cases hsends with
      | unopened fault events after hopen =>
          rw [hopen] at hopens
          exact hopens.leaves
      | unmade client events opened hopen fault hfirst =>
          rw [hopen] at hopens
          exact hopens.leaves
      | interrupted client events opened hopen first fault after hended hfirst =>
          rw [hopen] at hopens
          exact hopens.leaves_exchanged hfirst hended none
      | concluded client events opened hopen first response after hended hfirst =>
          rw [hopen] at hopens
          simp only [Run.behind, conclude_world]
          exact hopens.leaves_exchanged hfirst hended (some (leaving response))

section Preservation

variable {executor : Executor} {channel : Channel σ} {call : Call} {world : σ}
  (sends : Outgoing → Prop) (stays holds : σ → Prop)
  (hfirst : ∀ first : Outgoing, first.method = (executor.requestOf call).method →
    first.body = (executor.requestOf call).content.getD [] → sends first)
  (hnext : ∀ present request status location jar next, sends request →
    Redirect.next present request status location jar = .ok next → sends next)
  (hrefused : ∀ secure fault after, channel.acquire
    (executor.means.route call.transaction.proxy secure) world = (.error fault, after) →
      stays after)
  (hacquired : ∀ secure events after, channel.acquire
    (executor.means.route call.transaction.proxy secure) world = (.ok events, after) →
      holds after)
  (hsend : ∀ request world, sends request → holds world → holds (channel.send request world).2)
  (hrelease : ∀ reading world, holds world → holds (channel.release reading world))

include hfirst hnext hrefused hacquired hsend hrelease in
/-- What holds once a route is taken, and is preserved by what is sent and let go of, holds in
the end of a call that has come so far. -/
theorem execute_preserves (hworld : stays world) :
    let after := (executor.execute channel call world).world
    stays after ∨ holds after := by
  have hleaves := leaves_execute executor channel call world
  generalize (executor.execute channel call world).world = after at hleaves
  cases hleaves with
  | untouched => exact Or.inl hworld
  | refused secure fault _ hacquire => exact Or.inl (hrefused secure fault _ hacquire)
  | opened secure events _ hacquire => exact Or.inr (hacquired secure events _ hacquire)
  | exchanged secure events opened hacquire url timeout first hmade follows outcome ended hended
      left =>
      obtain ⟨hmethod, hbody⟩ := Outgoing.payload_of_first hmade
      have hholds := exchange_preserves channel follows sends holds hnext hsend hrelease
        maxRequests call.clock [] first opened (hfirst first hmethod hbody)
        (hacquired secure events opened hacquire)
      rw [hended] at hholds
      cases left with
      | none => exact Or.inr hholds
      | some reading => exact Or.inr (hrelease reading ended hholds)

end Preservation

end MmsHttp.Executor
