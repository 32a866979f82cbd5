import MmsHttp.Proofs.Executor.Course
import MmsHttp.Proofs.Executor.Ways
import MmsHttp.Proofs.Link.Noting
import MmsHttp.Wire.Pooled

/-!
Calls whose host cannot be dialled. A call over a link ends with the first of its requests
that fails there, and reports the fault under the exchange's own class; so whatever goes
wrong with the name, the addresses or the connection of a host comes back as a failure.
-/

namespace MmsHttp.Executor

open Link

variable {σ : Type}

/-- What a call sends over a link, each request with the world that it finds. -/
def sentOver (executor : Executor) (link : Link σ) (call : Call) (world : σ) : Notes σ :=
  (executor.execute link.noting.channel call (world, [])).world.2

/-- The requests of a call, before its fault is reported to the caller. -/
theorem Sends.notes {executor : Executor} {link : Link σ} {call : Call} {url : Url}
    {request : Request} {world : σ × Notes σ} {run : Run (σ × Notes σ)}
    (hsends : Sends executor link.noting.channel call url request world run) :
    ∃ notes, run.world.2 = world.2 ++ notes ∧ link.Reports notes run.answer := by
  have hopened := link.open?_notes executor.means url.scheme call.transaction.proxy
    call.transaction.config.timeoutMillis world
  cases hsends with
  | unopened fault events after hopen =>
      rw [hopen] at hopened
      exact ⟨[], hopened.trans (List.append_nil _).symm, reports_nil⟩
  | unmade client events opened hopen fault hfirst =>
      rw [hopen] at hopened
      exact ⟨[], hopened.trans (List.append_nil _).symm, reports_nil⟩
  | interrupted client events opened hopen first fault after hended =>
      rw [hopen] at hopened
      obtain ⟨notes, hnotes, hreports⟩ := link.exchange_notes client.followsRedirects
        Channel.maxRequests call.clock [] first opened
      rw [hended] at hnotes hreports
      exact ⟨notes, hnotes.trans (congrArg (· ++ notes) hopened), hreports.of_error⟩
  | concluded client events opened hopen first response after hended =>
      rw [hopen] at hopened
      obtain ⟨notes, hnotes, hreports⟩ := link.exchange_notes client.followsRedirects
        Channel.maxRequests call.clock [] first opened
      rw [hended] at hnotes hreports
      refine ⟨notes, ?_, hreports.of_ok _⟩
      rw [Run.behind, conclude_world]
      exact hnotes.trans (congrArg (· ++ notes) hopened)

/-- A call gives the report of the fault with which one of its requests fails on the link. -/
theorem answer_of_failed_send (executor : Executor) (link : Link σ) (call : Call) (world : σ)
    {core : LinkRequest} {before : σ} (hsent : (core, before) ∈ executor.sentOver link call world)
    {fault : LinkFault} (hfault : (link.send core before).1 = .error fault) :
    (executor.execute link.channel call world).answer = reported (.error fault.reported) := by
  have hplain : executor.execute link.channel call world =
      (executor.execute link.noting.channel call (world, [])).on Prod.fst :=
    execute_over link.noting_over executor call (world, [])
  rw [hplain, Run.on]
  have hends := ends_execute executor link.noting.channel call (world, [])
  unfold sentOver at hsent
  generalize executor.execute link.noting.channel call (world, []) = run at hends hsent ⊢
  cases hends with
  | unwritable fault hport => cases hsent
  | refused refusal hcheck => cases refusal <;> cases hsent
  | unsendable failure hheaders => cases hsent
  | sent url run hsends =>
      obtain ⟨notes, hnotes, hreports⟩ := hsends.notes
      have hmem : (core, before) ∈ notes := by simpa [Run.behind, hnotes] using hsent
      simp only [Run.behind, report_answer]
      rw [hreports _ hmem fault hfault]

/-- A call one of whose requests cannot be dialled comes back as a network failure, under the
class that stands for the nearest ancestor of the fault and with its text. The link is taken
to let the fault of dialling through. -/
theorem failed_of_undialled (executor : Executor) (link : Link σ) (call : Call) (world : σ)
    {core : LinkRequest} {before : σ} (hsent : (core, before) ∈ executor.sentOver link call world)
    {τ γ : Type} (attempt : String → τ → Except LinkFault γ × τ) (host : String)
    (answer : Answer) (dialling : τ) {fault : LinkFault}
    (hdial : (Dial.dial attempt host answer dialling).1 = .error fault)
    (hexpected : Dial.Expected answer fault)
    (hthrough : (link.send core before).1 = .error fault) :
    ∃ found, fault.cls.NearestIs found ∧
      (executor.execute link.channel call world).answer = .ok (.failed
        { kind := .networkIo
          message := "IO failure: " ++ fault.text
          statusCode := 0
          headers := []
          cause := some ⟨found, fault.text⟩ }) := by
  obtain ⟨found, hnearest⟩ := hexpected.exists_nearestIs hdial
  refine ⟨found, hnearest, ?_⟩
  rw [answer_of_failed_send executor link call world hsent hthrough,
    LinkFault.reported_of_nearestIs hnearest, reported, if_pos hnearest.isExchangeFailure]
  rfl

/-- A name that nobody knows is a network failure of a call over the pools of a registry. -/
theorem failed_of_unknown_name :
    let executor : Executor := { locale := "en_US" }
    let call : Call := { transaction := { method := "GET", url := "http://nowhere.example/m" } }
    let network : Wire.Network := { directory := [], peers := [] }
    let pools : Wire.Pools := { network, registry := { limits := .usual } }
    let attempt := Wire.Network.connect 80 (.ofInt 60)
    let answer := Resolver.addresses "nowhere.example" (network.directory.answer "nowhere.example")
    let fault := LinkFault.unreachable
      "unable to resolve host nowhere.example: [Errno -2] Name or service not known"
    (Dial.dial attempt "nowhere.example" answer network).1 = .error fault ∧
      Dial.Expected answer fault ∧
      (∃ note ∈ executor.sentOver Wire.Pools.link call pools,
        (Wire.Pools.link.send note.1 note.2).1 = .error fault) ∧
      ∃ found, fault.cls.NearestIs found ∧
        (executor.execute Wire.Pools.link.channel call pools).answer = .ok (.failed
          { kind := .networkIo
            message := "IO failure: " ++ fault.text
            statusCode := 0
            headers := []
            cause := some ⟨found, fault.text⟩ }) := by
  intro executor call network pools attempt answer fault
  have hdial : (Dial.dial attempt "nowhere.example" answer network).1 = .error fault := by
    decide +kernel
  have hexpected : Dial.Expected answer fault :=
    .unresolvable Directory.unknownName (by decide +kernel) (Or.inl (by decide +kernel))
  have hnotes : (executor.sentOver Wire.Pools.link call pools).map
      (fun note => (Wire.Pools.link.send note.1 note.2).1) = [.error fault] := by
    decide +kernel
  obtain ⟨note, hnote, hthrough⟩ := List.mem_map.mp (hnotes ▸ List.mem_singleton_self _)
  exact ⟨hdial, hexpected, ⟨note, hnote, hthrough⟩,
    failed_of_undialled executor Wire.Pools.link call pools hnote attempt "nowhere.example" answer
      network hdial hexpected hthrough⟩

end MmsHttp.Executor
