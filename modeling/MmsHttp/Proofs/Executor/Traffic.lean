import MmsHttp.Proofs.Executor.Delivery
import MmsHttp.Proofs.Executor.Dialling
import MmsHttp.Proofs.Executor.Worlds

namespace MmsHttp

/-- A request reaches a link with the headers and the body that it has in the exchange. -/
theorem LinkRequest.kept_of_ofOutgoing {request : Outgoing} {core : LinkRequest}
    (h : ofOutgoing request = .ok core) :
    core.headers = request.headers ∧ core.body = request.body := by
  unfold ofOutgoing at h
  split at h
  · cases h
  · split at h
    · obtain rfl := Except.ok.inj h
      exact ⟨rfl, rfl⟩
    · cases h

namespace Link

variable {σ : Type} (link : Link σ)

/-- A request of an exchange is noted as the link takes it, or never reaches the link. -/
theorem carry_noted (request : Outgoing) (world : σ × Notes σ) :
    (∃ fault, link.noting.carry request world = (.error fault, world)) ∨
      ∃ core, LinkRequest.ofOutgoing request = .ok core ∧
        (link.noting.carry request world).2.2 = world.2 ++ [(core, world.1)] := by
  rw [carry_eq]
  cases hcore : LinkRequest.ofOutgoing request with
  | error fault => exact Or.inl ⟨fault, rfl⟩
  | ok core =>
      refine Or.inr ⟨core, rfl, ?_⟩
      dsimp only
      rcases hsend : link.send core world.1 with ⟨fault | reply, after⟩ <;>
        rw [noting_send hsend]

/-- If an exchange reaches the link at all, then first with the request that it begins with. -/
theorem exchange_begins (follows : Bool) (requests : Nat) (clock : Clock) (jar : Jar)
    (request : Outgoing) (world : σ) :
    let ended := link.noting.channel.exchange follows (requests + 1) clock jar request (world, [])
    let notes := ended.2.2
    notes = [] ∨
      ∃ core, LinkRequest.ofOutgoing request = .ok core ∧ [(core, world)] <+: notes := by
  intro ended notes
  rcases link.carry_noted request (world, []) with ⟨fault, hlost⟩ | ⟨core, hcore, hnoted⟩
  · refine Or.inl ?_
    have hsend : link.noting.channel.send request (world, []) = (.error fault, (world, [])) := hlost
    simp only [notes, ended, Channel.exchange_succ, hsend]
  · let Begun (after : σ × Notes σ) : Prop := [(core, world)] <+: after.2
    have hsent : Begun (link.noting.channel.send request (world, [])).2 := ⟨[], hnoted.symm⟩
    have hsend (next : Outgoing) (after : σ × Notes σ) (_ : True) (h : Begun after) :
        Begun (link.noting.channel.send next after).2 := by
      rcases link.carry_noted next after with ⟨fault, hlost⟩ | ⟨core, -, hnoted⟩
      · rwa [show link.noting.channel.send next after = _ from hlost]
      · exact h.trans ⟨_, hnoted.symm⟩
    exact Or.inr ⟨core, hcore, Channel.exchange_preserves_sent link.noting.channel follows
      (fun _ => True) Begun (fun _ _ _ _ _ _ _ _ => trivial) hsend (fun _ _ h => h) requests
      clock jar request (world, []) trivial hsent⟩

/-- Notes that begin with a request of this body. -/
def BeginsWith (body : Bytes) (notes : Notes σ) : Prop :=
  ∃ note rest, notes = note :: rest ∧ note.1.body = body

end Link

namespace Executor

open Link

variable {σ : Type}

/-- If a call sends anything, then first the request that it was given to send. -/
theorem sentOver_first (executor : Executor) (link : Link σ) (call : Call) (world : σ) :
    executor.sentOver link call world = [] ∨
      ∃ url timeout first core before,
        Outgoing.first (executor.requestOf call).method url (executor.requestOf call).headers
          ((executor.requestOf call).content.getD []) timeout = .ok first ∧
        LinkRequest.ofOutgoing first = .ok core ∧
        [(core, before)] <+: executor.sentOver link call world := by
  have hleaves := leaves_execute executor link.noting.channel call (world, [])
  unfold sentOver
  generalize (executor.execute link.noting.channel call (world, [])).world = after at hleaves
  cases hleaves with
  | untouched => exact Or.inl rfl
  | refused secure fault _ hacquire =>
      obtain ⟨-, rfl⟩ := Prod.mk.inj hacquire
      exact Or.inl rfl
  | opened secure events _ hacquire =>
      obtain ⟨-, rfl⟩ := Prod.mk.inj hacquire
      exact Or.inl rfl
  | exchanged secure events opened hacquire url timeout first hfirst follows outcome ended hended
      left =>
      obtain ⟨-, rfl⟩ := Prod.mk.inj hacquire
      have hbegins := link.exchange_begins follows 20 call.clock [] first
        (link.acquire (executor.means.route call.transaction.proxy secure) world).2
      have hkept : (left.elim ended (link.noting.channel.release · ended)).2 = ended.2 := by
        cases left <;> rfl
      rw [show link.noting.channel.exchange follows (20 + 1) call.clock [] first _ = _ from hended]
        at hbegins
      rw [hkept]
      exact hbegins.imp_right fun ⟨core, hcore, hnotes⟩ =>
        ⟨url, timeout, first, core, _, hfirst, hcore, hnotes⟩

theorem sentOver_begins (executor : Executor) (link : Link σ) (call : Call) (world : σ) :
    executor.sentOver link call world = [] ∨
      BeginsWith ((executor.requestOf call).content.getD []) (executor.sentOver link call world) := by
  refine (sentOver_first executor link call world).imp_right ?_
  rintro ⟨url, timeout, first, core, before, hfirst, hcore, rest, hnotes⟩
  have hbody := (LinkRequest.kept_of_ofOutgoing hcore).2.trans (Outgoing.payload_of_first hfirst).2
  exact ⟨(core, before), rest, hnotes.symm, hbody⟩

theorem sentOver_empty (executor : Executor) (link : Link σ) {call : Call} (world : σ)
    (hget : call.transaction.method = "GET") :
    ∀ note ∈ executor.sentOver link call world, note.1.body = [] := by
  let Empty (world : σ × Notes σ) : Prop := ∀ note ∈ world.2, note.1.body = []
  have hfirst (first : Outgoing) (hmethod : first.method = (executor.requestOf call).method)
      (hbody : first.body = (executor.requestOf call).content.getD []) : first.Fetches := by
    have hnone : (executor.requestOf call).content = none := by
      simp [requestOf, Request.assemble, hget]
    exact ⟨hmethod.trans hget, by rw [hbody, hnone]; rfl⟩
  have hnext (present : Instant) (request : Outgoing) (status : Nat) (location : String)
      (jar : Jar) (next : Outgoing) (hrequest : request.Fetches)
      (h : Redirect.next present request status location jar = .ok next) : next.Fetches :=
    Redirect.fetches_next hrequest h
  have hsend (request : Outgoing) (world : σ × Notes σ) (hrequest : request.Fetches)
      (h : Empty world) : Empty (link.noting.carry request world).2 := by
    rcases link.carry_noted request world with ⟨fault, hlost⟩ | ⟨core, hcore, hnoted⟩
    · rwa [hlost]
    · intro note hmem
      rw [hnoted] at hmem
      rcases List.mem_append.mp hmem with hmem | hmem
      · exact h note hmem
      · obtain rfl := List.mem_singleton.mp hmem
        exact (LinkRequest.kept_of_ofOutgoing hcore).2.trans hrequest.2
  have hnone (outcome : Except Fault (List Event)) (after : σ × Notes σ) (route : Route)
      (hacquire : link.noting.channel.acquire route (world, []) = (outcome, after)) :
      Empty after := by
    obtain ⟨-, rfl⟩ := Prod.mk.inj hacquire
    exact List.forall_mem_nil _
  have hended : Empty (executor.execute link.noting.channel call (world, [])).world ∨
      Empty (executor.execute link.noting.channel call (world, [])).world :=
    execute_preserves Outgoing.Fetches Empty Empty hfirst hnext (fun _ _ _ => hnone _ _ _)
      (fun _ _ _ => hnone _ _ _) hsend (fun _ _ h => h) (List.forall_mem_nil _)
  exact hended.elim id id

end Executor

end MmsHttp
