import MmsHttp.Link.Basic
import MmsHttp.Proofs.Executor.Projection
import MmsHttp.Proofs.Link.Fault

namespace MmsHttp

namespace Link

variable {σ : Type}

/-- Requests that were sent over a link, each with the world that it found. -/
abbrev Notes (σ : Type) := List (LinkRequest × σ)

/-- A link that notes what is sent over it. -/
def noting (link : Link σ) : Link (σ × Notes σ) where
  acquire route world :=
    let (outcome, after) := link.acquire route world.1
    (outcome, after, world.2)
  send request world :=
    let (outcome, after) := link.send request world.1
    (outcome, after, world.2 ++ [(request, world.1)])
  release reading world := (link.release reading world.1, world.2)

theorem noting_send {link : Link σ} {core : LinkRequest} {world : σ × Notes σ}
    {outcome : Except LinkFault LinkReply} {after : σ}
    (hsend : link.send core world.1 = (outcome, after)) :
    link.noting.send core world = (outcome, after, world.2 ++ [(core, world.1)]) := by
  simp only [noting, hsend]

theorem noting_send_world (link : Link σ) (core : LinkRequest) (world : σ × Notes σ) :
    (link.noting.send core world).2 =
      ((link.send core world.1).2, world.2 ++ [(core, world.1)]) :=
  rfl

/-- What an exchange gets to see of a request that it sends over a link. -/
theorem carry_eq (link : Link σ) (request : Outgoing) (world : σ) :
    link.carry request world =
      match LinkRequest.ofOutgoing request with
      | .error fault => (.error fault, world)
      | .ok core =>
        match link.send core world with
        | (.error fault, after) => (.error fault.reported, after)
        | (.ok reply, after) => (.ok (reply.respond request).incoming, after) := by
  unfold carry deliver
  cases LinkRequest.ofOutgoing request with
  | error fault => rfl
  | ok core =>
      dsimp only
      rcases link.send core world with ⟨fault | reply, after⟩
      · exact congrArg (fun own => (Except.error own, after)) (fault.fault_report request)
      · rfl

theorem carry_noting (link : Link σ) (request : Outgoing) (world : σ × Notes σ) :
    link.carry request world.1 =
      ((link.noting.carry request world).1, (link.noting.carry request world).2.1) := by
  rw [carry_eq, carry_eq]
  cases LinkRequest.ofOutgoing request with
  | error fault => rfl
  | ok core =>
      dsimp only
      rcases hsend : link.send core world.1 with ⟨fault | reply, after⟩ <;>
        rw [noting_send hsend]

theorem noting_over (link : Link σ) : link.noting.channel.Over link.channel Prod.fst where
  acquire _ _ := rfl
  send := link.carry_noting
  release _ _ := rfl

/-- Every request that failed on the link was the end, and its fault was reported. -/
def Reports (link : Link σ) (notes : Notes σ) {α : Type} (outcome : Except Fault α) : Prop :=
  ∀ note ∈ notes, ∀ fault, (link.send note.1 note.2).1 = .error fault →
    outcome = .error fault.reported

section Reports

variable {link : Link σ} {α β : Type} {notes more : Notes σ} {outcome : Except Fault α}

theorem reports_nil : link.Reports [] outcome :=
  nofun

theorem Reports.append (hnotes : link.Reports notes outcome) (hmore : link.Reports more outcome) :
    link.Reports (notes ++ more) outcome := by
  intro note hmem
  rcases List.mem_append.mp hmem with hmem | hmem
  · exact hnotes note hmem
  · exact hmore note hmem

/-- After requests none of which has failed, anything can follow. -/
theorem Reports.of_ok {answer : α} (hnotes : link.Reports notes (.ok answer))
    (next : Except Fault β) : link.Reports notes next := by
  intro note hmem fault hfault
  cases hnotes note hmem fault hfault

/-- A fault that ends one step ends all those that the step is part of. -/
theorem Reports.of_error {fault : Fault}
    (hnotes : link.Reports notes (.error fault : Except Fault α)) :
    link.Reports notes (.error fault : Except Fault β) := by
  intro note hmem own hown
  exact congrArg Except.error (Except.error.inj (hnotes note hmem own hown))

end Reports

/-- One request: it is noted if it reaches the link. -/
theorem carry_notes (link : Link σ) (request : Outgoing) (world : σ × Notes σ) :
    let sent := link.noting.carry request world
    ∃ notes, sent.2.2 = world.2 ++ notes ∧ link.Reports notes sent.1 := by
  rw [carry_eq]
  cases LinkRequest.ofOutgoing request with
  | error fault => exact ⟨[], (List.append_nil _).symm, reports_nil⟩
  | ok core =>
      dsimp only
      refine ⟨[(core, world.1)], ?_, ?_⟩
      · rcases hsend : link.send core world.1 with ⟨fault | reply, after⟩ <;>
          rw [noting_send hsend]
      · intro note hnote fault hfault
        obtain rfl := List.mem_singleton.mp hnote
        rcases hsend : link.send core world.1 with ⟨own | reply, after⟩
        · rw [hsend] at hfault
          obtain rfl := Except.error.inj hfault
          rw [noting_send hsend]
        · rw [hsend] at hfault
          cases hfault

/-- The requests of an exchange: none is sent after one that failed on the link. -/
theorem exchange_notes (link : Link σ) (follows : Bool) (requests : Nat) (clock : Clock)
    (jar : Jar) (request : Outgoing) (world : σ × Notes σ) :
    let ended := link.noting.channel.exchange follows requests clock jar request world
    ∃ notes, ended.2.2 = world.2 ++ notes ∧ link.Reports notes ended.1 := by
  induction requests generalizing clock jar request world with
  | zero => exact ⟨[], (List.append_nil _).symm, reports_nil⟩
  | succ requests ih =>
      obtain ⟨notes, hnotes, hreports⟩ := link.carry_notes request world
      rw [Channel.exchange_succ]
      rcases hcarry : link.noting.channel.send request world with ⟨fault | response, after⟩ <;>
        rw [show link.noting.carry request world = _ from hcarry] at hnotes hreports
      · exact ⟨notes, hnotes, hreports⟩
      · dsimp only at hnotes hreports ⊢
        cases Channel.turn follows clock jar request response with
        | final => exact ⟨notes, hnotes, hreports⟩
        | broken fault left =>
            refine ⟨notes, ?_, hreports.of_ok _⟩
            cases left with
            | none => exact hnotes
            | some reading => exact hnotes
        | onward jar next reading =>
            obtain ⟨more, hmore, hrest⟩ :=
              ih (clock.after 2) jar next (link.noting.channel.release reading after)
            refine ⟨notes ++ more, ?_, (hreports.of_ok _).append hrest⟩
            rw [hmore, ← List.append_assoc, ← hnotes]
            rfl

theorem open?_notes (link : Link σ) (means : Client.Means) (scheme : String)
    (proxy : Option Proxy) (timeoutMillis : Int) (world : σ × Notes σ) :
    (Client.open? link.noting.channel means scheme proxy timeoutMillis world).2.2.2 = world.2 := by
  unfold Client.open?
  cases Client.isSecure? scheme with
  | none => rfl
  | some secure =>
      have hkept : (link.noting.channel.acquire (means.route proxy secure) world).2.2 = world.2 :=
        rfl
      dsimp only
      rcases hacquire : link.noting.channel.acquire (means.route proxy secure) world
        with ⟨fault | events, after⟩ <;> rwa [hacquire] at hkept

end Link

end MmsHttp
