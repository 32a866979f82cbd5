import Mathlib.Data.List.Basic
import Mathlib.Data.List.Induction
import MmsHttp.Link.Dial

namespace MmsHttp

namespace Resolver

theorem distinct_concat (addresses : List String) (address : String) :
    distinct (addresses ++ [address]) =
      if address ∈ distinct addresses then distinct addresses
      else distinct addresses ++ [address] := by
  simp [distinct, List.foldl_append]

@[simp] theorem mem_distinct {addresses : List String} {address : String} :
    address ∈ distinct addresses ↔ address ∈ addresses := by
  induction addresses using List.reverseRecOn with
  | nil => rfl
  | append_singleton addresses last ih =>
      rw [distinct_concat]
      split
      case isTrue hlast =>
        have hknown : address = last → address ∈ distinct addresses := fun h => h ▸ hlast
        simpa [ih] using hknown
      case isFalse => simp [ih]

theorem distinct_pairwise (addresses : List String) :
    (distinct addresses).Pairwise (addresses.idxOf · < addresses.idxOf ·) := by
  induction addresses using List.reverseRecOn with
  | nil => exact .nil
  | append_singleton addresses last ih =>
      -- An address that has come before keeps its place when more are listed.
      have hkept : (distinct addresses).Pairwise
          ((addresses ++ [last]).idxOf · < (addresses ++ [last]).idxOf ·) := by
        refine ih.imp_of_mem fun hearlier hlater hlt => ?_
        rwa [List.idxOf_append_of_mem (mem_distinct.mp hearlier),
          List.idxOf_append_of_mem (mem_distinct.mp hlater)]
      rw [distinct_concat]
      split
      case isTrue => exact hkept
      case isFalse hnew =>
        rw [mem_distinct] at hnew
        refine List.pairwise_append.mpr ⟨hkept, List.pairwise_singleton _ _, ?_⟩
        intro earlier hearlier later hlater
        obtain rfl := List.mem_singleton.mp hlater
        have hmem := mem_distinct.mp hearlier
        rw [List.idxOf_append_of_mem hmem, List.idxOf_append_of_notMem hnew]
        exact Nat.lt_add_right _ (List.idxOf_lt_length_of_mem hmem)

/-- Addresses are those found, each once and where it first came. -/
structure FirstCome (found addresses : List String) : Prop where
  same : ∀ address, address ∈ addresses ↔ address ∈ found
  ordered : addresses.Pairwise (found.idxOf · < found.idxOf ·)

theorem system_firstCome {σ : Type} {lookUp : String → σ → Answer × σ} {host : String} {world : σ}
    {found : List String} (hfound : (lookUp host world).1 = .ok found) :
    ∃ addresses, (system lookUp host world).1 = .ok addresses ∧ FirstCome found addresses :=
  ⟨distinct found, by simp [system, Resolver.addresses, hfound],
    ⟨fun _ => mem_distinct, distinct_pairwise found⟩⟩

end Resolver

/-- An attempt that a dialler made, and what came of it. -/
structure Attempt (ω γ : Type) where
  address : String
  terms : Terms ω
  outcome : Except LinkFault γ
  deriving DecidableEq

namespace Attempt

variable {ω γ : Type}

/-- The attempt failed in the way after which the next address is tried. -/
def Refused (attempt : Attempt ω γ) : Prop :=
  ∃ fault, attempt.outcome = .error fault ∧ fault.cls.descendsFrom .connectError = true

/-- How attempts on addresses end, and with which outcome. The fault given is for a host that has
no addresses. -/
inductive Ends (addresses : List String) (nowhere : LinkFault) :
    List (Attempt ω γ) → Except LinkFault γ → Prop where
  | stopped (refusals : List (Attempt ω γ)) (last : Attempt ω γ)
      (htried : (refusals ++ [last]).map Attempt.address <+: addresses)
      (hrefusals : ∀ attempt ∈ refusals, attempt.Refused) (hlast : ¬ last.Refused) :
      Ends addresses nowhere (refusals ++ [last]) last.outcome
  | exhausted (tried : List (Attempt ω γ)) (htried : tried.map Attempt.address = addresses)
      (hrefusals : ∀ attempt ∈ tried, attempt.Refused) :
      Ends addresses nowhere tried ((tried.getLast?.map Attempt.outcome).getD (.error nowhere))

variable {address : String} {terms : Terms ω} {rest : List String} {nowhere fault : LinkFault}

theorem Ends.first {outcome : Except LinkFault γ}
    (hnot : ¬ Refused { address, terms, outcome }) :
    Ends (address :: rest) nowhere [{ address, terms, outcome }] outcome :=
  .stopped [] { address, terms, outcome } (List.prefix_append [address] rest)
    (List.forall_mem_nil _) hnot

/-- A search that goes on behind a refusal. -/
theorem Ends.behind {tried : List (Attempt ω γ)} {outcome : Except LinkFault γ}
    (hends : Ends rest fault tried outcome)
    (hclass : fault.cls.descendsFrom .connectError = true) :
    Ends (address :: rest) nowhere ({ address, terms, outcome := .error fault } :: tried)
      outcome := by
  have hrefused : Refused (γ := γ) { address, terms, outcome := .error fault } :=
    ⟨fault, rfl, hclass⟩
  cases hends with
  | stopped refusals last htried hrefusals hlast =>
      exact .stopped (_ :: refusals) last (List.cons_prefix_cons.mpr ⟨rfl, htried⟩)
        (List.forall_mem_cons.mpr ⟨hrefused, hrefusals⟩) hlast
  | exhausted tried htried hrefusals =>
      have hexhausted : Ends (address :: rest) nowhere
          ({ address, terms, outcome := .error fault } :: tried) _ :=
        .exhausted _ (congrArg (address :: ·) htried)
          (List.forall_mem_cons.mpr ⟨hrefused, hrefusals⟩)
      -- The fault of the first attempt stands until a later one takes its place.
      rw [List.getLast?_cons] at hexhausted
      cases hlast : tried.getLast? <;> rwa [hlast] at hexhausted

end Attempt

namespace Dial

variable {σ γ : Type} (attempt : String → σ → Except LinkFault γ × σ) {address : String}
  {world after : σ}

theorem tryEach_cons_of_ok {connection : γ} (h : attempt address world = (.ok connection, after))
    (last : LinkFault) (rest : List String) :
    tryEach attempt last (address :: rest) world = (.ok connection, after) := by
  rw [tryEach, h]

theorem tryEach_cons_of_error {fault : LinkFault}
    (h : attempt address world = (.error fault, after)) (last : LinkFault) (rest : List String) :
    tryEach attempt last (address :: rest) world =
      if fault.cls.descendsFrom .connectError then tryEach attempt fault rest after
      else (.error fault, after) := by
  rw [tryEach, h]

end Dial

namespace Dialler

variable {ω σ γ : Type}

/-- What a dialler was asked to do: names to resolve, and attempts. -/
structure Notes (ω γ : Type) where
  asked : List String := []
  tried : List (Attempt ω γ) := []
  deriving DecidableEq

/-- A dialler that notes what it is asked to do. -/
def noting (dialler : Dialler ω σ γ) : Dialler ω (σ × Notes ω γ) γ where
  resolve host world :=
    let (answer, after) := dialler.resolve host world.1
    (answer, after, { world.2 with asked := world.2.asked ++ [host] })
  attempt address terms world :=
    let (outcome, after) := dialler.attempt address terms world.1
    (outcome, after, { world.2 with tried := world.2.tried ++ [{ address, terms, outcome }] })

theorem noting_attempt {dialler : Dialler ω σ γ} {address : String} {terms : Terms ω}
    {world : σ × Notes ω γ} {outcome : Except LinkFault γ} {after : σ}
    (h : dialler.attempt address terms world.1 = (outcome, after)) :
    dialler.noting.attempt address terms world =
      (outcome, after,
        { world.2 with tried := world.2.tried ++ [{ address, terms, outcome }] }) := by
  simp only [noting, h]

/-- The attempts on addresses: how they end, and that noting them changes nothing. -/
theorem tryEach_noting (dialler : Dialler ω σ γ) (terms : Terms ω) (last : LinkFault)
    (addresses : List String) (world : σ × Notes ω γ) :
    let noted := Dial.tryEach (dialler.noting.attempt · terms) last addresses world
    Dial.tryEach (dialler.attempt · terms) last addresses world.1 = (noted.1, noted.2.1) ∧
      ∃ tried, noted.2.2 = { world.2 with tried := world.2.tried ++ tried } ∧
        (∀ attempt ∈ tried, attempt.terms = terms) ∧
        Attempt.Ends addresses last tried noted.1 := by
  induction addresses generalizing last world with
  | nil =>
      have hends : Attempt.Ends (ω := ω) (γ := γ) [] last [] (.error last) :=
        .exhausted [] rfl (List.forall_mem_nil _)
      exact ⟨rfl, [], by simp [Dial.tryEach], List.forall_mem_nil _, hends⟩
  | cons address rest ih =>
      rcases hplain : dialler.attempt address terms world.1 with ⟨fault | connection, after⟩
      · rw [Dial.tryEach_cons_of_error (dialler.attempt · terms) hplain,
          Dial.tryEach_cons_of_error (dialler.noting.attempt · terms) (noting_attempt hplain)]
        split
        case isTrue hclass =>
          obtain ⟨hsame, tried, hnotes, hterms, hends⟩ := ih fault (after, _)
          refine ⟨hsame, _ :: tried, ?_, List.forall_mem_cons.mpr ⟨rfl, hterms⟩,
            hends.behind hclass⟩
          rw [hnotes, List.append_assoc, List.singleton_append]
        case isFalse hclass =>
          let last : Attempt ω γ := { address, terms, outcome := .error fault }
          have hnot : ¬ last.Refused := by
            rintro ⟨own, hown, hconnect⟩
            obtain rfl := Except.error.inj hown
            exact hclass hconnect
          exact ⟨rfl, [last], rfl, List.forall_mem_singleton.mpr rfl, .first hnot⟩
      · rw [Dial.tryEach_cons_of_ok (dialler.attempt · terms) hplain,
          Dial.tryEach_cons_of_ok (dialler.noting.attempt · terms) (noting_attempt hplain)]
        let last : Attempt ω γ := { address, terms, outcome := .ok connection }
        have hnot : ¬ last.Refused := nofun
        exact ⟨rfl, [last], rfl, List.forall_mem_singleton.mpr rfl, .first hnot⟩

/-- Connecting resolves the name of the host once. Its addresses are tried in order, on the terms
of the caller, up to the first attempt that is not refused, whose outcome is that of the whole; if
all are refused, the fault is the last one's, and without addresses it names the host. With the
system's resolver the addresses are those found for the name, each once and where it first came. -/
theorem connect_tries_in_order (dialler : Dialler ω σ γ) (host : String) (terms : Terms ω)
    (world : σ) :
    let noted := dialler.noting.connect host terms (world, {})
    let notes := noted.2.2
    (dialler.connect host terms world = (noted.1, noted.2.1) ∧ notes.asked = [host]) ∧
    (∀ addresses, (dialler.resolve host world).1 = .ok addresses →
      (∀ attempt ∈ notes.tried, attempt.terms = terms) ∧
      Attempt.Ends addresses (.plain .connectError ("no addresses for host " ++ host)) notes.tried
        noted.1) ∧
    ∀ lookUp found, dialler.resolve = Resolver.system lookUp →
      (lookUp host world).1 = .ok found →
      ∃ addresses, (dialler.resolve host world).1 = .ok addresses ∧
        Resolver.FirstCome found addresses := by
  intro noted notes
  have hsystem : ∀ lookUp found, dialler.resolve = Resolver.system lookUp →
      (lookUp host world).1 = .ok found →
      ∃ addresses, (dialler.resolve host world).1 = .ok addresses ∧
        Resolver.FirstCome found addresses := by
    intro lookUp found hresolver hfound
    rw [hresolver]
    exact Resolver.system_firstCome hfound
  rcases hresolve : dialler.resolve host world with ⟨fault | addresses, after⟩
  · have hnoted : noted =
        (.error (Dial.unresolved host fault), after, { asked := [host] }) := by
      simp only [noted, connect, noting, hresolve, Dial.dial, List.nil_append]
    refine ⟨⟨?_, congrArg (·.2.2.asked) hnoted⟩, nofun, hresolve ▸ hsystem⟩
    rw [hnoted, connect, hresolve]
    rfl
  · obtain ⟨hsame, tried, hnotes, hterms, hends⟩ := dialler.tryEach_noting terms
      (Dial.noAddresses host) addresses (after, { asked := [host] })
    have hnoted : noted = Dial.tryEach (dialler.noting.attempt · terms) (Dial.noAddresses host)
        addresses (after, { asked := [host] }) := by
      simp only [noted, connect, noting, hresolve, Dial.dial, List.nil_append]
    rw [← hnoted] at hsame hnotes hends
    have htried : notes.tried = tried := congrArg (·.tried) hnotes
    refine ⟨⟨?_, congrArg (·.asked) hnotes⟩, ?_, hresolve ▸ hsystem⟩
    · rw [← hsame, connect, hresolve]
      rfl
    · intro own hown
      obtain rfl := Except.ok.inj hown
      rw [htried]
      exact ⟨hterms, hends⟩

/-- A refusal goes on to the next address, here one of a class below; a timeout stops the search. -/
theorem connect_stops_at_timeout :
    let host := "mms.example"
    let found := ["10.0.0.1", "10.0.0.2", "10.0.0.1", "10.0.0.3"]
    let lookUp (_ : String) (_ : Unit) : Answer × Unit := (.ok found, ())
    let refused : LinkFault :=
      ⟨.derived "HostUnreachable" [.connectError, .networkError], "no route to host"⟩
    let timedOut := LinkFault.plain .connectTimeout "timed out"
    let dialler : Dialler Empty Unit String :=
      { resolve := Resolver.system lookUp
        attempt := fun address _ _ =>
          (if address = "10.0.0.1" then .error refused
            else if address = "10.0.0.2" then .error timedOut
            else .ok address, ()) }
    let terms : Terms Empty := { port := 80, timeout := some (.ofInt 1) }
    let addresses := ["10.0.0.1", "10.0.0.2", "10.0.0.3"]
    let tried : List (Attempt Empty String) :=
      [⟨"10.0.0.1", terms, .error refused⟩, ⟨"10.0.0.2", terms, .error timedOut⟩]
    (dialler.resolve host ()).1 = .ok addresses ∧
      dialler.noting.connect host terms ((), {}) =
        (.error timedOut, (), { asked := [host], tried }) ∧
      Attempt.Ends addresses (.plain .connectError ("no addresses for host " ++ host)) tried
        (.error timedOut) ∧
      Resolver.FirstCome found addresses := by
  intro host found lookUp refused timedOut dialler terms addresses tried
  have hresolve : (dialler.resolve host ()).1 = .ok addresses := by decide +kernel
  have hnoted : dialler.noting.connect host terms ((), {}) =
      (.error timedOut, (), { asked := [host], tried }) := by decide +kernel
  obtain ⟨-, htried, hsystem⟩ := connect_tries_in_order dialler host terms ()
  obtain ⟨own, hown, hfirst⟩ := hsystem lookUp found rfl rfl
  obtain rfl := Except.ok.inj (hown.symm.trans hresolve)
  have hends := (htried addresses hresolve).2
  rw [hnoted] at hends
  exact ⟨hresolve, hnoted, hends, hfirst⟩

end Dialler

end MmsHttp
