import MmsHttp.Proofs.Executor.Serving
import MmsHttp.Proofs.Registry
import MmsHttp.Proofs.Wire.Closing
import MmsHttp.Session.Course

/-!
The pools of a session over its whole life. Every pool that is made is at any time in exactly
one place: in the registry of the open session, among those that were asked to close, or with
nobody. An opening leaves to nobody what the registry that it replaces still holds, a closing
what comes behind a pool that cannot be closed, and an acquisition what it makes in a registry
that the session has given up.
-/

namespace MmsHttp

open Wire

namespace Wire.Pools

/-- Pools that were worked with, but not closed. -/
structure Grows (before after : Pools) : Prop where
  registry : Registry.Grows before.registry after.registry
  closed : after.closed = before.closed

theorem grows_refl (pools : Pools) : Grows pools pools :=
  ⟨Or.inl rfl, rfl⟩

theorem grows_acquire (route : Route) (pools : Pools) : Grows pools (pools.acquire route).2 := by
  have hgrows := pools.registry.grows_acquire route
  rcases hacquire : pools.acquire route with ⟨fault | events, after⟩
  · rw [acquire_eq_error hacquire]
    exact grows_refl pools
  · obtain ⟨pool, registry, hregistry, rfl⟩ := acquire_eq_ok hacquire
    rw [hregistry] at hgrows
    exact ⟨hgrows, rfl⟩

end Wire.Pools

/-- A call makes one pool at most, and closes none. -/
theorem Executor.grows_execute (executor : Executor) (call : Call) (pools : Pools) :
    Pools.Grows pools (executor.execute Pools.link.channel call pools).world := by
  have hdraws := executor.draws_execute call pools
  rw [execute_pools]
  generalize (executor.execute Pools.link.noting.channel call (pools, [])).world = world at hdraws
  cases hdraws with
  | untouched => exact Pools.grows_refl pools
  | served secure events pool opened hacquire world hserved =>
      have hgrows := Pools.grows_acquire (executor.means.route call.transaction.proxy secure) pools
      rw [hacquire] at hgrows
      obtain ⟨names, hserves, -⟩ := hserved.serves
      exact ⟨hserves.registry ▸ hgrows.registry, hserves.closed.trans hgrows.closed⟩

namespace Session

/-- What closing a session does to its pools and what it puts on record. -/
theorem closed_of_registry {session : Session} (h : session.holding = .registry) :
    let pools := session.pools.registry.routes.map (·.2)
    let ended := session.closed
    ended.1 = ((pools.findSome? session.closing).map fun fault => closeFailed fault.text).toList ∧
      ended.2.pools.registry = { session.pools.registry with routes := [] } ∧
      ∃ asked, pools = asked ++ Pools.unreached session.closing pools ∧
        ended.2.pools.closed = session.pools.closed ++ asked.map (·.number) := by
  intro pools ended
  have hasks := Pools.closeEach_asks session.closing pools
    { session.pools with registry := { session.pools.registry with routes := [] }, current := none }
  have hended : ended = (((session.pools.close session.closing).1.map fun fault =>
        closeFailed fault.text).toList,
      { session with
        pools := (session.pools.close session.closing).2
        executor := none
        holding := .nothing }) := by
    simp only [ended, closed, h]
  rw [hended]
  obtain ⟨hfault, hregistry, asked, hasked, hclosed⟩ := hasks
  exact ⟨by rw [← hfault]; rfl, hregistry, asked, hasked, hclosed⟩

theorem closed_of_nothing {session : Session} (h : session.holding = .nothing) :
    session.closed = ([], { session with executor := none, holding := .nothing }) := by
  simp only [closed, h]
  rfl

namespace Life

/-- The pools in the registry of an open session. -/
def held (life : Life) : List Pool :=
  if life.session.holding = .registry then life.session.pools.registry.routes.map (·.2) else []

def has (opening : Nat) (life : Life) : Bool :=
  life.session.holding == .registry && life.past.length == opening + 1

theorem held_of_registry {life : Life} (h : life.session.holding = .registry) :
    life.held = life.session.pools.registry.routes.map (·.2) := by
  simp [held, h]

theorem held_of_nothing {life : Life} (h : life.session.holding = .nothing) : life.held = [] := by
  simp [held, h]

end Life

/-- The numbers of the pools that a step leaves to nobody. -/
def Step.abandoned (step : Step) : List Nat :=
  match step.operation with
  | .opening => step.before.held.map (·.number)
  | .acquisition opening _ =>
    if step.before.has opening then []
    else List.range' step.before.next (step.after.next - step.before.next)
  | .execution _ => []
  | .closing => (Pools.unreached step.before.session.closing step.before.held).map (·.number)

/-- The history of a session accounts for every pool that was made. -/
structure Accounts (closing : Pool → Option Fault) (history : List Step) (life : Life) :
    Prop where
  fails : life.session.closing = closing
  whole : life.session.holding = .registry ∨
    life.session.holding = .nothing ∧ life.session.executor = none
  placed : ∀ number, (life.held.map (·.number)).count number +
      life.session.pools.closed.count number +
      (history.flatMap (·.abandoned)).count number = (List.range life.next).count number

theorem accounts_new (settings : Settings) (processLocale : Option String)
    (network : Wire.Network) (closing : Pool → Option Fault) :
    Accounts closing [] (.new settings processLocale network closing) where
  fails := rfl
  whole := Or.inr ⟨rfl, rfl⟩
  placed := by simp [Life.new, Life.held, Life.next, Session.new]

variable {closing : Pool → Option Fault} {history : List Step} {life : Life}

/-- A step that has kept the session as it was, but for where its pools are. -/
theorem Accounts.of_step (haccounts : Accounts closing history life) {step : Step}
    (hfails : step.after.session.closing = life.session.closing)
    (hwhole : step.after.session.holding = .registry ∨
      step.after.session.holding = .nothing ∧ step.after.session.executor = none)
    (hplaced : ∀ number, (step.after.held.map (·.number)).count number +
        step.after.session.pools.closed.count number + step.abandoned.count number +
        (List.range life.next).count number =
      (life.held.map (·.number)).count number + life.session.pools.closed.count number +
        (List.range step.after.next).count number) :
    Accounts closing (history ++ [step]) step.after where
  fails := hfails.trans haccounts.fails
  whole := hwhole
  placed := by
    intro number
    have hbefore := haccounts.placed number
    have hafter := hplaced number
    rw [List.flatMap_append, List.count_append, List.flatMap_singleton]
    omega

/-- In an open session the pool that is made next comes into the registry. -/
theorem count_held_of_grows {pools : Pools} (hgrows : Pools.Grows life.session.pools pools)
    (hopen : life.session.holding = .registry) (number : Nat) :
    ((life.withPools pools).held.map (·.number)).count number +
        (List.range life.next).count number =
      (life.held.map (·.number)).count number +
        (List.range (life.withPools pools).next).count number := by
  have hafter : (life.withPools pools).session.holding = .registry := hopen
  rw [Life.held_of_registry hopen, Life.held_of_registry hafter]
  rcases hgrows.registry with hsame | ⟨route, pool, hnumber, hmore⟩
  · simp [Life.withPools, Life.next, hsame]
  · simp only [Life.withPools, Life.next, hmore, List.map_append, List.map_singleton,
      List.count_append, List.range_succ, hnumber]
    omega

/-- The numbers that are used up between one moment and a later one. -/
theorem range_append_range' {first last : Nat} (h : first ≤ last) :
    List.range first ++ List.range' first (last - first) = List.range last := by
  have happend := @List.range'_append_1 0 first (last - first)
  rwa [Nat.zero_add, Nat.add_sub_cancel' h, ← List.range_eq_range', ← List.range_eq_range']
    at happend

theorem Accounts.of_opening (haccounts : Accounts closing history life) :
    Accounts closing (history ++ [life.perform .opening]) (life.perform .opening).after := by
  apply haccounts.of_step rfl (Or.inl rfl)
  intro number
  have hheld : (life.perform .opening).after.held = [] := rfl
  have hnext : (life.perform .opening).after.next = life.next := rfl
  have hclosed : (life.perform .opening).after.session.pools.closed =
      life.session.pools.closed := rfl
  have habandoned : (life.perform .opening).abandoned = life.held.map (·.number) := rfl
  rw [hheld, hnext, hclosed, habandoned, List.map_nil, List.count_nil]
  omega

theorem next_closing (haccounts : Accounts closing history life) :
    (life.perform .closing).after.next = life.next := by
  change life.session.closed.2.pools.registry.next = life.session.pools.registry.next
  rcases haccounts.whole with hopen | ⟨hclosed, -⟩
  · rw [(closed_of_registry hopen).2.1]
  · rw [closed_of_nothing hclosed]

theorem Accounts.of_closing (haccounts : Accounts closing history life) :
    Accounts closing (history ++ [life.perform .closing]) (life.perform .closing).after := by
  apply haccounts.of_step rfl (Or.inr ⟨rfl, rfl⟩)
  intro number
  have hheld : (life.perform .closing).after.held = [] := rfl
  have habandoned : (life.perform .closing).abandoned =
      (Pools.unreached life.session.closing life.held).map (·.number) := rfl
  have hpools : (life.perform .closing).after.session.pools = life.session.closed.2.pools := rfl
  rw [hheld, habandoned, hpools, next_closing haccounts, List.map_nil, List.count_nil]
  rcases haccounts.whole with hopen | ⟨hclosed, -⟩
  · obtain ⟨-, -, asked, hasked, hclosed⟩ := closed_of_registry hopen
    rw [← Life.held_of_registry hopen] at hasked
    have hcount := congrArg (fun pools => (pools.map (·.number)).count number) hasked
    simp only [List.map_append, List.count_append] at hcount
    rw [hclosed, List.count_append]
    omega
  · simp [closed_of_nothing hclosed, Life.held_of_nothing hclosed, Pools.unreached]

theorem Accounts.of_execution (haccounts : Accounts closing history life) (call : Call) :
    Accounts closing (history ++ [life.perform (.execution call)])
      (life.perform (.execution call)).after := by
  have hsame : (life.perform (.execution call)).after =
      { life with session := (life.session.execute call).2.2 } := by
    rcases hended : life.session.execute call with ⟨fault | result, events, session⟩ <;>
      simp only [Life.perform, hended]
  have habandoned : (life.perform (.execution call)).abandoned = [] := by
    rcases hended : life.session.execute call with ⟨fault | result, events, session⟩ <;>
      simp only [Life.perform, hended, Step.abandoned]
  cases hexecutor : life.session.executor with
  | none =>
      have hafter : (life.perform (.execution call)).after = life := by
        rw [hsame]
        simp [execute, executor?, hexecutor]
      apply haccounts.of_step <;> rw [hafter]
      · exact haccounts.whole
      · simp [habandoned]
  | some executor =>
      let pools := (executor.execute Pools.link.channel call life.session.pools).world
      have hafter : (life.perform (.execution call)).after = life.withPools pools := by
        rw [hsame]
        simp [execute, executor?, hexecutor, Life.withPools, pools]
      have hopen : life.session.holding = .registry := by
        rcases haccounts.whole with hopen | ⟨-, hnone⟩
        · exact hopen
        · cases hexecutor.symm.trans hnone
      have hgrows : Pools.Grows life.session.pools pools :=
        executor.grows_execute call life.session.pools
      have hclosed : (life.withPools pools).session.pools.closed =
          life.session.pools.closed := hgrows.closed
      apply haccounts.of_step <;> rw [hafter]
      · rfl
      · exact Or.inl hopen
      · intro number
        have hcount := count_held_of_grows hgrows hopen number
        rw [habandoned, hclosed, List.count_nil]
        omega

theorem perform_acquisition (life : Life) (opening : Nat) (route : Route) :
    (life.perform (.acquisition opening route)).after = (life.acquire opening route).2 ∧
      (life.perform (.acquisition opening route)).abandoned =
        if life.has opening then []
        else List.range' life.next ((life.acquire opening route).2.next - life.next) := by
  rcases hended : life.acquire opening route with ⟨fault | events, after⟩ <;>
    simp only [Life.perform, hended, Step.abandoned, and_self]

theorem acquirePresent_eq (route : Route) (life : Life) :
    (life.acquirePresent route).2 = life.withPools (life.session.pools.acquire route).2 :=
  rfl

theorem acquire_of_has {opening : Nat} (h : life.has opening = true) (route : Route) :
    life.session.holding = .registry ∧
      (life.acquire opening route).2 = life.withPools (life.session.pools.acquire route).2 := by
  obtain ⟨hopen, hplace⟩ : life.session.holding = .registry ∧ life.past.length = opening + 1 := by
    simpa [Life.has] using h
  exact ⟨hopen, by rw [Life.acquire, if_pos hplace, acquirePresent_eq]⟩

/-- What an acquisition from a registry that the session has given up leaves alone. -/
structure Outside (before after : Life) : Prop where
  closing : after.session.closing = before.session.closing
  holding : after.session.holding = before.session.holding
  executor : after.session.executor = before.session.executor
  closed : after.session.pools.closed = before.session.pools.closed
  held : after.held = before.held
  next : before.next ≤ after.next

theorem outside_acquire {opening : Nat} (h : life.has opening = false) (route : Route)
    (hwhole : life.session.holding = .registry ∨ life.session.holding = .nothing) :
    Outside life (life.acquire opening route).2 := by
  unfold Life.acquire
  split
  case isTrue hplace =>
    have hclosed : life.session.holding = .nothing := by
      rcases hwhole with hopen | hclosed
      · simp [Life.has, hopen, hplace] at h
      · exact hclosed
    have hgrows := Pools.grows_acquire route life.session.pools
    rw [acquirePresent_eq]
    constructor
    case held =>
      have hafter : (life.withPools (life.session.pools.acquire route).2).held = [] :=
        Life.held_of_nothing hclosed
      rw [hafter, Life.held_of_nothing hclosed]
    case closed => exact hgrows.closed
    case next => exact hgrows.registry.next_le
    all_goals rfl
  · split
    case h_1 registry _ =>
      have hgrows := Registry.grows_acquire { registry with next := life.next } route
      exact ⟨rfl, rfl, rfl, rfl, rfl, hgrows.next_le⟩
    case h_2 => exact ⟨rfl, rfl, rfl, rfl, rfl, Nat.le_refl _⟩

theorem Accounts.of_acquisition (haccounts : Accounts closing history life) (opening : Nat)
    (route : Route) :
    Accounts closing (history ++ [life.perform (.acquisition opening route)])
      (life.perform (.acquisition opening route)).after := by
  obtain ⟨hafter, habandoned⟩ := perform_acquisition life opening route
  cases hhas : life.has opening with
  | true =>
      obtain ⟨hopen, hpresent⟩ := acquire_of_has hhas route
      have hgrows := Pools.grows_acquire route life.session.pools
      have hclosed : (life.withPools (life.session.pools.acquire route).2).session.pools.closed =
          life.session.pools.closed := hgrows.closed
      rw [hhas, if_pos rfl] at habandoned
      rw [hpresent] at hafter
      apply haccounts.of_step <;> rw [hafter]
      · rfl
      · exact Or.inl hopen
      · intro number
        have hcount := count_held_of_grows hgrows hopen number
        rw [habandoned, hclosed, List.count_nil]
        omega
  | false =>
      have houtside := outside_acquire hhas route (haccounts.whole.imp_right And.left)
      rw [hhas, if_neg Bool.false_ne_true] at habandoned
      apply haccounts.of_step <;> rw [hafter]
      · exact houtside.closing
      · rw [houtside.holding, houtside.executor]
        exact haccounts.whole
      · intro number
        -- What is made outside goes to nobody at once.
        have hused := congrArg (List.count number) (range_append_range' houtside.next)
        rw [List.count_append] at hused
        rw [houtside.held, houtside.closed, habandoned]
        omega

/-- Every operation leaves a session that its history accounts for. -/
theorem Accounts.of_perform (haccounts : Accounts closing history life) (operation : Operation) :
    Accounts closing (history ++ [life.perform operation]) (life.perform operation).after := by
  cases operation with
  | opening => exact haccounts.of_opening
  | acquisition opening route => exact haccounts.of_acquisition opening route
  | execution call => exact haccounts.of_execution call
  | closing => exact haccounts.of_closing

theorem Accounts.of_course (haccounts : Accounts closing history life)
    (operations : List Operation) :
    Accounts closing (history ++ life.course operations) (life.reached operations) := by
  induction operations generalizing history life with
  | nil => simpa [Life.course, Life.reached] using haccounts
  | cons operation rest ih =>
      have hrest := ih (haccounts.of_perform operation)
      rwa [List.append_assoc] at hrest

end Session

end MmsHttp
