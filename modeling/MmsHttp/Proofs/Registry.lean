import Mathlib.Data.Finset.Card
import MmsHttp.Proofs.Fault
import MmsHttp.Registry.Course

/-!
What a single operation does to a registry, and what it preserves. The pools in a registry
are exactly those that were handed out since it was last closed, each under its own route;
whatever is handed out after a closing has a number of its own.
-/

namespace MmsHttp

namespace Registry

open Fault

/-- A pool as a route needs it: it speaks one version of the protocol within the limits, and
it leads through a proxy exactly where the route has one. -/
structure Serves (limits : PoolLimits) (route : Route) (pool : Pool) : Prop where
  http1 : pool.http1 = true
  http2 : pool.http2 = false
  limits : pool.limits = limits
  endpoint : route.proxy.mapM Proxy.endpoint = .ok pool.proxy
  proxied : pool.proxy.isSome = route.proxy.isSome

theorem isSome_of_mapM_eq_ok {find : Proxy → Except Fault Endpoint} {proxy : Option Proxy}
    {found : Option Endpoint} (h : proxy.mapM find = .ok found) :
    found.isSome = proxy.isSome := by
  cases proxy with
  | none =>
      obtain rfl := Except.ok.inj h
      rfl
  | some proxy =>
      obtain ⟨endpoint, _, h⟩ := bind_eq_ok_iff.mp h
      obtain rfl := Except.ok.inj h
      rfl

theorem newPool_eq_ok {registry : Registry} {route : Route} {pool : Pool}
    (h : registry.newPool route = .ok pool) :
    pool.number = registry.next ∧ Serves registry.limits route pool := by
  obtain ⟨proxy, hproxy, h⟩ := bind_eq_ok_iff.mp h
  obtain rfl := Except.ok.inj h
  exact ⟨rfl, rfl, rfl, rfl, hproxy, isSome_of_mapM_eq_ok hproxy⟩

theorem newPool_eq_error {registry : Registry} {route : Route} {fault : Fault}
    (h : registry.newPool route = .error fault) :
    route.proxy.mapM Proxy.endpoint = .error fault := by
  rcases bind_eq_error_iff.mp h with hproxy | ⟨_, _, h⟩
  · exact hproxy
  · cases h

theorem mem_of_find? {registry : Registry} {route : Route} {pool : Pool}
    (h : registry.find? route = some pool) : (route, pool) ∈ registry.routes := by
  obtain ⟨⟨own, found⟩, hfound, rfl⟩ := Option.map_eq_some_iff.mp h
  obtain rfl : own = route := by simpa using List.find?_some hfound
  exact List.mem_of_find?_eq_some hfound

theorem not_mem_of_find? {registry : Registry} {route : Route}
    (h : registry.find? route = none) : route ∉ registry.routes.map Prod.fst := by
  rw [find?, Option.map_eq_none_iff, List.find?_eq_none] at h
  intro hmem
  obtain ⟨entry, hentry, rfl⟩ := List.mem_map.mp hmem
  exact h entry hentry (beq_self_eq_true _)

/-- The ways in which an operation on a registry can go. -/
inductive Goes (registry : Registry) : Operation → Step → Prop where
  /-- The route has a pool already. -/
  | shares (route : Route) (pool : Pool) (hfound : (route, pool) ∈ registry.routes) :
      Goes registry (.acquire route) ⟨registry, .acquired route pool, [], registry⟩
  /-- A pool is made for the route. -/
  | makes (route : Route) (pool : Pool) (hnew : route ∉ registry.routes.map Prod.fst)
      (hpool : registry.newPool route = .ok pool) :
      Goes registry (.acquire route)
        ⟨registry, .acquired route pool, [newPoolEvent route (registry.routeCount + 1)],
          { registry with
            routes := registry.routes ++ [(route, pool)]
            next := registry.next + 1 }⟩
  /-- The proxy of the route cannot be read. -/
  | fails (route : Route) (fault : Fault)
      (hfault : route.proxy.mapM Proxy.endpoint = .error fault) :
      Goes registry (.acquire route) ⟨registry, .failed route fault, [], registry⟩
  | givesBack (borrowed : Pool) :
      Goes registry (.giveBack borrowed) ⟨registry, .givenBack borrowed, [], registry⟩
  | closes : Goes registry .close ⟨registry, .closed, [], { registry with routes := [] }⟩

theorem goes_perform (registry : Registry) (operation : Operation) :
    registry.Goes operation (registry.perform operation) := by
  cases operation with
  | acquire route =>
      cases hfound : registry.find? route with
      | some pool =>
          simp only [perform, acquire, hfound]
          exact .shares route pool (mem_of_find? hfound)
      | none =>
          cases hpool : registry.newPool route with
          | error fault =>
              simp only [perform, acquire, hfound, hpool]
              exact .fails route fault (newPool_eq_error hpool)
          | ok pool =>
              simp only [perform, acquire, hfound, hpool, List.length_append,
                List.length_singleton]
              exact .makes route pool (not_mem_of_find? hfound) hpool
  | giveBack borrowed => exact .givesBack borrowed
  | close => exact .closes

/-- A registry that has at most one pool more than before, with the next number. -/
def Grows (before after : Registry) : Prop :=
  after = before ∨ ∃ route pool, pool.number = before.next ∧ after =
    { before with routes := before.routes ++ [(route, pool)], next := before.next + 1 }

theorem grows_acquire (registry : Registry) (route : Route) :
    Grows registry (registry.acquire route).2 := by
  have hgoes := goes_perform registry (.acquire route)
  have hafter : (registry.perform (.acquire route)).after = (registry.acquire route).2 := by
    rcases hended : registry.acquire route with ⟨fault | ⟨pool, events⟩, after⟩ <;>
      simp only [perform, hended]
  rw [← hafter]
  generalize registry.perform (.acquire route) = step at hgoes
  cases hgoes with
  | shares => exact Or.inl rfl
  | makes route pool hnew hpool => exact Or.inr ⟨route, pool, (newPool_eq_ok hpool).1, rfl⟩
  | fails => exact Or.inl rfl

theorem acquire_eq_error {registry after : Registry} {route : Route} {fault : Fault}
    (h : registry.acquire route = (.error fault, after)) : after = registry := by
  unfold acquire at h
  split at h
  · cases h
  · split at h
    · exact (Prod.mk.inj h).2.symm
    · cases h

theorem acquire_of_empty {limits : PoolLimits} {next : Nat} {route : Route} {pool : Pool}
    {events : List Event} {after : Registry}
    (h : acquire { limits, next } route = (.ok (pool, events), after)) :
    pool.number = next ∧ Serves limits route pool ∧
      after = { limits, routes := [(route, pool)], next := next + 1 } := by
  have hnone : find? { limits, next } route = none := rfl
  simp only [acquire, hnone] at h
  cases hmade : newPool { limits, next } route with
  | error fault => simp [hmade] at h
  | ok made =>
      simp only [hmade, Prod.mk.injEq, Except.ok.injEq] at h
      obtain ⟨⟨rfl, -⟩, rfl⟩ := h
      obtain ⟨hnumber, hserves⟩ := newPool_eq_ok hmade
      exact ⟨hnumber, hserves, rfl⟩

theorem Grows.next_le {before after : Registry} (hgrows : Grows before after) :
    before.next ≤ after.next := by
  rcases hgrows with rfl | ⟨route, pool, -, rfl⟩
  · exact Nat.le_refl _
  · exact Nat.le_succ _

namespace Step

/-- The route and the pool of an acquisition that has succeeded. -/
def acquired? (step : Step) : Option (Route × Pool) :=
  match step.incident with
  | .acquired route pool => some (route, pool)
  | _ => none

def isClosing (step : Step) : Bool :=
  step.incident == .closed

end Step

/-- The steps since the last closing, of a history whose latest step comes first. -/
def sinceClosing (history : List Step) : List Step :=
  history.takeWhile (!·.isClosing)

def untilClosing (history : List Step) : List Step :=
  history.dropWhile (!·.isClosing)

theorem sinceClosing_cons {step : Step} (h : step.isClosing = false) (history : List Step) :
    sinceClosing (step :: history) = step :: sinceClosing history := by
  simp [sinceClosing, h]

theorem untilClosing_cons {step : Step} (h : step.isClosing = false) (history : List Step) :
    untilClosing (step :: history) = untilClosing history := by
  simp [untilClosing, h]

/-- The history of a registry, the latest step first, accounts for what is in it. -/
structure Accounts (limits : PoolLimits) (history : List Step) (registry : Registry) : Prop where
  bounded : registry.limits = limits
  listed : ∀ route pool, (route, pool) ∈ registry.routes ↔
    ∃ step ∈ sinceClosing history, step.acquired? = some (route, pool)
  distinct : (registry.routes.map Prod.fst).Nodup
  served : ∀ entry ∈ registry.routes, Serves limits entry.1 entry.2
  told : ∀ entry ∈ registry.routes, ∀ other ∈ registry.routes,
    entry.2.number = other.2.number → entry = other
  given : ∀ step ∈ history, ∀ entry, step.acquired? = some entry →
    entry.2.number < registry.next
  forgotten : ∀ step ∈ untilClosing history, ∀ entry, step.acquired? = some entry →
    ∀ kept ∈ registry.routes, entry.2.number ≠ kept.2.number

theorem accounts_nil (limits : PoolLimits) (next : Nat) :
    Accounts limits [] { limits, next } := by
  constructor <;> simp [sinceClosing, untilClosing]

variable {limits : PoolLimits} {history : List Step} {registry : Registry}

/-- Pools in the registry have been handed out, so their numbers are used up. -/
theorem Accounts.number_lt_next (haccounts : Accounts limits history registry)
    {entry : Route × Pool} (hentry : entry ∈ registry.routes) :
    entry.2.number < registry.next := by
  obtain ⟨step, hstep, hacquired⟩ := (haccounts.listed entry.1 entry.2).mp hentry
  exact haccounts.given step ((List.takeWhile_sublist _).mem hstep) entry hacquired

theorem Accounts.of_unchanged (haccounts : Accounts limits history registry) {step : Step}
    (hopen : step.isClosing = false)
    (hknown : ∀ entry, step.acquired? = some entry → entry ∈ registry.routes) :
    Accounts limits (step :: history) registry := by
  constructor
  case bounded => exact haccounts.bounded
  case listed =>
    intro route pool
    rw [sinceClosing_cons hopen, List.exists_mem_cons_iff, haccounts.listed]
    constructor
    · exact Or.inr
    · rintro (hown | hearlier)
      · exact (haccounts.listed route pool).mp (hknown _ hown)
      · exact hearlier
  case distinct => exact haccounts.distinct
  case served => exact haccounts.served
  case told => exact haccounts.told
  case given =>
    rintro other hother entry hentry
    rcases List.mem_cons.mp hother with rfl | hother
    · exact haccounts.number_lt_next (hknown entry hentry)
    · exact haccounts.given other hother entry hentry
  case forgotten =>
    rw [untilClosing_cons hopen]
    exact haccounts.forgotten

/-- A pool that is made takes the next number, which no pool has had before. -/
theorem Accounts.of_made (haccounts : Accounts limits history registry) {route : Route}
    {pool : Pool} (hnew : route ∉ registry.routes.map Prod.fst)
    (hpool : registry.newPool route = .ok pool) {step : Step}
    (hacquired : step.incident = .acquired route pool) :
    Accounts limits (step :: history)
      { registry with routes := registry.routes ++ [(route, pool)], next := registry.next + 1 } := by
  obtain ⟨hnumber, hserves⟩ := newPool_eq_ok hpool
  rw [haccounts.bounded] at hserves
  have hopen : step.isClosing = false := by simp [Step.isClosing, hacquired]
  have hentry : step.acquired? = some (route, pool) := by simp [Step.acquired?, hacquired]
  constructor
  case bounded => exact haccounts.bounded
  case listed =>
    intro other another
    rw [sinceClosing_cons hopen, List.exists_mem_cons_iff, ← haccounts.listed, hentry,
      List.mem_append, List.mem_singleton, Option.some_inj, or_comm, eq_comm]
  case distinct =>
    rw [List.map_append, List.map_singleton, ← List.concat_eq_append, List.nodup_concat]
    exact ⟨hnew, haccounts.distinct⟩
  case served =>
    intro entry hmem
    rcases List.mem_append.mp hmem with hmem | hmem
    · exact haccounts.served entry hmem
    · obtain rfl := List.mem_singleton.mp hmem
      exact hserves
  case told =>
    intro entry hmem other hother hsame
    -- Only the new pool has the next number.
    rcases List.mem_append.mp hmem with hmem | hmem <;>
      rcases List.mem_append.mp hother with hother | hother
    · exact haccounts.told entry hmem other hother hsame
    · obtain rfl := List.mem_singleton.mp hother
      exact absurd (hsame.trans hnumber) (haccounts.number_lt_next hmem).ne
    · obtain rfl := List.mem_singleton.mp hmem
      exact absurd (hsame.symm.trans hnumber) (haccounts.number_lt_next hother).ne
    · rw [List.mem_singleton.mp hmem, List.mem_singleton.mp hother]
  case given =>
    intro other hother entry hown
    rcases List.mem_cons.mp hother with rfl | hother
    · obtain rfl := Option.some.inj (hentry.symm.trans hown)
      exact hnumber ▸ Nat.lt_succ_self _
    · exact Nat.lt_succ_of_lt (haccounts.given other hother entry hown)
  case forgotten =>
    rw [untilClosing_cons hopen]
    intro other hother entry hown kept hkept
    rcases List.mem_append.mp hkept with hkept | hkept
    · exact haccounts.forgotten other hother entry hown kept hkept
    · obtain rfl := List.mem_singleton.mp hkept
      have hused := haccounts.given other ((List.dropWhile_sublist _).mem hother) entry hown
      exact hnumber ▸ hused.ne

/-- A closing leaves no pool, so nothing that was handed out before is kept. -/
theorem Accounts.of_closed (haccounts : Accounts limits history registry) {step : Step}
    (hclosed : step.incident = .closed) :
    Accounts limits (step :: history) { registry with routes := [] } := by
  have hnone : step.acquired? = none := by simp [Step.acquired?, hclosed]
  constructor
  case bounded => exact haccounts.bounded
  case listed => simp [sinceClosing, Step.isClosing, hclosed]
  case distinct => exact List.nodup_nil
  case served => simp
  case told => simp
  case given =>
    intro other hother entry hown
    rcases List.mem_cons.mp hother with rfl | hother
    · cases hnone.symm.trans hown
    · exact haccounts.given other hother entry hown
  case forgotten => simp

theorem Accounts.of_goes (haccounts : Accounts limits history registry) {operation : Operation}
    {step : Step} (hgoes : registry.Goes operation step) :
    Accounts limits (step :: history) step.after := by
  cases hgoes with
  | shares route pool hfound =>
      apply haccounts.of_unchanged rfl
      intro entry hentry
      obtain rfl := Option.some.inj hentry
      exact hfound
  | makes route pool hnew hpool => exact haccounts.of_made hnew hpool rfl
  | fails route fault => exact haccounts.of_unchanged rfl (by simp [Step.acquired?])
  | givesBack borrowed => exact haccounts.of_unchanged rfl (by simp [Step.acquired?])
  | closes => exact haccounts.of_closed rfl

/-- There are as many routes as have been acquired since the last closing. -/
theorem Accounts.routeCount_eq (haccounts : Accounts limits history registry) :
    registry.routeCount =
      ((sinceClosing history).filterMap fun step => step.acquired?.map Prod.fst).toFinset.card := by
  have hroutes : (registry.routes.map Prod.fst).toFinset =
      ((sinceClosing history).filterMap fun step => step.acquired?.map Prod.fst).toFinset := by
    ext route
    simp only [List.mem_toFinset, List.mem_map, List.mem_filterMap, Option.map_eq_some_iff,
      Prod.exists, exists_and_right, exists_eq_right, haccounts.listed]
    exact ⟨fun ⟨pool, step, hstep, h⟩ => ⟨step, hstep, pool, h⟩,
      fun ⟨step, hstep, pool, h⟩ => ⟨pool, step, hstep, h⟩⟩
  rw [← hroutes, List.toFinset_card_of_nodup haccounts.distinct, List.length_map, routeCount]

end Registry

end MmsHttp
