import MmsHttp.Proofs.Executor.Dialling
import MmsHttp.Proofs.Executor.Worlds
import MmsHttp.Proofs.Wire.Service

/-!
Calls over the pools of a registry. A call leaves the pools alone, or takes one pool and is
served by it: every request goes out on that pool, and no name is looked up but those of the
hosts that the pool dials for these requests.
-/

namespace MmsHttp.Executor

open Link Wire

/-- What has become of a world in which a pool was taken: the pool has served the requests
noted since. -/
structure Served (pool : Pool) (opened : Pools) (world : Pools × Notes Pools) : Prop where
  current : world.1.current = some pool
  serves : ∃ names, Pools.Serves pool names opened world.1 ∧
    ∀ name ∈ names, ∃ note ∈ world.2, name = (Pools.dialled pool (.ofRequest note.1)).1
  found : ∀ note ∈ world.2, note.2.current = some pool

/-- The ways in which a call can draw on the pools of a registry. -/
inductive Draws (executor : Executor) (call : Call) (pools : Pools) :
    Pools × Notes Pools → Prop where
  | untouched : Draws executor call pools (pools, [])
  | served (secure : Bool) (events : List Event) (pool : Pool) (opened : Pools)
      (hacquire : pools.acquire (executor.means.route call.transaction.proxy secure) =
        (.ok events, opened))
      (world : Pools × Notes Pools) (hserved : Served pool opened world) :
      Draws executor call pools world

variable {pool : Pool} {opened : Pools} {world : Pools × Notes Pools}

theorem served_opened (hcurrent : opened.current = some pool) :
    Served pool opened (opened, []) where
  current := hcurrent
  serves := ⟨[], Pools.serves_refl pool opened, List.forall_mem_nil _⟩
  found := List.forall_mem_nil _

theorem Served.send (hserved : Served pool opened world) (core : LinkRequest) :
    Served pool opened (Pools.link.noting.send core world).2 := by
  obtain ⟨names, hserves, hnames⟩ := hserved.serves
  obtain ⟨more, hmore, hsent⟩ := Pools.serves_sendVia pool core world.1
  rw [← Pools.send_of_current hserved.current] at hsent
  rw [noting_send_world]
  constructor
  case current => exact hsent.current.trans hserved.current
  case serves =>
    refine ⟨names ++ more, hserves.trans hsent, ?_⟩
    intro name hmem
    rcases List.mem_append.mp hmem with hmem | hmem
    · obtain ⟨note, hnote, hname⟩ := hnames name hmem
      exact ⟨note, List.mem_append_left _ hnote, hname⟩
    · exact ⟨(core, world.1), List.mem_append_right _ (List.mem_singleton_self _), hmore name hmem⟩
  case found =>
    intro note hmem
    rcases List.mem_append.mp hmem with hmem | hmem
    · exact hserved.found note hmem
    · obtain rfl := List.mem_singleton.mp hmem
      exact hserved.current

theorem Served.release (hserved : Served pool opened world) (reading : Reading) :
    Served pool opened (Pools.link.noting.release reading world) := by
  obtain ⟨names, hserves, hnames⟩ := hserved.serves
  have hreleased := Pools.serves_release hserved.current reading
  constructor
  case current => exact hreleased.current.trans hserved.current
  case serves => exact ⟨names, hserves.then_quietly hreleased, hnames⟩
  case found => exact hserved.found

/-- A request of an exchange reaches the pool or changes nothing. -/
theorem Served.carry (hserved : Served pool opened world) (request : Outgoing) :
    Served pool opened (Pools.link.noting.carry request world).2 := by
  rw [carry_eq]
  cases LinkRequest.ofOutgoing request with
  | error fault => exact hserved
  | ok core =>
      have hsent := hserved.send core
      dsimp only
      rcases hsend : Pools.link.noting.send core world with ⟨fault | reply, after⟩ <;>
        rwa [hsend] at hsent

/-- Every call draws on the pools in one of these ways. -/
theorem draws_execute (executor : Executor) (call : Call) (pools : Pools) :
    Draws executor call pools
      (executor.execute Pools.link.noting.channel call (pools, [])).world := by
  let route (secure : Bool) : Route := executor.means.route call.transaction.proxy secure
  let Taken (world : Pools × Notes Pools) : Prop := ∃ secure events pool opened,
    pools.acquire (route secure) = (.ok events, opened) ∧ Served pool opened world
  have hrefused (secure : Bool) (fault : Fault) (after : Pools × Notes Pools)
      (hacquire : Pools.link.noting.channel.acquire (route secure) (pools, []) =
        (.error fault, after)) : Draws executor call pools after := by
    have hrefused : (pools.acquire (route secure)).1 = .error fault := (Prod.mk.inj hacquire).1
    have hafter : ((pools.acquire (route secure)).2, []) = after := (Prod.mk.inj hacquire).2
    have hsame : (pools.acquire (route secure)).2 = pools :=
      Pools.acquire_eq_error (Prod.ext hrefused rfl)
    rw [← hafter, hsame]
    exact .untouched
  have hacquired (secure : Bool) (events : List Event) (after : Pools × Notes Pools)
      (hacquire : Pools.link.noting.channel.acquire (route secure) (pools, []) =
        (.ok events, after)) : Taken after := by
    obtain ⟨htaken, rfl⟩ := Prod.mk.inj hacquire
    have hopened : pools.acquire (route secure) =
        (.ok events, (pools.acquire (route secure)).2) := Prod.ext htaken rfl
    obtain ⟨pool, registry, -, hafter⟩ := Pools.acquire_eq_ok hopened
    exact ⟨secure, events, pool, _, hopened, served_opened (by rw [hafter])⟩
  have hsend (request : Outgoing) (world : Pools × Notes Pools) (_ : True) :
      Taken world → Taken (Pools.link.noting.carry request world).2
    | ⟨secure, events, pool, opened, hacquire, hserved⟩ =>
      ⟨secure, events, pool, opened, hacquire, hserved.carry request⟩
  have hrelease (reading : Reading) (world : Pools × Notes Pools) :
      Taken world → Taken (Pools.link.noting.release reading world)
    | ⟨secure, events, pool, opened, hacquire, hserved⟩ =>
      ⟨secure, events, pool, opened, hacquire, hserved.release reading⟩
  rcases execute_preserves (fun _ => True) (Draws executor call pools) Taken
      (fun _ _ _ => trivial) (fun _ _ _ _ _ _ _ _ => trivial) hrefused hacquired hsend hrelease
      .untouched with hdraws | ⟨secure, events, pool, opened, hacquire, hserved⟩
  · exact hdraws
  · exact .served secure events pool opened hacquire _ hserved

theorem execute_pools (executor : Executor) (call : Call) (pools : Pools) :
    (executor.execute Pools.link.channel call pools).world =
      (executor.execute Pools.link.noting.channel call (pools, [])).world.1 := by
  rw [show executor.execute Pools.link.channel call pools = _ from
    execute_over Pools.link.noting_over executor call (pools, [])]
  rfl

end MmsHttp.Executor
