import MmsHttp.Proofs.Registry
import MmsHttp.Proofs.Wire.Pooled

/-!
What a pool does to the world while it serves requests. It makes and drops connections of its
own and looks up the host that it dials; the registry, the pool in use and the record of closed
pools stay as they are.
-/

namespace MmsHttp.Wire

namespace Network

theorem write_lookups (place : Nat) (bytes : Bytes) (network : Network) :
    (network.write place bytes).2.lookups = network.lookups := by
  unfold write
  split <;> rfl

theorem startTls_lookups (place : Nat) (name : String) (network : Network) :
    (network.startTls place name).2.lookups = network.lookups :=
  rfl

theorem setParts_lookups (place : Nat) (parts : List Bytes) (network : Network) :
    (network.setParts place parts).lookups = network.lookups :=
  rfl

theorem connect_lookups (port : Int) (timeout : Binary64) (address : String) (network : Network) :
    (network.connect port timeout address).2.lookups = network.lookups := by
  unfold connect
  dsimp only
  split <;> rfl

theorem tryEach_lookups (port : Int) (timeout : Binary64) (last : LinkFault)
    (addresses : List String) (network : Network) :
    (Dial.tryEach (connect port timeout) last addresses network).2.lookups =
      network.lookups := by
  induction addresses generalizing last network with
  | nil => rfl
  | cons address rest ih =>
      have hattempt := connect_lookups port timeout address network
      rw [Dial.tryEach]
      rcases hended : network.connect port timeout address with ⟨fault | place, after⟩ <;>
        rw [hended] at hattempt
      · dsimp only at hattempt ⊢
        split
        · rw [ih, hattempt]
        · exact hattempt
      · exact hattempt

theorem dial_lookups (host : String) (port : Int) (timeout : Binary64) (network : Network) :
    (network.dial host port timeout).2.lookups = network.lookups ++ [host] := by
  unfold dial Resolver.system lookUp Dial.dial
  dsimp only
  split
  · rfl
  · exact tryEach_lookups ..

end Network

namespace Pools

open Network

theorem writeRequest_lookups (stream : Nat) (request : Request) (network : Network) :
    (writeRequest stream request network).2.lookups = network.lookups := by
  have hhead := write_lookups stream request.head network
  unfold writeRequest
  dsimp only
  rcases hended : network.write stream request.head with ⟨_ | fault, between⟩ <;>
    rw [hended] at hhead
  · have hbody := (write_lookups stream request.writtenBody.1 between).trans hhead
    dsimp only
    split
    · exact hbody
    · split <;> exact hbody
  · dsimp only
    split
    · exact hhead
    · split <;> exact hhead

theorem converse_lookups (stream : Nat) (buffer : Bytes) (request : Request) (network : Network) :
    (converse stream buffer request network).2.lookups = network.lookups := by
  have hwritten := writeRequest_lookups stream request network
  unfold converse
  split
  case h_1 hended => rwa [hended] at hwritten
  case h_2 hended => rwa [hended] at hwritten

theorem askForTunnel_lookups (origin : Origin) (stream : Nat) (network : Network) :
    (askForTunnel origin stream network).2.lookups = network.lookups := by
  unfold askForTunnel
  split
  · rfl
  case h_2 request _ =>
    have hasked := converse_lookups stream [] request network
    split
    case h_1 hended => rwa [hended] at hasked
    case h_2 hended =>
      rw [hended] at hasked
      split <;> exact hasked

theorem secure_lookups (origin : Origin) (stream : Nat) (network : Network) :
    (secure origin stream network).2.lookups = network.lookups := by
  unfold secure
  split <;> rfl

/-- What serving with a pool leaves as it was, and what it adds: connections of this pool, and
look-ups of the names given. -/
structure Serves (pool : Pool) (names : List String) (before after : Pools) : Prop where
  registry : after.registry = before.registry
  current : after.current = before.current
  closed : after.closed = before.closed
  owned : ∀ connection ∈ after.connections, connection.pool = pool.number ∨
    ∃ earlier ∈ before.connections, earlier.pool = connection.pool
  asked : after.network.lookups = before.network.lookups ++ names

variable {pool : Pool} {names more : List String} {before between after : Pools}

theorem serves_refl (pool : Pool) (pools : Pools) : Serves pool [] pools pools where
  registry := rfl
  current := rfl
  closed := rfl
  owned := fun connection hmem => Or.inr ⟨connection, hmem, rfl⟩
  asked := (List.append_nil _).symm

theorem Serves.trans (hfirst : Serves pool names before between)
    (hsecond : Serves pool more between after) : Serves pool (names ++ more) before after where
  registry := hsecond.registry.trans hfirst.registry
  current := hsecond.current.trans hfirst.current
  closed := hsecond.closed.trans hfirst.closed
  owned := by
    intro connection hmem
    rcases hsecond.owned connection hmem with hown | ⟨earlier, hearlier, hsame⟩
    · exact Or.inl hown
    · rw [← hsame]
      exact hfirst.owned earlier hearlier
  asked := by rw [hsecond.asked, hfirst.asked, List.append_assoc]

/-- After a step without look-ups. -/
theorem Serves.then_quietly (hfirst : Serves pool names before between)
    (hsecond : Serves pool [] between after) : Serves pool names before after := by
  simpa using hfirst.trans hsecond

/-- Behind a step without look-ups. -/
theorem Serves.behind (hsecond : Serves pool names between after)
    (hfirst : Serves pool [] before between) : Serves pool names before after := by
  simpa using hfirst.trans hsecond

theorem serves_network (pool : Pool) (pools : Pools) {network : Network}
    (hasked : network.lookups = pools.network.lookups ++ names) :
    Serves pool names pools { pools with network } where
  registry := rfl
  current := rfl
  closed := rfl
  owned := fun connection hmem => Or.inr ⟨connection, hmem, rfl⟩
  asked := hasked

theorem serves_drop (pool : Pool) (connection : Connection) (pools : Pools) :
    Serves pool [] pools (pools.drop connection) where
  registry := rfl
  current := rfl
  closed := rfl
  owned := fun other hmem => Or.inr ⟨other, (List.mem_filter.mp hmem).1, rfl⟩
  asked := (List.append_nil _).symm

theorem serves_dropEach (pool : Pool) (gone : List Connection) (pools : Pools) :
    Serves pool [] pools (gone.foldl (fun pools connection => pools.drop connection) pools) := by
  induction gone generalizing pools with
  | nil => exact serves_refl pool pools
  | cons connection rest ih => exact (serves_drop pool connection pools).trans (ih _)

theorem serves_tidy (pool : Pool) (pools : Pools) : Serves pool [] pools (pools.tidy pool) :=
  serves_dropEach pool _ pools

theorem serves_setUsage (pool : Pool) (stream : Nat) (usage : Usage) (pools : Pools) :
    Serves pool [] pools (pools.setUsage stream usage) where
  registry := rfl
  current := rfl
  closed := rfl
  owned := by
    intro connection hmem
    obtain ⟨earlier, hearlier, rfl⟩ := List.mem_map.mp hmem
    refine Or.inr ⟨earlier, hearlier, ?_⟩
    split <;> rfl
  asked := (List.append_nil _).symm

theorem serves_add {connection : Connection} (hown : connection.pool = pool.number)
    (pools : Pools) : Serves pool [] pools (pools.add connection) where
  registry := rfl
  current := rfl
  closed := rfl
  owned := by
    intro other hmem
    rcases List.mem_append.mp hmem with hmem | hmem
    · exact Or.inr ⟨other, hmem, rfl⟩
    · rw [List.mem_singleton.mp hmem]
      exact Or.inl hown
  asked := (List.append_nil _).symm

theorem serves_connect (pool : Pool) (origin : Origin) (timeout : Binary64) (pools : Pools) :
    Serves pool [(dialled pool origin).1] pools (connect pool origin timeout pools).2 := by
  have hdial := dial_lookups (dialled pool origin).1 (dialled pool origin).2 timeout pools.network
  unfold dialled at hdial ⊢
  unfold connect
  cases hproxy : pool.proxy with
  | none =>
      simp only [hproxy] at hdial ⊢
      rcases hended : pools.network.dial origin.host origin.port timeout with
        ⟨fault | stream, network⟩ <;> rw [hended] at hdial
      · exact serves_network pool pools hdial
      · have hsecure := secure_lookups origin stream network
        dsimp only at hdial ⊢
        rcases hsecured : secure origin stream network with ⟨_ | fault, secured⟩ <;>
          rw [hsecured] at hsecure
        · exact (serves_network pool pools (hsecure.trans hdial)).then_quietly (serves_add rfl _)
        · exact serves_network pool pools (hsecure.trans hdial)
  | some proxy =>
      simp only [hproxy] at hdial ⊢
      rcases hended : pools.network.dial proxy.host proxy.dialledPort timeout with
        ⟨fault | stream, network⟩ <;> rw [hended] at hdial
      · exact serves_network pool pools hdial
      · dsimp only at hdial ⊢
        split
        · exact (serves_network pool pools hdial).then_quietly (serves_add rfl _)
        · have hasked := askForTunnel_lookups origin stream network
          rcases htunnel : askForTunnel origin stream network with ⟨fault | _, asked⟩ <;>
            rw [htunnel] at hasked
          · exact serves_network pool pools (hasked.trans hdial)
          · dsimp only at hasked ⊢
            have hstarted := startTls_lookups stream origin.host asked
            rcases hsecured : asked.startTls stream origin.host with ⟨_ | fault, secured⟩ <;>
              rw [hsecured] at hstarted
            · exact (serves_network pool pools (hstarted.trans (hasked.trans hdial))).then_quietly
                (serves_add rfl _)
            · exact (serves_network pool pools (hstarted.trans (hasked.trans hdial))).then_quietly
                (serves_add rfl _)

theorem serves_obtain (pool : Pool) (origin : Origin) (timeout : Binary64) (pools : Pools) :
    ∃ names, (∀ name ∈ names, name = (dialled pool origin).1) ∧
      Serves pool names pools (obtain pool origin timeout pools).2 := by
  have hfresh (pools : Pools) : ∃ names, (∀ name ∈ names, name = (dialled pool origin).1) ∧
      Serves pool names pools (connect pool origin timeout pools).2 :=
    ⟨_, fun _ => List.mem_singleton.mp, serves_connect pool origin timeout pools⟩
  unfold obtain
  dsimp only
  split
  · exact ⟨[], nofun, serves_setUsage ..⟩
  · split
    · exact hfresh pools
    · split
      case h_1 idle _ =>
        obtain ⟨names, hnames, hserves⟩ := hfresh (pools.drop idle)
        exact ⟨names, hnames, hserves.behind (serves_drop ..)⟩
      case h_2 => exact ⟨[], nofun, serves_refl ..⟩

theorem serves_sendOver (pool : Pool) (connection : Connection) (buffer : Bytes)
    (request : LinkRequest) (pools : Pools) :
    Serves pool [] pools (sendOver pool connection buffer request pools).2 := by
  unfold sendOver
  split
  · exact serves_drop ..
  case h_2 wire _ =>
    have hspoken := converse_lookups connection.stream buffer wire pools.network
    split
    case h_1 fault network hended =>
      rw [hended] at hspoken
      exact (serves_network pool pools (by simpa using hspoken)).then_quietly (serves_drop ..)
    case h_2 network hended =>
      rw [hended] at hspoken
      have hrest (coming : List Bytes) :
          (network.setParts connection.stream coming).lookups = pools.network.lookups ++ [] := by
        simpa [setParts_lookups] using hspoken
      exact (serves_network pool pools (hrest _)).then_quietly (serves_setUsage ..)

/-- A request looks up at most the host that its pool dials for it. -/
theorem serves_sendVia (pool : Pool) (request : LinkRequest) (pools : Pools) :
    ∃ names, (∀ name ∈ names, name = (dialled pool (.ofRequest request)).1) ∧
      Serves pool names pools (sendVia pool request pools).2 := by
  obtain ⟨names, hnames, hobtained⟩ :=
    serves_obtain pool (.ofRequest request) request.timeout (pools.tidy pool)
  unfold sendVia
  split
  · exact ⟨[], nofun, serves_refl ..⟩
  · rcases hended : obtain pool (.ofRequest request) request.timeout (pools.tidy pool) with
      ⟨fault | ⟨connection, buffer⟩, ready⟩ <;> rw [hended] at hobtained
    · exact ⟨names, hnames, (hobtained.behind (serves_tidy ..)).then_quietly (serves_tidy ..)⟩
    · have hready := hobtained.behind (serves_tidy ..)
      have hsent := serves_sendOver pool connection buffer request ready
      dsimp only at hready ⊢
      rcases hover : sendOver pool connection buffer request ready with ⟨fault | reply, sent⟩ <;>
        rw [hover] at hsent
      · exact ⟨names, hnames, (hready.then_quietly hsent).then_quietly (serves_tidy ..)⟩
      · exact ⟨names, hnames, hready.then_quietly hsent⟩

/-- Acquiring takes a pool from the registry and makes it the one in use. -/
theorem acquire_eq_ok {route : Route} {pools opened : Pools} {events : List Event}
    (h : pools.acquire route = (.ok events, opened)) :
    ∃ pool registry, pools.registry.acquire route = (.ok (pool, events), registry) ∧
      opened = { pools with registry, current := some pool } := by
  unfold acquire at h
  split at h
  · cases h
  case h_2 pool own registry hown =>
    obtain ⟨houtcome, rfl⟩ := Prod.mk.inj h
    obtain rfl := Except.ok.inj houtcome
    exact ⟨pool, registry, hown, rfl⟩

theorem acquire_eq_error {route : Route} {pools after : Pools} {fault : Fault}
    (h : pools.acquire route = (.error fault, after)) : after = pools := by
  unfold acquire at h
  split at h
  case h_1 own registry hown =>
    obtain ⟨-, rfl⟩ := Prod.mk.inj h
    rw [Registry.acquire_eq_error hown]
  · cases h

theorem send_of_current {pools : Pools} (hcurrent : pools.current = some pool)
    (request : LinkRequest) : link.send request pools = sendVia pool request pools := by
  simp only [link, send, hcurrent]

theorem serves_release {pools : Pools} (hcurrent : pools.current = some pool) (reading : Reading) :
    Serves pool [] pools (link.release reading pools) := by
  simp only [link, release, hcurrent]
  split
  · exact serves_refl ..
  · refine Serves.then_quietly ?_ (serves_tidy ..)
    split
    · exact serves_setUsage ..
    · exact serves_drop ..

end Pools

end MmsHttp.Wire
