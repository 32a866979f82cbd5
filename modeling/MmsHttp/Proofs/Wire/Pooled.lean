import MmsHttp.Wire.Pooled

namespace MmsHttp.Wire.Pools

/-- Where a pool makes its connections for an origin: the host and the port. -/
def dialled (pool : Pool) (origin : Origin) : String × Int :=
  match pool.proxy with
  | none => (origin.host, origin.port)
  | some proxy => (proxy.host, proxy.dialledPort)

variable {pool : Pool} {pools : Pools} {fault : LinkFault}

theorem connect_of_undialled {origin : Origin} {timeout : Binary64}
    (hdial : (pools.network.dial (dialled pool origin).1 (dialled pool origin).2 timeout).1 =
      .error fault) :
    (connect pool origin timeout pools).1 = .error fault := by
  unfold dialled at hdial
  cases hproxy : pool.proxy with
  | none =>
      rw [hproxy] at hdial
      obtain ⟨after, hended⟩ : ∃ after,
          pools.network.dial origin.host origin.port timeout = (.error fault, after) :=
        ⟨_, Prod.ext hdial rfl⟩
      simp only [connect, hproxy, hended]
  | some proxy =>
      rw [hproxy] at hdial
      obtain ⟨after, hended⟩ : ∃ after,
          pools.network.dial proxy.host proxy.dialledPort timeout = (.error fault, after) :=
        ⟨_, Prod.ext hdial rfl⟩
      simp only [connect, hproxy, hended]

/-- Without an idle connection, a pool with room for another one makes it. -/
theorem obtain_of_busy (origin : Origin) (timeout : Binary64)
    (hbusy : ∀ connection ∈ pools.connectionsOf pool, connection.isIdle = false)
    (hroom : ((pools.connectionsOf pool).length : Int) < pool.limits.maxConnections) :
    (obtain pool origin timeout pools).1 =
      (connect pool origin timeout pools).1.map fun connection => (connection, []) := by
  unfold obtain
  dsimp only
  split
  case h_1 hfound =>
    obtain ⟨connection, hmem, husable⟩ := List.exists_of_findSome?_eq_some hfound
    have hidle := hbusy connection hmem
    split at husable
    case h_1 husage => simp [Connection.isIdle, husage] at hidle
    case h_2 => cases husable
  case h_2 => rw [if_pos hroom]

theorem send_of_undialled {request : LinkRequest} (hcurrent : pools.current = some pool)
    (hscheme : schemeFault? request.scheme = none)
    (hbusy : ∀ connection ∈ (pools.tidy pool).connectionsOf pool, connection.isIdle = false)
    (hroom : (((pools.tidy pool).connectionsOf pool).length : Int) < pool.limits.maxConnections)
    (hdial : ((pools.tidy pool).network.dial (dialled pool (.ofRequest request)).1
      (dialled pool (.ofRequest request)).2 request.timeout).1 = .error fault) :
    (link.send request pools).1 = .error fault := by
  have hobtain := obtain_of_busy (.ofRequest request) request.timeout hbusy hroom
  rw [connect_of_undialled hdial] at hobtain
  obtain ⟨after, hended⟩ : ∃ after,
      obtain pool (.ofRequest request) request.timeout (pools.tidy pool) = (.error fault, after) :=
    ⟨_, Prod.ext hobtain rfl⟩
  simp only [link, send, hcurrent, sendVia, hscheme, hended]

end MmsHttp.Wire.Pools
