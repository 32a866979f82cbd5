import MmsHttp.Proofs.Wire.Service

/-!
Closing pools one after the other. Those up to the first that cannot be closed are asked to
close, in their order; where every one of them can be closed no connection of theirs is left.
-/

namespace MmsHttp.Wire.Pools

/-- The pools behind the first one that cannot be closed. -/
def unreached (fails : Pool → Option Fault) (pools : List Pool) : List Pool :=
  (pools.dropWhile fun pool => (fails pool).isNone).tail

theorem unreached_cons_of_none {fails : Pool → Option Fault} {pool : Pool} (h : fails pool = none)
    (rest : List Pool) : unreached fails (pool :: rest) = unreached fails rest := by
  simp [unreached, h]

theorem unreached_cons_of_some {fails : Pool → Option Fault} {pool : Pool} {fault : Fault}
    (h : fails pool = some fault) (rest : List Pool) : unreached fails (pool :: rest) = rest := by
  simp [unreached, h]

theorem unreached_of_none (pools : List Pool) : unreached (fun _ => none) pools = [] := by
  induction pools with
  | nil => rfl
  | cons pool rest ih => rw [unreached_cons_of_none rfl, ih]

/-- The pools of a closing that are asked to close, and what it comes to. -/
theorem closeEach_asks (fails : Pool → Option Fault) (gone : List Pool) (pools : Pools) :
    let ended := closeEach fails gone pools
    ended.1 = gone.findSome? fails ∧ ended.2.registry = pools.registry ∧
      ∃ asked, gone = asked ++ unreached fails gone ∧
        ended.2.closed = pools.closed ++ asked.map (·.number) := by
  induction gone generalizing pools with
  | nil => exact ⟨rfl, rfl, [], rfl, (List.append_nil _).symm⟩
  | cons pool rest ih =>
      rw [closeEach]
      cases hfails : fails pool with
      | some fault =>
          refine ⟨by simp [hfails], rfl, [pool], ?_, rfl⟩
          rw [unreached_cons_of_some hfails]
          rfl
      | none =>
          let marked : Pools := { pools with closed := pools.closed ++ [pool.number] }
          have hdropped := serves_dropEach pool (marked.connectionsOf pool) marked
          obtain ⟨hfault, hregistry, asked, hasked, hclosed⟩ := ih
            ((marked.connectionsOf pool).foldl (fun pools connection => pools.drop connection)
              marked)
          refine ⟨by simpa [hfails] using hfault, hregistry.trans hdropped.registry,
            pool :: asked, ?_, ?_⟩
          · rw [unreached_cons_of_none hfails, List.cons_append, ← hasked]
          · have hmarked := hclosed.trans (congrArg (· ++ _) hdropped.closed)
            simpa [marked] using hmarked

theorem dropEach_connections (gone : List Connection) (pools : Pools) :
    ∀ connection ∈ (gone.foldl (fun pools connection => pools.drop connection) pools).connections,
      connection ∈ pools.connections ∧ connection ∉ gone := by
  induction gone generalizing pools with
  | nil => exact fun connection hmem => ⟨hmem, List.not_mem_nil⟩
  | cons first rest ih =>
      intro connection hmem
      obtain ⟨hkept, hrest⟩ := ih (pools.drop first) connection hmem
      obtain ⟨hmem, hstream⟩ := List.mem_filter.mp hkept
      have hfirst : connection ≠ first := by
        rintro rfl
        simp at hstream
      exact ⟨hmem, List.not_mem_cons_of_ne_of_not_mem hfirst hrest⟩

theorem closeEach_connections (gone : List Pool) (pools : Pools) :
    ∀ connection ∈ (closeEach (fun _ => none) gone pools).2.connections,
      connection ∈ pools.connections ∧ ∀ pool ∈ gone, connection.pool ≠ pool.number := by
  induction gone generalizing pools with
  | nil => exact fun connection hmem => ⟨hmem, List.forall_mem_nil _⟩
  | cons first rest ih =>
      intro connection hmem
      rw [closeEach] at hmem
      obtain ⟨hkept, hrest⟩ := ih _ connection hmem
      obtain ⟨hmem, hother⟩ := dropEach_connections _ _ connection hkept
      refine ⟨hmem, List.forall_mem_cons.mpr ⟨?_, hrest⟩⟩
      intro hown
      apply hother
      exact List.mem_filter.mpr ⟨hmem, by simpa using hown⟩

theorem closeEach_lookups (fails : Pool → Option Fault) (gone : List Pool) (pools : Pools) :
    (closeEach fails gone pools).2.network.lookups = pools.network.lookups := by
  induction gone generalizing pools with
  | nil => rfl
  | cons pool rest ih =>
      rw [closeEach]
      cases hfails : fails pool with
      | some fault => rfl
      | none =>
          let marked : Pools := { pools with closed := pools.closed ++ [pool.number] }
          have hdropped := serves_dropEach pool (marked.connectionsOf pool) marked
          exact (ih _).trans (hdropped.asked.trans (List.append_nil _))

theorem close_eq (fails : Pool → Option Fault) (pools : Pools) :
    pools.close fails = closeEach fails (pools.registry.routes.map (·.2))
      { pools with registry := { pools.registry with routes := [] }, current := none } :=
  rfl

theorem close_connections (pools : Pools) :
    ∀ connection ∈ (pools.close fun _ => none).2.connections,
      connection ∈ pools.connections ∧
        ∀ entry ∈ pools.registry.routes, connection.pool ≠ entry.2.number := by
  intro connection hmem
  rw [close_eq] at hmem
  obtain ⟨hkept, hother⟩ := closeEach_connections _ _ connection hmem
  exact ⟨hkept, fun entry hentry => hother entry.2 (List.mem_map_of_mem hentry)⟩

theorem close_lookups (fails : Pool → Option Fault) (pools : Pools) :
    (pools.close fails).2.network.lookups = pools.network.lookups := by
  rw [close_eq, closeEach_lookups]

end MmsHttp.Wire.Pools
