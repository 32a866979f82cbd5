import MmsHttp.CommandLine.Program
import MmsHttp.Proofs.Executor.Records
import MmsHttp.Proofs.Executor.Traffic
import MmsHttp.Proofs.Session.Custody

/-!
The session of a program. It is opened, has one transaction executed and is closed again; then
no connection is left, and every pool that was made has been closed. The message of a command
goes out with the first request, and the settings decide whether that is through a proxy.
-/

namespace MmsHttp

open Wire

/-- A session that has been closed for good. -/
structure Session.Shut (session : Session) : Prop where
  executor : session.executor? = .error (notInitialized "executor")
  registry : session.routeCount? = .error (notInitialized "connection_pool")
  emptied : session.pools.registry.routes = []
  disconnected : session.pools.connections = []
  closed : session.pools.closed = List.range session.pools.registry.next

namespace CommandLine

open Executor Link

def begun (surroundings : Surroundings) (settings : Settings) : Session :=
  (Session.new settings surroundings.locale surroundings.network).opened

def executor (surroundings : Surroundings) (settings : Settings) : Executor :=
  { locale := (begun surroundings settings).locale }

section Session

variable (command : Command) (payload : Option Bytes) (surroundings : Surroundings)
  (settings : Settings)

def exchanged : Except Fault Result × List Event × Session :=
  (begun surroundings settings).execute (command.call payload settings surroundings.clock)

def ended : Session :=
  (exchanged command payload surroundings settings).2.2.closed.2

/-- What the transaction sends, each request with the pools that it finds. -/
def noted : Notes Pools :=
  (executor surroundings settings).sentOver Pools.link
    (command.call payload settings surroundings.clock) (begun surroundings settings).pools

/-- What a program sends, and the names that it looks up. -/
structure Traffic (notes : Notes Pools) (names : List String) : Prop where
  fetches : command.message = none → ∀ note ∈ notes, note.1.body = []
  carries : ∀ path, command.message = some (some path) → ∃ message,
    surroundings.files.read (.ofText path) = .ok message ∧
      (notes = [] ∨ BeginsWith message notes)
  proxied : notes = [] ∧ names = [] ∨ ∃ pool : Pool,
    settings.proxy.mapM Proxy.endpoint = .ok pool.proxy ∧
      pool.proxy.isSome = settings.proxyEnabled ∧
      (∀ note ∈ notes, note.2.current = some pool) ∧
      ∀ name ∈ names, ∃ note ∈ notes, name = (Pools.dialled pool (.ofRequest note.1)).1

variable {command payload surroundings settings}

theorem noted_of_get (hget : command.message = none) :
    ∀ note ∈ noted command payload surroundings settings, note.1.body = [] := by
  apply sentOver_empty
  simp [Command.call, hget]

theorem payload_of_post {path : String} (hpost : command.message = some (some path))
    (hpayload : command.payload surroundings.files = .ok payload) :
    ∃ message, surroundings.files.read (.ofText path) = .ok message ∧ payload = some message := by
  simp only [Command.payload, hpost] at hpayload
  cases hread : surroundings.files.read (.ofText path) with
  | error fault => simp [hread, Except.map] at hpayload
  | ok message =>
      rw [hread] at hpayload
      exact ⟨message, rfl, (Except.ok.inj hpayload).symm⟩

theorem noted_of_post {path : String} (hpost : command.message = some (some path))
    (message : Bytes) :
    noted command (some message) surroundings settings = [] ∨
      BeginsWith message (noted command (some message) surroundings settings) := by
  have hcontent : ((executor surroundings settings).requestOf
      (command.call (some message) settings surroundings.clock)).content = some message := by
    simp [requestOf, Request.assemble, Command.call, hpost]
  have hbegins := sentOver_begins (executor surroundings settings) Pools.link
    (command.call (some message) settings surroundings.clock) (begun surroundings settings).pools
  rwa [hcontent] at hbegins

theorem exchanged_eq :
    exchanged command payload surroundings settings =
      let run := (executor surroundings settings).execute Pools.link.channel
        (command.call payload settings surroundings.clock) (begun surroundings settings).pools
      (run.answer, run.events, { begun surroundings settings with pools := run.world }) :=
  rfl

/-- What has become of fresh pools when a transaction is over: none was made, or one, which has
served whatever was sent. -/
inductive Drawn (settings : Settings) (start after : Pools) (notes : Notes Pools) : Prop where
  | untouched (hnotes : notes = []) (hafter : after = start)
  | served (pool : Pool) (route : Route) (names : List String)
      (hendpoint : settings.proxy.mapM Proxy.endpoint = .ok pool.proxy)
      (hnumber : pool.number = start.registry.next)
      (hregistry : after.registry =
        { start.registry with routes := [(route, pool)], next := start.registry.next + 1 })
      (hclosed : after.closed = start.closed)
      (howned : ∀ connection ∈ after.connections, connection.pool = pool.number)
      (hfound : ∀ note ∈ notes, note.2.current = some pool)
      (hasked : after.network.lookups = start.network.lookups ++ names)
      (hnames : ∀ name ∈ names, ∃ note ∈ notes, name = (Pools.dialled pool (.ofRequest note.1)).1)

theorem drawn_exchanged (command : Command) (payload : Option Bytes)
    (surroundings : Surroundings) (settings : Settings) :
    Drawn settings (begun surroundings settings).pools
      (exchanged command payload surroundings settings).2.2.pools
      (noted command payload surroundings settings) := by
  have hdraws := (executor surroundings settings).draws_execute
    (command.call payload settings surroundings.clock) (begun surroundings settings).pools
  have hpools : (exchanged command payload surroundings settings).2.2.pools = _ :=
    (executor surroundings settings).execute_pools
      (command.call payload settings surroundings.clock) (begun surroundings settings).pools
  rw [hpools]
  unfold noted sentOver
  generalize ((executor surroundings settings).execute Pools.link.noting.channel
    (command.call payload settings surroundings.clock)
    ((begun surroundings settings).pools, [])).world = world at hdraws
  cases hdraws with
  | untouched => exact .untouched rfl rfl
  | served secure events pool opened hacquire world hserved =>
      obtain ⟨own, registry, hregistry, rfl⟩ := Pools.acquire_eq_ok hacquire
      obtain ⟨hnumber, hserves, hafter⟩ := Registry.acquire_of_empty hregistry
      obtain ⟨names, hserved', hnames⟩ := hserved.serves
      have hown : pool = own := by
        have hcurrent := hserved'.current.symm.trans hserved.current
        exact (Option.some.inj hcurrent).symm
      subst hown
      refine .served pool _ names hserves.endpoint hnumber (hserved'.registry.trans hafter)
        hserved'.closed ?_ hserved.found hserved'.asked hnames
      intro connection hmem
      rcases hserved'.owned connection hmem with howned | ⟨earlier, hearlier, -⟩
      · exact howned
      · cases hearlier

/-- The session of a program is closed before anything is done with its result, and nothing
goes wrong in that. -/
theorem shut_ended (command : Command) (payload : Option Bytes) (surroundings : Surroundings)
    (settings : Settings) :
    (ended command payload surroundings settings).Shut ∧
      (exchanged command payload surroundings settings).2.2.closed.1 = [] := by
  have hdrawn := drawn_exchanged command payload surroundings settings
  unfold ended
  rw [exchanged_eq] at hdrawn ⊢
  dsimp only at hdrawn ⊢
  generalize ((executor surroundings settings).execute Pools.link.channel
    (command.call payload settings surroundings.clock)
    (begun surroundings settings).pools).world = after at hdrawn ⊢
  let session : Session := { begun surroundings settings with pools := after }
  obtain ⟨hevents, hregistry, asked, hasked, hclosed⟩ :=
    Session.closed_of_registry (show session.holding = .registry from rfl)
  have hnone : session.closing = fun _ => none := rfl
  rw [hnone, Pools.unreached_of_none, List.append_nil] at hasked
  rw [← hasked] at hclosed
  have hquiet : session.closed.1 = [] := by
    rw [hevents, hnone]
    simp
  refine ⟨?_, hquiet⟩
  constructor
  case executor => rfl
  case registry => rfl
  case emptied => rw [hregistry]
  case disconnected =>
    apply List.eq_nil_iff_forall_not_mem.mpr
    intro connection hmem
    obtain ⟨hafter, hother⟩ := Pools.close_connections session.pools connection hmem
    cases hdrawn with
    | untouched hnotes hsame =>
        rw [show session.pools = _ from hsame] at hafter
        cases hafter
    | served pool route names hendpoint hnumber hroutes _ howned =>
        refine hother (route, pool) ?_ (howned connection hafter)
        rw [show session.pools.registry = _ from hroutes]
        exact List.mem_singleton_self _
  case closed =>
    rw [hclosed, hregistry]
    cases hdrawn with
    | untouched hnotes hsame => rw [show session.pools = _ from hsame]; rfl
    | served pool route names hendpoint hnumber hroutes hsame =>
        have hbefore : after.closed = [] := hsame
        have hpools : session.pools = after := rfl
        rw [hpools, hbefore, hroutes]
        simp [hnumber, begun, Session.opened, Session.new, Pools.renew]

theorem traffic_noted (hpayload : command.payload surroundings.files = .ok payload) :
    ∃ names, (ended command payload surroundings settings).pools.network.lookups =
        surroundings.network.lookups ++ names ∧
      Traffic command surroundings settings (noted command payload surroundings settings) names := by
  have hproxied : settings.proxy.isSome = settings.proxyEnabled := by
    unfold Settings.proxy Proxy.ofFlag
    split <;> simp [*]
  have hfetches : command.message = none →
      ∀ note ∈ noted command payload surroundings settings, note.1.body = [] := noted_of_get
  have hcarries (path : String) (hpost : command.message = some (some path)) :
      ∃ message, surroundings.files.read (.ofText path) = .ok message ∧
        (noted command payload surroundings settings = [] ∨
          BeginsWith message (noted command payload surroundings settings)) := by
    obtain ⟨message, hread, rfl⟩ := payload_of_post hpost hpayload
    exact ⟨message, hread, noted_of_post hpost message⟩
  have hlookups : (ended command payload surroundings settings).pools.network.lookups =
      (exchanged command payload surroundings settings).2.2.pools.network.lookups :=
    Pools.close_lookups (fun _ => none) _
  rw [hlookups]
  cases drawn_exchanged command payload surroundings settings with
  | untouched hnotes hafter =>
      refine ⟨[], by rw [hafter, List.append_nil]; rfl, hfetches, hcarries, Or.inl ⟨hnotes, rfl⟩⟩
  | served pool route names hendpoint hnumber hregistry hclosed howned hfound hasked hnames =>
      refine ⟨names, hasked, hfetches, hcarries, Or.inr ⟨pool, hendpoint, ?_, hfound, hnames⟩⟩
      rw [Registry.isSome_of_mapM_eq_ok hendpoint, hproxied]

end Session

end CommandLine

end MmsHttp
