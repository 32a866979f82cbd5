import MmsHttp.Proofs.Executor.Ways
import MmsHttp.Wire.Pooled

namespace MmsHttp

namespace Event

/-- A remark on the traffic. -/
def IsRemark (event : Event) : Prop :=
  ∃ rest, event.message.toList = "HTTP: ".toList ++ rest

/-- A record as calls leave them. -/
def IsOfCall (event : Event) : Prop :=
  event.IsRemark ∨
    event.message ∈ ["mms_http_request", "mms_http_failed", "mms_http_completed"]

end Event

/-- A channel that only makes remarks when it is acquired. -/
def Channel.Remarks {σ : Type} (channel : Channel σ) : Prop :=
  ∀ route world events after, channel.acquire route world = (.ok events, after) →
    ∀ event ∈ events, event.IsRemark

namespace Executor

variable {σ : Type} {bound : Fields}

theorem isOfCall_failedEvent (failure : Failure) : (failedEvent bound failure).IsOfCall :=
  Or.inr (by simp [failedEvent, Event.named])

theorem isOfCall_requestedEvent (t : Transaction) : (requestedEvent bound t).IsOfCall :=
  Or.inr (by simp [requestedEvent, Event.named])

theorem isRemark_headersEvent (headers : List Header) :
    (headersEvent bound headers).IsRemark :=
  ⟨_, by simp [headersEvent]; rfl⟩

theorem isRemark_sendingEvents (request : Request) :
    ∀ event ∈ sendingEvents bound request, event.IsRemark := by
  intro event hmem
  simp only [sendingEvents, List.mem_cons, List.not_mem_nil, or_false] at hmem
  rcases hmem with rfl | rfl
  · exact ⟨_, by simp; rfl⟩
  · exact isRemark_headersEvent _

theorem isRemark_assemblyEvents (t : Transaction) :
    ∀ event ∈ Request.assemblyEvents bound t, event.IsRemark := by
  intro event hmem
  obtain ⟨name, _, rfl⟩ := List.mem_map.mp hmem
  exact ⟨_, by simp [Request.unknownMacro]; rfl⟩

theorem isOfCall_preparing (executor : Executor) (call : Call) :
    ∀ event ∈ executor.preparing call, event.IsOfCall := by
  intro event hmem
  rcases List.mem_cons.mp hmem with rfl | hmem
  · exact isOfCall_requestedEvent _
  · exact Or.inl (isRemark_assemblyEvents _ event hmem)

theorem isOfCall_refuse {events : List Event} (hevents : ∀ event ∈ events, event.IsOfCall)
    (refusal : Refusal) (world : σ) :
    ∀ event ∈ (refuse bound events refusal world).events, event.IsOfCall := by
  cases refusal with
  | fault fault => exact hevents
  | failure failure =>
      intro event hmem
      rcases List.mem_append.mp hmem with hmem | hmem
      · exact hevents event hmem
      · obtain rfl := List.mem_singleton.mp hmem
        exact isOfCall_failedEvent failure

theorem isOfCall_conclude (channel : Channel σ) (response : Incoming) (world : σ) :
    ∀ event ∈ (conclude bound channel response world).events, event.IsOfCall := by
  let status : Event := ⟨.debug, s!"HTTP: {response.status} " ++ response.phrase, bound⟩
  have hstatus : status.IsOfCall := Or.inl ⟨_, by simp [status]; rfl⟩
  have hsize (length : Nat) :
      (⟨.debug, s!"HTTP: response size={length}", bound⟩ : Event).IsOfCall :=
    Or.inl ⟨_, by simp; rfl⟩
  have hcompleted (length : Nat) : (completedEvent bound response.status length).IsOfCall :=
    Or.inr (by simp [completedEvent, Event.named])
  unfold conclude
  dsimp only
  split
  · simpa using ⟨hstatus, isOfCall_failedEvent _⟩
  · split
    · simpa using ⟨hstatus, Or.inl (isRemark_headersEvent _), hsize _, hcompleted _⟩
    · simpa using ⟨hstatus, Or.inl (isRemark_headersEvent _)⟩

theorem isOfCall_report {run : Run σ} (hrun : ∀ event ∈ run.events, event.IsOfCall) :
    ∀ event ∈ (report bound run).events, event.IsOfCall := by
  unfold report
  split
  · exact hrun
  · split
    · intro event hmem
      rcases List.mem_append.mp hmem with hmem | hmem
      · exact hrun event hmem
      · obtain rfl := List.mem_singleton.mp hmem
        exact isOfCall_failedEvent _
    · exact hrun

/-- The records of a client are those of its channel. -/
theorem forall_events_of_open? {channel : Channel σ} {holds : Event → Prop}
    (hchannel : ∀ route world events after, channel.acquire route world = (.ok events, after) →
      ∀ event ∈ events, holds event)
    {means : Client.Means} {scheme : String} {proxy : Option Proxy} {timeoutMillis : Int}
    {world after : σ} {client : Except Fault Client} {events : List Event}
    (hopen : Client.open? channel means scheme proxy timeoutMillis world =
      (client, events, after)) :
    ∀ event ∈ events, holds event := by
  unfold Client.open? at hopen
  split at hopen
  · obtain ⟨-, rfl, -⟩ : _ ∧ [] = events ∧ _ := by simpa using hopen
    exact List.forall_mem_nil _
  · split at hopen
    · obtain ⟨-, rfl, -⟩ : _ ∧ [] = events ∧ _ := by simpa using hopen
      exact List.forall_mem_nil _
    case h_2 own world hacquire =>
      obtain ⟨-, rfl, -⟩ := by simpa using hopen
      exact hchannel _ _ _ _ hacquire

theorem isOfCall_open? {channel : Channel σ} (hchannel : channel.Remarks) {means : Client.Means}
    {scheme : String} {proxy : Option Proxy} {timeoutMillis : Int} {world after : σ}
    {client : Except Fault Client} {events : List Event}
    (hopen : Client.open? channel means scheme proxy timeoutMillis world =
      (client, events, after)) :
    ∀ event ∈ events, event.IsOfCall :=
  fun event hmem => Or.inl (forall_events_of_open? hchannel hopen event hmem)

theorem Sends.isOfCall {executor : Executor} {channel : Channel σ} (hchannel : channel.Remarks)
    {call : Call} {url : Url} {request : Request} {world : σ} {run : Run σ}
    (hsends : Sends executor channel call url request world run) :
    ∀ event ∈ run.events, event.IsOfCall := by
  cases hsends with
  | unopened fault events after hopen => exact isOfCall_open? hchannel hopen
  | unmade client events opened hopen => exact isOfCall_open? hchannel hopen
  | interrupted client events opened hopen => exact isOfCall_open? hchannel hopen
  | concluded client events opened hopen first response after =>
      intro event hmem
      rcases List.mem_append.mp hmem with hmem | hmem
      · exact isOfCall_open? hchannel hopen event hmem
      · exact isOfCall_conclude channel response after event hmem

theorem isOfCall_execute (executor : Executor) {channel : Channel σ} (hchannel : channel.Remarks)
    (call : Call) (world : σ) :
    ∀ event ∈ (executor.execute channel call world).events, event.IsOfCall := by
  have hends := ends_execute executor channel call world
  generalize executor.execute channel call world = run at hends
  cases hends with
  | unwritable => exact List.forall_mem_nil _
  | refused refusal hcheck =>
      exact isOfCall_refuse (by simpa using isOfCall_requestedEvent _) refusal world
  | unsendable failure hheaders => exact isOfCall_refuse (isOfCall_preparing executor call) _ world
  | sent url run hsends =>
      intro event hmem
      rcases List.mem_append.mp hmem with hmem | hmem
      · rcases List.mem_append.mp hmem with hmem | hmem
        · exact isOfCall_preparing executor call event hmem
        · exact Or.inl (isRemark_sendingEvents _ event hmem)
      · exact isOfCall_report (hsends.isOfCall hchannel) event hmem

/-- The pools of a registry only remark on those that they make. -/
theorem remarks_pools : Wire.Pools.link.channel.Remarks := by
  intro route pools events after hacquire
  change pools.acquire route = _ at hacquire
  unfold Wire.Pools.acquire at hacquire
  split at hacquire
  · cases hacquire
  case h_2 pool own registry hown =>
    obtain rfl := Except.ok.inj (Prod.mk.inj hacquire).1
    unfold Registry.acquire at hown
    split at hown
    · obtain rfl := (Prod.mk.inj (Except.ok.inj (Prod.mk.inj hown).1)).2
      exact List.forall_mem_nil _
    · split at hown
      · cases hown
      · obtain rfl := (Prod.mk.inj (Except.ok.inj (Prod.mk.inj hown).1)).2
        intro event hmem
        obtain rfl := List.mem_singleton.mp hmem
        exact ⟨_, by simp [Registry.newPoolEvent]; rfl⟩

end Executor

end MmsHttp
