import MmsHttp.Proofs.Executor.Totality

namespace MmsHttp

open Channel Fault

namespace Script

/-- Replies that are all responses with status 200. -/
def AllOk (replies : List (Except Fault Incoming)) : Prop :=
  ∀ reply ∈ replies, ∃ response, reply = .ok response ∧ response.status = 200

theorem AllOk.reply {replies : List (Except Fault Incoming)} (hok : AllOk replies) :
    ∃ response, Script.reply replies = .ok response ∧ response.status = 200 := by
  cases replies with
  | nil => exact ⟨defaultReply, rfl, rfl⟩
  | cons first rest => exact hok first List.mem_cons_self

theorem location?_of_ok {response : Incoming} (hstatus : response.status = 200) :
    response.location? = none := by
  rw [Incoming.location?, hstatus]
  rfl

/-- An exchange that gets such replies ends at its first leg and is not stuck there. -/
theorem Reached.not_stuck_of_allOk {follows : Bool} {first leg : Leg} {redirects : Nat}
    (hreached : Reached follows first redirects leg) (hok : AllOk first.replies)
    (hplace : ∀ headers, ∃ change,
      Cookie.change (first.clock 0) first.request.url headers = .ok change) : ¬ leg.Stuck := by
  obtain ⟨response, hreply, hstatus⟩ := hok.reply
  have hstays := location?_of_ok hstatus
  cases redirects with
  | zero =>
      obtain rfl := reached_zero_iff.mp hreached
      rintro (⟨own, _, _, hfault⟩ | ⟨own, hown, _, _, _, hmoves, _, _, _⟩)
      · obtain ⟨change, hchange⟩ := hplace own.fields
        cases hchange.symm.trans hfault
      · obtain rfl := Except.ok.inj (hreply.symm.trans hown)
        cases hstays.symm.trans hmoves
  | succ redirects =>
      obtain ⟨next, hstep, _⟩ := reached_succ_iff.mp hreached
      obtain ⟨change, hchange⟩ := hplace response.fields
      cases (Leg.step_of_settled hreply hchange hstays).symm.trans hstep

end Script

namespace Executor

/-- The arguments of a call that end it with a fault. -/
inductive ArgumentFault (executor : Executor) (call : Call) (fault : Fault) : Prop where
  /-- The port of the proxy has too many digits for the record that begins the call. -/
  | port (proxy : Proxy) (hproxy : call.transaction.proxy = some proxy)
      (htext : Fault.unwritable? proxy.port = some fault)
  /-- The timeout is not positive and has too many digits for the message that says so. -/
  | timeoutText (hformed : call.transaction.WellFormed)
      (hmillis : call.transaction.config.timeoutMillis ≤ 0)
      (htext : Fault.unwritable? call.transaction.config.timeoutMillis = some fault)
  /-- The host of the URL cannot be decoded. -/
  | host (husable : call.transaction.Usable) (url : Url)
      (hparse : Url.parse call.transaction.url = .ok url)
      (hscheme : url.scheme ∈ Url.supportedSchemes) (hread : url.readableHost = .error fault)
  /-- The timeout has no double. -/
  | timeoutRange (url : Url) (hadmits : executor.Admits call url)
      (hlarge : (Binary64.bound : Int) ≤ call.transaction.config.timeoutMillis)
      (hfault : fault = .overflow)
  /-- The host is not ASCII and the call names no other one among its headers. -/
  | hostHeader (url : Url) (hadmits : executor.Admits call url)
      (hrange : call.transaction.config.timeoutMillis < Binary64.bound)
      (hunnamed : Headers.has (executor.requestOf call).headers "Host" = false)
      (hvalue : Outgoing.hostValue url = .error fault)
  /-- The request is sent, but the authority of its URL cannot be taken apart when cookies are
  taken from the response. -/
  | authority (url : Url) (hadmits : executor.Admits call url)
      (hrange : call.transaction.config.timeoutMillis < Binary64.bound)
      (hhost : Headers.has (executor.requestOf call).headers "Host" = true ∨
        Outgoing.HostFits url)
      (hfault : Url.authorityFault? (Url.Reference.split [] url.text.toList).authority =
        some fault)

/-- Before anything is sent a call ends with a fault because of its proxy's port or because
its transaction cannot be examined. -/
theorem execute_eq_error_iff_of_not_admits {executor : Executor} {call : Call} {script : Script}
    {fault : Fault} (hrejects : ∀ url, ¬ executor.Admits call url) :
    (executor.execute Script.channel call script).answer = .error fault ↔
      (call.transaction.proxy.bind fun proxy => Fault.unwritable? proxy.port) = some fault ∨
      ((call.transaction.proxy.bind fun proxy => Fault.unwritable? proxy.port) = none ∧
        checkTransaction call.transaction = .error (.fault fault)) := by
  unfold execute
  dsimp only
  cases hport : call.transaction.proxy.bind fun proxy => Fault.unwritable? proxy.port with
  | some own => simp
  | none =>
      simp only [reduceCtorEq, false_or, true_and]
      cases hcheck : checkTransaction call.transaction with
      | error refusal => cases refusal <;> simp [refuse]
      | ok url =>
          simp only [reduceCtorEq, iff_false]
          unfold carryOut
          dsimp only
          cases hheaders : requestFailure? (executor.requestOf call) with
          | some failure => simp [refuse]
          | none => exact absurd (admits_iff.mpr ⟨hcheck, hheaders⟩) (hrejects url)

private theorem argumentFault_iff_of_not_admits {executor : Executor} {call : Call}
    {script : Script} {fault : Fault} (hrejects : ∀ url, ¬ executor.Admits call url) :
    (executor.execute Script.channel call script).answer = .error fault ↔
      ArgumentFault executor call fault := by
  rw [execute_eq_error_iff_of_not_admits hrejects, checkTransaction_eq_fault_iff,
    inputRefusal?_eq_fault_iff, checkUrl_eq_fault_iff]
  constructor
  · -- The port comes first, then the arguments in their order, then the host of the URL.
    rintro (hport | ⟨_, ⟨hformed, hmillis, htext⟩ | ⟨husable, url, hparse, hscheme, hread⟩⟩)
    · obtain ⟨proxy, hproxy, htext⟩ := Option.bind_eq_some_iff.mp hport
      exact .port proxy hproxy htext
    · exact .timeoutText hformed hmillis htext
    · exact .host husable url hparse hscheme hread
  · intro h
    cases h with
    | port proxy hproxy htext => exact Or.inl (Option.bind_eq_some_iff.mpr ⟨proxy, hproxy, htext⟩)
    | timeoutText hformed hmillis htext =>
        exact Or.inr ⟨port_writable hformed, Or.inl ⟨hformed, hmillis, htext⟩⟩
    | host husable url hparse hscheme hread =>
        exact Or.inr ⟨port_writable husable.toWellFormed,
          Or.inr ⟨husable, url, hparse, hscheme, hread⟩⟩
    | timeoutRange url hadmits => exact absurd hadmits (hrejects url)
    | hostHeader url hadmits => exact absurd hadmits (hrejects url)
    | authority url hadmits => exact absurd hadmits (hrejects url)

private theorem argumentFault_iff_of_admits {executor : Executor} {call : Call} {url : Url}
    {fault : Fault} (hadmits : executor.Admits call url) :
    ArgumentFault executor call fault ↔
      executor.opening call url = .error fault ∨
      (∃ first, executor.opening call url = .ok first) ∧
        Url.authorityFault? (Url.Reference.split [] url.text.toList).authority = some fault := by
  have hsame {other : Url} (hparse : Url.parse call.transaction.url = .ok other) : other = url :=
    Except.ok.inj (hparse.symm.trans hadmits.callable.parse)
  rw [opening_eq_error_iff hadmits, opening_isOk_iff hadmits]
  constructor
  · intro h
    cases h with
    | port proxy hproxy htext =>
        have hwritable := port_writable hadmits.usable.toWellFormed
        rw [hproxy, Option.bind_some, htext] at hwritable
        cases hwritable
    | timeoutText _ hmillis _ => exact absurd hadmits.usable.timeout (Int.not_lt.mpr hmillis)
    | host _ other hparse _ hread =>
        obtain rfl := hsame hparse
        obtain ⟨host, hreadable, _⟩ := hadmits.callable.host
        cases hread.symm.trans hreadable
    | timeoutRange other _ hlarge hfault => exact Or.inl (Or.inl ⟨hlarge, hfault⟩)
    | hostHeader other hother hrange hunnamed hvalue =>
        obtain rfl := hsame hother.callable.parse
        exact Or.inl (Or.inr ⟨hrange, hunnamed, hvalue⟩)
    | authority other hother hrange hhost hfault =>
        obtain rfl := hsame hother.callable.parse
        exact Or.inr ⟨⟨hrange, hhost⟩, hfault⟩
  · rintro ((⟨hlarge, hfault⟩ | ⟨hrange, hunnamed, hvalue⟩) | ⟨⟨hrange, hhost⟩, hfault⟩)
    · exact .timeoutRange url hadmits hlarge hfault
    · exact .hostHeader url hadmits hrange hunnamed hvalue
    · exact .authority url hadmits hrange hhost hfault

section Opened

variable {executor : Executor} {call : Call} {url : Url} {script : Script} {first : Outgoing}
  (hadmits : executor.Admits call url) (hok : Script.AllOk script.replies)
  (hopening : executor.opening call url = .ok first)

include hadmits hok hopening

private theorem returns_of_allOk (hordinary : Script.Ordinary script.replies)
    (hnone : Url.authorityFault? (Url.Reference.split [] url.text.toList).authority = none) :
    ∃ result, (executor.execute Script.channel call script).answer = .ok result := by
  apply (returns_iff_of_opening hadmits hordinary hopening).mpr
  intro redirects _ leg hreached
  apply hreached.not_stuck_of_allOk hok
  intro headers
  rw [firstLeg, (sound_opening hadmits hopening).2, exists_ok_iff_forall_ne_error]
  intro fault hfault
  have hsome := (Cookie.change_eq_error_iff hadmits.callable.scheme
    (host_ne_empty_of_callable hadmits.callable)).mp hfault
  cases hnone.symm.trans hsome

/-- Where cookies cannot be taken from the first response, its fault ends the call. -/
private theorem answer_of_authorityFault {fault : Fault}
    (hfault : Url.authorityFault? (Url.Reference.split [] url.text.toList).authority =
      some fault) :
    (executor.execute Script.channel call script).answer = .error fault := by
  obtain ⟨response, hreply, _⟩ := hok.reply
  have htaken : Cookie.change (call.clock 0) first.url response.fields = .error fault := by
    rw [(sound_opening hadmits hopening).2]
    exact (Cookie.change_eq_error_iff hadmits.callable.scheme
      (host_ne_empty_of_callable hadmits.callable)).mpr hfault
  have hstep : (firstLeg call first script).step (secures url) = .inl (.error fault) :=
    Script.Leg.step_of_placeless hreply htaken
  have houtcome : (executor.exchanged call url first script).1 = .error fault :=
    (Script.exchange_fst _ _ _ _ _ _).trans
      (Script.outcome_eq_iff.mpr (Or.inl ⟨0, by decide, _, .here _, hstep⟩))
  rw [(execute_of_opening_ok script hadmits hopening).1, houtcome]
  exact reported_of_foreign (Foreign.error (Url.foreign_of_authorityFault? hfault))

end Opened

/-- If every reply has status 200, a call ends with a fault exactly when its arguments bring
one about; and a call that gives a result refuses its arguments unless it is admitted. -/
theorem fault_iff_argumentFault (executor : Executor) (call : Call) (script : Script)
    (hok : Script.AllOk script.replies) (hordinary : Script.Ordinary script.replies) :
    (∀ fault, (executor.execute Script.channel call script).answer = .error fault ↔
      ArgumentFault executor call fault) ∧
    ∀ result, (executor.execute Script.channel call script).answer = .ok result →
      (result.IsRefusal ↔ ¬ ∃ url, executor.Admits call url) := by
  by_cases hadmits : ∃ url, executor.Admits call url
  · obtain ⟨url, hadmits⟩ := hadmits
    refine ⟨fun fault => ?_, fun result hresult => iff_of_false ?_ fun h => h ⟨url, hadmits⟩⟩
    · rw [argumentFault_iff_of_admits hadmits]
      cases hopening : executor.opening call url with
      | error own => simp [(execute_of_opening_error script hadmits hopening).1]
      | ok first =>
          cases hauthority :
              Url.authorityFault? (Url.Reference.split [] url.text.toList).authority with
          | some own => simp [answer_of_authorityFault hadmits hok hopening hauthority]
          | none =>
              obtain ⟨result, hresult⟩ := returns_of_allOk hadmits hok hopening hordinary hauthority
              simp [hresult]
    · exact (Result.isAnswer_iff_not_isRefusal result).mp (isAnswer_of_admits hadmits hresult)
  · have hrejects := not_exists.mp hadmits
    refine ⟨fun fault => argumentFault_iff_of_not_admits hrejects, fun result hresult => ?_⟩
    exact iff_of_true ((execute_of_not_admits script hrejects).2 result hresult) hadmits

theorem no_argumentFault_of_fetch :
    let executor : Executor := { locale := "en_US" }
    let call : Call := { transaction := { method := "GET", url := "http://mms.example/m" } }
    ∀ fault, ¬ ArgumentFault executor call fault := by
  intro executor call fault
  have hresult : (executor.execute Script.channel call { replies := [] }).answer =
      .ok (.success none) := by decide +kernel
  rw [← (fault_iff_argumentFault executor call { replies := [] } (by simp [Script.AllOk])
    (by simp [Script.Ordinary])).1 fault, hresult]
  intro hfault
  cases hfault

/-- A host that says it is encoded but is not ends a call with a fault, where other hosts
that cannot be used are refused. -/
theorem escapes_at_undecodable_host :
    let executor : Executor := { locale := "en_US" }
    let call : Call := { transaction := { method := "GET", url := "http://xn--/" } }
    ¬ ∃ result, (executor.execute Script.channel call { replies := [] }).answer = .ok result := by
  intro executor call
  have hfault : (executor.execute Script.channel call { replies := [] }).answer.isOk = false := by
    decide +kernel
  rintro ⟨result, hresult⟩
  rw [hresult] at hfault
  cases hfault

end Executor

end MmsHttp
