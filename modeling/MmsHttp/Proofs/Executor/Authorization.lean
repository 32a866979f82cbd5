import MmsHttp.Proofs.Executor.Outward

/-!
What authorizes the requests of a call. Redirects bring no authorization in, so whatever a
request of a call carries, the first one carried as well. There it is what the call names
among its headers, unless the URL of the call has user information: then it is made from that,
although the call does not ask for it.
-/

namespace MmsHttp

/-- A header that authorizes whoever sends it. -/
def Header.Authorizes (header : Header) : Prop :=
  Headers.named "Authorization" header = true

theorem Header.Authorizes.name {header : Header} (h : header.Authorizes) :
    header.1 ∉ ["Host", "Content-Length", "Cookie", "Accept-Encoding", "Connection"] := by
  intro hname
  unfold Authorizes Headers.named at h
  generalize header.1 = name at h hname
  simp only [List.mem_cons, List.not_mem_nil, or_false] at hname
  rcases hname with rfl | rfl | rfl | rfl | rfl
  all_goals exact absurd h (by decide)

namespace Outgoing

theorem authorizes_authorization {url : Url} {own : Header} (h : authorization? url = some own) :
    own.Authorizes := by
  unfold authorization? at h
  dsimp only at h
  split at h
  · cases h
  · obtain rfl := Option.some.inj h
    exact (Headers.named_eq_true_iff _ _).mpr rfl

theorem authorizes_first {method : String} {url : Url} {headers : List Header} {body : Bytes}
    {timeout : Binary64} {request : Outgoing}
    (h : first method url headers body timeout = .ok request) {header : Header}
    (hauthorizes : header.Authorizes) (hmem : header ∈ request.headers) :
    authorization? url = some header ∨ authorization? url = none ∧ header ∈ headers := by
  obtain ⟨made, hmade, hheaders⟩ := headers_of_first h
  rw [hheaders] at hmem
  cases hown : authorization? url with
  | some own =>
      rw [hown] at hmem
      rcases (Headers.mem_set_iff _ _ _).mp hmem with rfl | ⟨_, hother⟩
      · exact Or.inl rfl
      · have hname := (Headers.named_eq_true_iff _ _).mp hauthorizes
        have hownName := (Headers.named_eq_true_iff _ _).mp (authorizes_authorization hown)
        exact absurd (hname.trans hownName.symm) hother
  | none =>
      rw [hown] at hmem
      refine Or.inr ⟨rfl, ?_⟩
      rcases mem_completeHeaders hmade hmem with hupdated | hname
      · rcases List.mem_append.mp hupdated with hdefault | hgiven
        · have husual := (List.mem_filter.mp hdefault).1
          simp only [defaultHeaders, List.mem_cons, List.not_mem_nil, or_false] at husual
          rcases husual with rfl | rfl
          · exact absurd (by simp) hauthorizes.name
          · exact absurd (by simp) hauthorizes.name
        · exact hgiven
      · simp only [List.mem_cons, List.not_mem_nil, or_false] at hname
        rcases hname with hname | hname
        · exact absurd (by simp [hname]) hauthorizes.name
        · exact absurd (by simp [hname]) hauthorizes.name

theorem authorization_mem_first {method : String} {url : Url} {headers : List Header}
    {body : Bytes} {timeout : Binary64} {request : Outgoing}
    (h : first method url headers body timeout = .ok request) {own : Header}
    (hown : authorization? url = some own) : own ∈ request.headers := by
  obtain ⟨made, _, hheaders⟩ := headers_of_first h
  rw [hheaders, hown]
  exact Headers.mem_set_self made own

end Outgoing

/-- Whatever authorizes a request on the way authorized the first one. -/
theorem Script.Reached.authorizes {follows : Bool} {first leg : Script.Leg} {redirects : Nat}
    (hreached : Script.Reached follows first redirects leg) {header : Header}
    (hauthorizes : header.Authorizes) (hmem : header ∈ leg.request.headers) :
    header ∈ first.request.headers := by
  let Kept (leg : Script.Leg) : Prop :=
    header ∈ leg.request.headers → header ∈ first.request.headers
  have hstep (leg next : Script.Leg) (hleg : Kept leg) (hnext : leg.step follows = .inr next) :
      Kept next := by
    intro hheader
    obtain ⟨_, response, location, _, _, hmade⟩ := Script.Leg.redirected_of_step hnext
    rcases Redirect.mem_headers_of_next hmade hheader with hkept | hname
    · exact hleg hkept
    · simp only [List.mem_cons, List.not_mem_nil, or_false] at hname
      rcases hname with hname | hname | hname
      all_goals exact absurd (by simp [hname]) hauthorizes.name
  exact hreached.preserves hstep id hmem

namespace Executor

variable {executor : Executor} {call : Call} {url : Url} {first : Outgoing} {script : Script}

theorem GoesOut.authorizes (hgoes : executor.GoesOut call url first) {leg : Script.Leg}
    (hleg : leg ∈ legs call url first script) {header : Header} (hauthorizes : header.Authorizes)
    (hmem : header ∈ leg.request.headers) :
    Outgoing.authorization? url = some header ∨
      Outgoing.authorization? url = none ∧ header ∈ (executor.requestOf call).headers := by
  obtain ⟨redirects, hplace⟩ := List.mem_iff_getElem?.mp hleg
  have hreached := (Script.trail_getElem?_eq_some_iff.mp hplace).2
  obtain ⟨timeout, hfirst⟩ := hgoes.first_eq
  exact Outgoing.authorizes_first hfirst hauthorizes (hreached.authorizes hauthorizes hmem)

/-- Whatever authorizes a request of a call, on any leg of it, has the value that the call
names among its headers, exactly if that is so of what the user information in its URL
comes to. -/
theorem authorized_iff_named (executor : Executor) (call : Call) (script : Script) :
    ∃ requests,
      (executor.execute Script.channel call script).world.sent = script.sent ++ requests ∧
      ((∀ request ∈ requests, ∀ header ∈ request.headers, header.Authorizes →
          ∃ given ∈ (executor.requestOf call).headers, given.Authorizes ∧ given.2 = header.2) ↔
        ∀ url own, requests ≠ [] → Url.parse call.transaction.url = .ok url →
          Outgoing.authorization? url = some own →
          ∃ given ∈ (executor.requestOf call).headers, given.Authorizes ∧ given.2 = own.2) := by
  rcases executor.goesOut_or_stays call with ⟨url, first, hgoes⟩ | hstays
  · refine ⟨(legs call url first script).map Script.Leg.request, (hgoes.sent script).1, ?_⟩
    rw [List.forall_mem_map]
    constructor
    · intro hall other own _ hparse hown
      obtain rfl := Except.ok.inj (hgoes.admits.callable.parse.symm.trans hparse)
      -- The first request carries what is made from the URL.
      obtain ⟨timeout, hfirst⟩ := hgoes.first_eq
      obtain ⟨rest, hlegs⟩ := exists_legs_eq_cons call url first script
      apply hall (firstLeg call first script) (by simp [hlegs]) own
      · exact Outgoing.authorization_mem_first hfirst hown
      · exact Outgoing.authorizes_authorization hown
    · intro hurl leg hleg header hmem hauthorizes
      rcases hgoes.authorizes hleg hauthorizes hmem with hown | ⟨_, hgiven⟩
      · apply hurl url header _ hgoes.admits.callable.parse hown
        exact fun hnone => List.not_mem_nil (List.map_eq_nil_iff.mp hnone ▸ hleg)
      · exact ⟨header, hgiven, hauthorizes, rfl⟩
  · exact ⟨[], by simpa using sent_of_not_goesOut hstays script, by simp⟩

/-- A call that names nothing that authorizes it sends what the user information in its URL
comes to. -/
theorem authorized_by_user_information :
    let executor : Executor := { locale := "en_US" }
    let call : Call := { transaction := { method := "GET", url := "https://u:p@mms.example/m" } }
    let run := executor.execute Script.channel call { replies := [] }
    ¬ ∀ request ∈ run.world.sent, ∀ header ∈ request.headers, header.Authorizes →
      ∃ given ∈ (executor.requestOf call).headers, given.Authorizes ∧ given.2 = header.2 := by
  intro executor call run hall
  have hcarried : run.world.sent.any (·.headers.contains ("Authorization", "Basic dTpw")) = true := by
    decide +kernel
  have hnamed : (executor.requestOf call).headers.all (!Headers.named "Authorization" ·) = true := by
    decide +kernel
  obtain ⟨request, hrequest, hheader⟩ := List.any_eq_true.mp hcarried
  obtain ⟨given, hgiven, hauthorizes, _⟩ :=
    hall request hrequest ("Authorization", "Basic dTpw") (by simpa using hheader)
      ((Headers.named_eq_true_iff _ _).mpr rfl)
  have hother := List.all_eq_true.mp hnamed given hgiven
  rw [show Headers.named "Authorization" given = true from hauthorizes] at hother
  cases hother

end Executor

end MmsHttp
