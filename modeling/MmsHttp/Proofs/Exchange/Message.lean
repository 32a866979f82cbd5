import MmsHttp.Exchange.Message
import MmsHttp.Proofs.Fault
import MmsHttp.Proofs.Headers
import MmsHttp.Proofs.Text.Ascii

namespace MmsHttp.Outgoing

open Fault

/-- A request whose host can be read and that names its host among its headers. -/
structure Sound (request : Outgoing) : Prop where
  readable : ∃ host, request.url.readableHost = .ok host
  hasHost : Headers.has request.headers "Host" = true

/-- A host and port that can be the value of a header. -/
def HostFits (url : Url) : Prop :=
  url.hostAndPort.toList.all Text.isAscii = true

theorem hostValue_eq_ok_iff {url : Url} {value : String} :
    hostValue url = .ok value ↔ HostFits url ∧ value = url.hostAndPort := by
  rw [HostFits, ← Text.asciiComplaint_eq_none_iff]
  unfold hostValue
  cases Text.asciiComplaint url.hostAndPort.toList with
  | none => simp [eq_comm]
  | some complaint => simp

theorem hostValue_isOk_iff (url : Url) : (∃ value, hostValue url = .ok value) ↔ HostFits url := by
  simp only [hostValue_eq_ok_iff, exists_and_left, exists_eq, and_true]

theorem foreign_hostValue (url : Url) : Foreign (hostValue url) := by
  unfold hostValue
  split
  · exact Foreign.ok _
  · exact Foreign.error rfl

-- The headers of a message as they are completed: the length of its body is put behind them,
-- the host and the length zero are put in front.

private def describeBody (headers : List Header) (body : Bytes) : List Header :=
  if body.isEmpty then headers
  else Headers.setDefault headers ("Content-Length", toString body.length)

private theorem has_host_describeBody (headers : List Header) (body : Bytes) :
    Headers.has (describeBody headers body) "Host" = Headers.has headers "Host" := by
  unfold describeBody
  split
  · rfl
  · apply Headers.has_setDefault
    change Text.lowered "Content-Length" ≠ Text.lowered "Host"
    decide

private def missingHost (url : Url) (headers : List Header) : Except Fault (List Header) :=
  if Headers.has headers "Host" || url.host == "" then .ok []
  else (hostValue url).map fun value => [("Host", value)]

private def missingLength (method : String) (headers : List Header) : List Header :=
  if Headers.has headers "Content-Length" || Headers.has headers "Transfer-Encoding" then []
  else if ["POST", "PUT", "PATCH"].contains method then [("Content-Length", "0")]
  else []

/-- The host is added under its name exactly where it is missing and there is one. -/
private theorem missingHost_eq_ok {url : Url} {headers missing : List Header}
    (h : missingHost url headers = .ok missing) :
    ((Headers.has headers "Host" = true ∨ url.host = "") ∧ missing = []) ∨
      ((Headers.has headers "Host" = false ∧ url.host ≠ "") ∧
        missing = [("Host", url.hostAndPort)]) := by
  unfold missingHost at h
  split at h
  case isTrue hneedless =>
    obtain rfl := Except.ok.inj h
    exact Or.inl ⟨by simpa using hneedless, rfl⟩
  case isFalse hneeded =>
    refine Or.inr ⟨by simpa using hneeded, ?_⟩
    cases hvalue : hostValue url with
    | error fault =>
        rw [hvalue] at h
        cases h
    | ok value =>
        rw [hvalue] at h
        obtain rfl := Except.ok.inj h
        rw [(hostValue_eq_ok_iff.mp hvalue).2]

private theorem name_of_mem_missingLength {method : String} {headers : List Header}
    {header : Header} (hmem : header ∈ missingLength method headers) :
    header.1 = "Content-Length" := by
  unfold missingLength at hmem
  split at hmem
  · cases hmem
  · split at hmem
    · obtain rfl := List.mem_singleton.mp hmem
      rfl
    · cases hmem

private theorem completeHeaders_eq (method : String) (url : Url) (headers : List Header)
    (body : Bytes) :
    completeHeaders method url headers body =
      (missingHost url (describeBody headers body)).map fun host =>
        host ++ missingLength method (describeBody headers body) ++ describeBody headers body := by
  change (if Headers.has (describeBody headers body) "Host" || url.host == "" then _ else _) = _
  unfold missingHost
  split
  · rfl
  · cases hostValue url <;> rfl

private theorem exists_missingHost {method : String} {url : Url} {headers made : List Header}
    {body : Bytes} (h : completeHeaders method url headers body = .ok made) :
    ∃ host, missingHost url (describeBody headers body) = .ok host ∧
      made = host ++ missingLength method (describeBody headers body) ++
        describeBody headers body := by
  rw [completeHeaders_eq] at h
  cases hmissing : missingHost url (describeBody headers body) with
  | error fault =>
      rw [hmissing] at h
      cases h
  | ok host =>
      rw [hmissing] at h
      exact ⟨host, rfl, (Except.ok.inj h).symm⟩

/-- Completing the headers of a message fails only where a host is missing that cannot be
the value of a header. -/
theorem completeHeaders_eq_error_iff {method : String} {url : Url} {headers : List Header}
    {body : Bytes} {fault : Fault} :
    completeHeaders method url headers body = .error fault ↔
      Headers.has headers "Host" = false ∧ url.host ≠ "" ∧ hostValue url = .error fault := by
  rw [completeHeaders_eq, missingHost, has_host_describeBody]
  cases Headers.has headers "Host" with
  | true => simp [Except.map]
  | false =>
      by_cases hempty : url.host = ""
      · simp [hempty, Except.map]
      · cases hostValue url <;> simp [hempty, Except.map]

theorem foreign_completeHeaders (method : String) (url : Url) (headers : List Header)
    (body : Bytes) : Foreign (completeHeaders method url headers body) :=
  fun fault h => foreign_hostValue url fault (completeHeaders_eq_error_iff.mp h).2.2

theorem exists_completeHeaders {headers : List Header} (hhost : Headers.has headers "Host" = true)
    (method : String) (url : Url) (body : Bytes) :
    ∃ made, completeHeaders method url headers body = .ok made := by
  apply exists_ok_iff_forall_ne_error.mpr
  intro fault h
  rw [(completeHeaders_eq_error_iff.mp h).1] at hhost
  cases hhost

theorem has_host_completeHeaders {method : String} {url : Url} {headers made : List Header}
    {body : Bytes} (hhost : Headers.has headers "Host" = true ∨ url.host ≠ "")
    (h : completeHeaders method url headers body = .ok made) :
    Headers.has made "Host" = true := by
  obtain ⟨missing, hmissing, rfl⟩ := exists_missingHost h
  rcases missingHost_eq_ok hmissing with ⟨hneedless, rfl⟩ | ⟨_, rfl⟩
  · apply Headers.has_append_right
    rw [has_host_describeBody] at hneedless ⊢
    rcases hhost with hnamed | hsome
    · exact hnamed
    · exact hneedless.resolve_right hsome
  · refine (Headers.has_eq_true_iff _ _).mpr ⟨("Host", url.hostAndPort), ?_, rfl⟩
    exact List.mem_append_left _ (List.mem_append_left _ List.mem_cons_self)

theorem mem_completeHeaders {method : String} {url : Url} {headers made : List Header}
    {body : Bytes} (h : completeHeaders method url headers body = .ok made) {header : Header}
    (hmem : header ∈ made) : header ∈ headers ∨ header.1 ∈ ["Host", "Content-Length"] := by
  obtain ⟨missing, hmissing, rfl⟩ := exists_missingHost h
  rcases List.mem_append.mp hmem with hfront | hdescribed
  · rcases List.mem_append.mp hfront with hhost | hlength
    · rcases missingHost_eq_ok hmissing with ⟨_, rfl⟩ | ⟨_, rfl⟩
      · cases hhost
      · obtain rfl := List.mem_singleton.mp hhost
        exact Or.inr (by simp)
    · have hname := name_of_mem_missingLength hlength
      exact Or.inr (by simp [hname])
  · unfold describeBody at hdescribed
    split at hdescribed
    · exact Or.inl hdescribed
    · rcases Headers.mem_setDefault hdescribed with hgiven | rfl
      · exact Or.inl hgiven
      · exact Or.inr (by simp)

theorem mem_completeHeaders_of_mem {method : String} {url : Url} {headers made : List Header}
    {body : Bytes} (h : completeHeaders method url headers body = .ok made) {header : Header}
    (hmem : header ∈ headers) : header ∈ made := by
  obtain ⟨missing, _, rfl⟩ := exists_missingHost h
  apply List.mem_append_right
  unfold describeBody
  split
  · exact hmem
  · exact Headers.mem_setDefault_of_mem hmem

/-- Headers that name neither host nor length get both: the host first, the length of a body
last. Where there is no body to describe, the method must be one that has none. -/
theorem completeHeaders_of_unnamed {method : String} {url : Url} {headers made : List Header}
    {body : Bytes} (hhost : Headers.has headers "Host" = false)
    (hlength : Headers.has headers "Content-Length" = false)
    (hsome : url.host ≠ "") (hbodiless : body = [] → method = "GET")
    (h : completeHeaders method url headers body = .ok made) :
    made = ("Host", url.hostAndPort) :: headers ++
      (if body = [] then [] else [("Content-Length", toString body.length)]) := by
  obtain ⟨missing, hmissing, rfl⟩ := exists_missingHost h
  rcases missingHost_eq_ok hmissing with ⟨hneedless, _⟩ | ⟨_, rfl⟩
  · rw [has_host_describeBody, hhost] at hneedless
    exact absurd (hneedless.resolve_left nofun) hsome
  · cases body with
    | nil =>
        obtain rfl := hbodiless rfl
        simp [describeBody, missingLength]
    | cons byte rest =>
        let length : Header := ("Content-Length", toString (byte :: rest).length)
        have hdescribed : describeBody headers (byte :: rest) = headers ++ [length] := by
          simp [describeBody, Headers.setDefault, hlength, length]
        have hnamed : Headers.has (headers ++ [length]) "Content-Length" = true :=
          (Headers.has_eq_true_iff _ _).mpr ⟨length, by simp, rfl⟩
        rw [hdescribed, missingLength, hnamed]
        simp [length]

section First

variable {method : String} {url : Url} {headers : List Header} {body : Bytes}
  {timeout : Binary64}

theorem first_eq_error_iff {fault : Fault} :
    first method url headers body timeout = .error fault ↔
      Headers.has headers "Host" = false ∧ url.host ≠ "" ∧ hostValue url = .error fault := by
  have hdefault : ¬ Headers.has defaultHeaders "Host" = true := by decide
  have hnamed := Headers.has_update_iff defaultHeaders headers "Host"
  rw [or_iff_right hdefault, Bool.eq_iff_iff.symm] at hnamed
  have hcomplete :
      completeHeaders method url (Headers.update defaultHeaders headers) body = .error fault ↔ _ :=
    completeHeaders_eq_error_iff
  rw [← hnamed, ← hcomplete]
  unfold first
  rw [bind_eq_error_iff]
  apply or_iff_left
  rintro ⟨made, _, hmade⟩
  cases (show Except.ok _ = Except.error fault from hmade)

theorem foreign_first : Foreign (first method url headers body timeout) :=
  (foreign_completeHeaders _ _ _ _).bind fun _ _ => Foreign.ok _

theorem url_of_first {request : Outgoing}
    (h : first method url headers body timeout = .ok request) : request.url = url := by
  obtain ⟨made, _, h⟩ := bind_eq_ok_iff.mp h
  obtain rfl := Except.ok.inj h
  rfl

theorem payload_of_first {request : Outgoing}
    (h : first method url headers body timeout = .ok request) :
    request.method = method ∧ request.body = body := by
  obtain ⟨made, _, h⟩ := bind_eq_ok_iff.mp h
  obtain rfl := Except.ok.inj h
  exact ⟨rfl, rfl⟩

/-- The headers of the first request are those given, put behind the usual ones and completed.
Credentials in its URL take the place of whatever authorizes it. -/
theorem headers_of_first {request : Outgoing}
    (h : first method url headers body timeout = .ok request) :
    ∃ made, completeHeaders method url (Headers.update defaultHeaders headers) body = .ok made ∧
      request.headers = ((authorization? url).map (Headers.set made)).getD made := by
  obtain ⟨made, hmade, h⟩ := bind_eq_ok_iff.mp h
  obtain rfl := Except.ok.inj h
  refine ⟨made, hmade, ?_⟩
  cases authorization? url <;> rfl

theorem sound_first {request : Outgoing} {host : String} (hreadable : url.readableHost = .ok host)
    (hhost : url.host ≠ "") (h : first method url headers body timeout = .ok request) :
    request.Sound := by
  refine ⟨⟨host, ?_⟩, ?_⟩
  · rw [url_of_first h]
    exact hreadable
  · obtain ⟨made, hmade, h⟩ := bind_eq_ok_iff.mp h
    obtain rfl := Except.ok.inj h
    have hnamed := has_host_completeHeaders (Or.inr hhost) hmade
    cases authorization? url with
    | none => exact hnamed
    | some header => exact Headers.has_set made header "Host" hnamed

end First

end MmsHttp.Outgoing
