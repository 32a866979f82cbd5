import MmsHttp.Proofs.Executor.Outward

/-!
How the first request of a call is put together from what the call asks for. The headers of
the call stay as they are, in one piece; the host and whatever is usual go in front of them,
the length of a message behind.
-/

namespace MmsHttp

namespace Outgoing

theorem authorization?_eq_none {url : Url} (h : url.userinfo = "") : authorization? url = none := by
  have hnone : Url.unescape [] = [] := by
    simp [Url.unescape, Url.unescapeBytes, Text.fromUtf8Lossy, Text.fromUtf8With]
  simp [authorization?, Url.credentials, h, Text.cut, hnone]

/-- Headers that name neither host nor length all stand together in the first request. Usual
headers come before them, unless they name these. -/
theorem headers_first_of_unnamed {method : String} {url : Url} {headers : List Header}
    {body : Bytes} {timeout : Binary64} {request : Outgoing} (huser : url.userinfo = "")
    (hsome : url.host ≠ "") (hhost : Headers.has headers "Host" = false)
    (hlength : Headers.has headers "Content-Length" = false)
    (hbodiless : body = [] → method = "GET")
    (h : first method url headers body timeout = .ok request) :
    request.headers = ("Host", url.hostAndPort) ::
      defaultHeaders.filter (fun header => !Headers.has headers header.1) ++ headers ++
      (if body = [] then [] else [("Content-Length", toString body.length)]) := by
  have hunnamed (name : String) (hdefault : Headers.has defaultHeaders name = false)
      (hgiven : Headers.has headers name = false) :
      Headers.has (Headers.update defaultHeaders headers) name = false := by
    rw [← Bool.not_eq_true, Headers.has_update_iff, hdefault, hgiven]
    simp
  obtain ⟨made, hmade, hheaders⟩ := headers_of_first h
  rw [hheaders, authorization?_eq_none huser]
  exact completeHeaders_of_unnamed (hunnamed "Host" (by decide) hhost)
    (hunnamed "Content-Length" (by decide) hlength) hsome hbodiless hmade

end Outgoing

namespace Executor

variable {executor : Executor} {call : Call} {url : Url} {first : Outgoing} {script : Script}

/-- A message that is sent is not empty, so a call that goes out without one is a GET. -/
theorem GoesOut.body_eq_nil_iff (hgoes : executor.GoesOut call url first) :
    first.body = [] ↔ call.transaction.method = "GET" := by
  obtain ⟨_, hbody⟩ := hgoes.payload
  have husable := hgoes.admits.usable
  have hmethods : call.transaction.method = "GET" ∨ call.transaction.method = "POST" := by
    simpa [Request.methods] using husable.method
  rw [hbody]
  rcases hmethods with hget | hpost
  · simp [hget]
  · have hsize := husable.payload hpost
    rw [Transaction.payloadSize, ne_eq, List.length_eq_zero_iff] at hsize
    simp [hpost, hsize]

/-- The length of a body is the size of the message of a POST, and a GET has none. -/
theorem GoesOut.length_of_message (hgoes : executor.GoesOut call url first) :
    (if first.body = [] then [] else [("Content-Length", toString first.body.length)]) =
      if call.transaction.method = "POST" then
        [("Content-Length", toString call.transaction.payloadSize)]
      else [] := by
  obtain ⟨_, hbody⟩ := hgoes.payload
  by_cases hpost : call.transaction.method = "POST"
  · have hnonempty : first.body ≠ [] := by
      intro hempty
      have hget := hgoes.body_eq_nil_iff.mp hempty
      rw [hpost] at hget
      exact absurd hget (by decide)
    rw [if_neg hnonempty, if_pos hpost, hbody, if_pos hpost]
    rfl
  · rw [if_neg hpost, hbody, if_neg hpost, if_pos rfl]

/-- The first request of a call has the method of the call, the message of a POST and nothing
else for a body, and these headers: the host of the URL, what is usual and the call does not
name, all headers of the call in order, and for a POST the length of its message. -/
theorem sent_as_assembled (hparse : Url.parse call.transaction.url = .ok url)
    (huser : url.userinfo = "")
    (hhost : Headers.has (executor.requestOf call).headers "Host" = false)
    (hlength : Headers.has (executor.requestOf call).headers "Content-Length" = false)
    (hsends : (executor.execute Script.channel call script).world.sent ≠ script.sent) :
    let t := call.transaction
    let assembled := (executor.requestOf call).headers
    ∃ first rest,
      (executor.execute Script.channel call script).world.sent = script.sent ++ first :: rest ∧
      first.method = t.method ∧ first.url = url ∧
      first.body = (if t.method = "POST" then t.payload.getD [] else []) ∧
      first.headers =
        ("Host", url.hostAndPort) ::
          ([("Accept-Encoding", "gzip, deflate"), ("Connection", "keep-alive")].filter
            fun header => !Headers.has assembled header.1) ++
          assembled ++
          (if t.method = "POST" then [("Content-Length", toString t.payloadSize)] else []) := by
  intro t assembled
  obtain ⟨other, first, hgoes⟩ := exists_goesOut_of_sent hsends
  obtain rfl := Except.ok.inj (hgoes.admits.callable.parse.symm.trans hparse)
  obtain ⟨rest, hlegs⟩ := exists_legs_eq_cons call other first script
  obtain ⟨hmethod, hbody⟩ := hgoes.payload
  obtain ⟨timeout, hfirst⟩ := hgoes.first_eq
  have hsent := (hgoes.sent script).1
  rw [hlegs] at hsent
  have hpayload := (Outgoing.payload_of_first hfirst).2
  have hheaders := Outgoing.headers_first_of_unnamed huser
    (host_ne_empty_of_callable hgoes.admits.callable) hhost hlength
    (fun hempty => hgoes.body_eq_nil_iff.mp (hpayload.trans hempty)) hfirst
  rw [← hpayload, hgoes.length_of_message] at hheaders
  exact ⟨first, rest.map Script.Leg.request, hsent, hmethod, Outgoing.url_of_first hfirst, hbody,
    hheaders⟩

/-- A message goes out with both headers that say what is accepted, and with the header for the
connection as the call spells it in place of the usual one. -/
theorem sent_as_assembled_with_repeats :
    let executor : Executor := { locale := "en_US" }
    let config : Config :=
      { profileHeader := "accept", profileUrl := some "text/plain", extraHeaders := "connection:close" }
    let call : Call :=
      { transaction :=
          { method := "POST", url := "http://mms.example:8080/m", payload := some [140, 128], config } }
    let run := executor.execute Script.channel call { replies := [] }
    ∃ first rest, run.world.sent = first :: rest ∧
      first.method = "POST" ∧ first.body = [140, 128] ∧
      first.headers =
        [("Host", "mms.example:8080"), ("Accept-Encoding", "gzip, deflate"),
          ("Accept", Request.accept), ("Accept-Language", "en-US"),
          ("User-Agent", "Android-Mms/2.0"), ("accept", "text/plain"),
          ("Content-Type", "application/vnd.wap.mms-message"), ("connection", "close"),
          ("Content-Length", "2")] := by
  intro executor config call run
  let url : Url := ⟨"http", "", "mms.example", some 8080, "/m", none, none⟩
  have hparse : Url.parse call.transaction.url = .ok url := by decide +kernel
  have hsends : run.world.sent ≠ [] := by decide +kernel
  have hassembled : (executor.requestOf call).headers =
      [("Accept", Request.accept), ("Accept-Language", "en-US"),
        ("User-Agent", "Android-Mms/2.0"), ("accept", "text/plain"),
        ("Content-Type", "application/vnd.wap.mms-message"), ("connection", "close")] := by
    decide +kernel
  have hhost : Headers.has (executor.requestOf call).headers "Host" = false := by
    rw [hassembled]
    decide
  have hlength : Headers.has (executor.requestOf call).headers "Content-Length" = false := by
    rw [hassembled]
    decide
  obtain ⟨first, rest, hsent, hmethod, _, hbody, hheaders⟩ :=
    sent_as_assembled hparse rfl hhost hlength hsends
  refine ⟨first, rest, hsent, hmethod, hbody, hheaders.trans ?_⟩
  rw [hassembled]
  decide +kernel

end Executor

end MmsHttp
