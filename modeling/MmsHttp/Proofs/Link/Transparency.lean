import Mathlib.Control.Monad.Basic
import MmsHttp.Proofs.Exchange.Body
import MmsHttp.Proofs.Link.Noting
import MmsHttp.Proofs.Text.Ascii

/-!
What a link changes about the messages of an exchange: nothing, as long as their method and
their host are ASCII. A request says on the link what it says in the exchange; a response
says in the exchange what it says on the link, its body being the chunks without their
codings; and a fault comes back as its report, whether it is met at once or in a body.
-/

namespace MmsHttp

open Fault

namespace Url

/-- The scheme of a text as it is written there. -/
def writtenScheme (text : String) : String :=
  String.ofList (divide text.toList).scheme

theorem readPort_ne_usual {port : List Char} {scheme : String} {n : Int}
    (h : readPort port scheme = .ok (some n)) : schemePort? scheme ≠ some n := by
  unfold readPort at h
  split at h
  · cases h
  · split at h
    · cases h
    case h_2 own =>
      split at h
      · cases h
      case isFalse hother =>
        obtain rfl := Option.some.inj (Except.ok.inj h)
        simpa using hother

/-- A URL leaves out the usual port of its scheme if that was written in small letters. -/
theorem port_of_parse {text : String} {url : Url} (hparse : parse text = .ok url)
    (hsmall : writtenScheme text = url.scheme) {n : Int} (hport : url.port = some n) :
    schemePort? url.scheme ≠ some n := by
  unfold parse at hparse
  dsimp only at hparse
  split at hparse
  · cases hparse
  · split at hparse
    · cases hparse
    · obtain ⟨host, _, hparse⟩ := bind_eq_ok_iff.mp hparse
      obtain ⟨port, hread, hparse⟩ := bind_eq_ok_iff.mp hparse
      obtain ⟨_, _, hparse⟩ := bind_eq_ok_iff.mp hparse
      obtain rfl := Except.ok.inj hparse
      obtain rfl : port = some n := hport
      rw [← hsmall]
      exact readPort_ne_usual hread

end Url

/-- A request whose method and host can be handed to a link. -/
structure Outgoing.Plain (request : Outgoing) : Prop where
  method : request.method.toList.all Text.isAscii = true
  host : request.url.host.toList.all Text.isAscii = true

/-- A request on a link that says what a request of the exchange says. -/
structure LinkRequest.Says (core : LinkRequest) (request : Outgoing) : Prop where
  method : core.method = request.method
  scheme : core.scheme = request.url.scheme
  host : core.host = request.url.host
  port : core.port = request.url.port
  usual : ∀ text, Url.parse text = .ok request.url → Url.writtenScheme text = request.url.scheme →
    ∀ port, core.port = some port → Url.schemePort? core.scheme ≠ some port
  target : core.target = request.url.target
  headers : core.headers = request.headers
  body : core.body = request.body

/-- A report that tells the exchange about a fault of a link while it sent a request: under
the class that stands for the nearest ancestor, with the text, the fault itself and the
request, or else the fault as it is. -/
structure LinkReport.Tells (report : LinkReport) (request : Outgoing) (fault : LinkFault) :
    Prop where
  known : ∀ found, fault.cls.NearestIs found →
    report = ⟨⟨found, fault.text⟩, some fault, some request⟩
  foreign : (∀ ancestor ∈ fault.cls.lineage, ancestor.counterpart? = none) →
    report = ⟨⟨.outside fault.cls.name, fault.text⟩, none, none⟩

def LinkReply.decoders (reply : LinkReply) : List Coding.Decoder :=
  Coding.Decoder.ofHeaders (Headers.decode reply.headers)

/-- What the chunks of a reply come to once their codings are undone. -/
def LinkReply.content (reply : LinkReply) : Except Fault Bytes :=
  Coding.Decoder.decoded reply.decoders (reply.chunks.filter (!·.isEmpty))

/-- A response that relays a reply. -/
structure LinkResponse.Relays (response : LinkResponse) (request : Outgoing)
    (reply : LinkReply) : Prop where
  status : response.status = reply.status
  reason : response.reason = reply.reason
  headers : response.headers = reply.headers
  /-- Without compression the content is what the chunks are together. -/
  joined : reply.failure = none → (∀ decoder ∈ reply.decoders, decoder = .plain) →
    response.read.1 = .ok reply.chunks.flatten
  content : reply.failure = none → ∀ body, reply.content = .ok body → response.read.1 = .ok body
  undecodable : ∀ fault, reply.content = .error fault →
    response.read.1 = .error (.undecodable fault)
  interrupted : ∀ fault body, reply.failure = some fault → reply.content = .ok body →
    ∃ report, response.read.1 = .error report ∧ report.Tells request fault
  closed : response.read.2.close.timesClosed = if reply.closable then 1 else 0
  settled : response.read.2.close.close = response.read.2.close

/-- What becomes of a request that is sent over a link. -/
structure Link.Transparent {σ : Type} (link : Link σ) (request : Outgoing) (world : σ) : Prop where
  refused : ¬ request.Plain → ∃ fault : Fault,
    fault.cls ∈ [.outside "UnicodeEncodeError", .outside "TypeError"] ∧
      link.noting.deliver request (world, []) = (.error { fault }, world, [])
  sent : request.Plain → ∃ core : LinkRequest, core.Says request ∧
    (link.noting.deliver request (world, [])).2 = ((link.send core world).2, [(core, world)]) ∧
    (∀ fault, (link.send core world).1 = .error fault →
      ∃ report : LinkReport,
        (link.deliver request world).1 = .error report ∧ report.Tells request fault) ∧
    ∀ reply, (link.send core world).1 = .ok reply →
      ∃ response : LinkResponse,
        (link.deliver request world).1 = .ok response ∧ response.Relays request reply

theorem LinkRequest.ofOutgoing_of_plain {request : Outgoing} (hplain : request.Plain) :
    ∃ core, ofOutgoing request = .ok core ∧ core.Says request := by
  unfold ofOutgoing
  rw [(Text.asciiComplaint_eq_none_iff _).mpr hplain.host]
  dsimp only
  rw [if_pos hplain.method]
  refine ⟨_, rfl, ?_⟩
  constructor
  case usual =>
    intro text hparse hsmall port hport
    exact Url.port_of_parse hparse hsmall hport
  all_goals rfl

theorem LinkRequest.ofOutgoing_of_not_plain {request : Outgoing} (hplain : ¬ request.Plain) :
    ∃ fault, ofOutgoing request = .error fault ∧
      fault.cls ∈ [.outside "UnicodeEncodeError", .outside "TypeError"] := by
  unfold ofOutgoing
  cases hhost : Text.asciiComplaint request.url.host.toList with
  | some complaint => exact ⟨_, rfl, List.mem_cons_self⟩
  | none =>
      dsimp only
      split
      case isTrue hmethod =>
        exact absurd ⟨hmethod, (Text.asciiComplaint_eq_none_iff _).mp hhost⟩ hplain
      case isFalse => exact ⟨_, rfl, List.mem_cons_of_mem _ List.mem_cons_self⟩

theorem LinkFault.tells_report (request : Outgoing) (fault : LinkFault) :
    (fault.report request).Tells request fault := by
  constructor
  case known =>
    intro found hnearest
    rw [report, LinkClass.reportedAs?_eq_some_iff.mpr hnearest]
  case foreign =>
    intro hnone
    rw [report, LinkClass.reportedAs?_eq_none_iff.mpr hnone]

namespace LinkReply

variable (request : Outgoing) (reply : LinkReply)

theorem read_respond :
    (reply.respond request).read =
      match reply.content with
      | .error fault => (.error (.undecodable fault), reply.respond request)
      | .ok body =>
        match reply.failure with
        | some fault => (.error (fault.report request), reply.respond request)
        | none => (.ok body, (reply.respond request).close) := by
  let response := reply.respond request
  have hread : ((⟨response.chunks, none⟩ : BodyStream).read response.incoming.fields).1 =
      reply.content := by
    rw [BodyStream.read_eq]
    change reply.content >>= _ = _
    cases reply.content <;> rfl
  unfold LinkResponse.read
  dsimp only
  rw [hread]
  cases reply.content with
  | error fault => rfl
  | ok body => cases hfailure : reply.failure <;> simp only [respond, hfailure, Option.map]

/-- A response to which nothing has been done yet is closed once. -/
theorem timesClosed_close_respond :
    (reply.respond request).close.timesClosed = if reply.closable then 1 else 0 := by
  exact Nat.zero_add _

end LinkReply

theorem LinkResponse.close_close (response : LinkResponse) :
    response.close.close = response.close := by
  cases hclosed : response.isClosed with
  | true => simp [close, hclosed]
  | false => simp [close, hclosed]

theorem LinkReply.relays_respond (request : Outgoing) (reply : LinkReply) :
    (reply.respond request).Relays request reply := by
  have hread := reply.read_respond request
  constructor
  case status => rfl
  case reason => rfl
  case headers => rfl
  case joined =>
    intro hwell hplain
    have hcontent : reply.content = .ok reply.chunks.flatten := by
      rw [content, Coding.Decoder.decoded_plain hplain, List.flatten_filter_not_isEmpty]
    rw [hread, hcontent, hwell]
  case content =>
    intro hwell body hcontent
    rw [hread, hcontent, hwell]
  case undecodable =>
    intro fault hcontent
    rw [hread, hcontent]
  case interrupted =>
    intro fault body hfailure hcontent
    refine ⟨fault.report request, ?_, fault.tells_report request⟩
    rw [hread, hcontent, hfailure]
  case closed =>
    -- Whoever reads to the end has closed the stream; whoever does not still has to.
    have hclosed := reply.timesClosed_close_respond request
    rw [hread]
    cases reply.content with
    | error fault => exact hclosed
    | ok body =>
        cases reply.failure with
        | some fault => exact hclosed
        | none =>
            have hsettled := (reply.respond request).close_close
            exact (congrArg LinkResponse.timesClosed hsettled).trans hclosed
  case settled => exact LinkResponse.close_close _

theorem Link.deliver_eq {σ : Type} {link : Link σ} {request : Outgoing} {core : LinkRequest}
    (hcore : LinkRequest.ofOutgoing request = .ok core) (world : σ) :
    link.deliver request world =
      match link.send core world with
      | (.error fault, after) => (.error (fault.report request), after)
      | (.ok reply, after) => (.ok (reply.respond request), after) := by
  rcases hsend : link.send core world with ⟨fault | reply, after⟩
  · simp only [deliver, hcore, hsend]
  · simp only [deliver, hcore, hsend]

/-- Whatever a link does with a request, it is transparent to it. -/
theorem Link.transparent {σ : Type} (link : Link σ) (request : Outgoing) (world : σ) :
    link.Transparent request world := by
  constructor
  case refused =>
    intro hplain
    obtain ⟨fault, hfault, hcls⟩ := LinkRequest.ofOutgoing_of_not_plain hplain
    refine ⟨fault, hcls, ?_⟩
    rw [deliver, hfault]
  case sent =>
    intro hplain
    obtain ⟨core, hcore, hsays⟩ := LinkRequest.ofOutgoing_of_plain hplain
    refine ⟨core, hsays, ?_, ?_, ?_⟩
    · have hnoted : link.noting.send core (world, []) =
          ((link.send core world).1, (link.send core world).2, [(core, world)]) := rfl
      rw [deliver_eq hcore, hnoted]
      rcases link.send core world with ⟨fault | reply, after⟩ <;> rfl
    · intro fault hfault
      refine ⟨fault.report request, ?_, fault.tells_report request⟩
      rw [deliver_eq hcore, ← Prod.eta (link.send core world), hfault]
    · intro reply hreply
      refine ⟨reply.respond request, ?_, reply.relays_respond request⟩
      rw [deliver_eq hcore, ← Prod.eta (link.send core world), hreply]

/-- Where a link does not hand on everything as it is: a coding of the body is undone, a
usual port stays if the scheme is written in capital letters, and a method outside ASCII
goes nowhere. -/
theorem Link.exceptions_to_transparency :
    let home : Url := ⟨"http", "", "mmsc.example.net", none, "/", none, none⟩
    let ask (method : String) (url : Url) : Outgoing := ⟨method, url, [], [], .ofInt 60⟩
    let squeezed : LinkReply :=
      { status := 200
        reason := none
        headers := [("Content-Encoding".toUTF8.toList, "deflate".toUTF8.toList)]
        chunks := [[0x78, 0x01, 0x01, 0x01, 0x00, 0xfe, 0xff, 0x41, 0x00, 0x42, 0x00, 0x42]]
        failure := none }
    let link : Link Unit :=
      { acquire := fun _ world => (.ok [], world)
        send := fun _ world => (.ok squeezed, world)
        release := fun _ world => world }
    (∃ response : LinkResponse, (link.deliver (ask "GET" home) ()).1 = .ok response ∧
      response.read.1 = .ok [0x41] ∧ squeezed.chunks.flatten ≠ [0x41]) ∧
    (∃ url, Url.parse "HTTP://mmsc.example.net:80/" = .ok url ∧
      (LinkRequest.ofOutgoing (ask "GET" url)).map (fun core => (core.scheme, core.port)) =
        .ok ("http", some 80)) ∧
    (link.noting.deliver (ask "GÉT" home) ((), [])).2.2 = [] := by
  intro home ask squeezed link
  refine ⟨⟨squeezed.respond (ask "GET" home), by decide +kernel, by decide +kernel, by decide⟩,
    ⟨⟨"http", "", "mmsc.example.net", some 80, "/", none, none⟩, by decide +kernel,
      by decide +kernel⟩, by decide +kernel⟩

end MmsHttp
