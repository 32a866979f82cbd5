import MmsHttp.Proofs.Cookie
import MmsHttp.Proofs.Exchange.Location
import MmsHttp.Proofs.Exchange.Message

/-!
When there is a next request. The place that a location leads to has to have a readable
host, and what the request says about that place and takes there has to be ASCII. A
request that was sound before is sound again afterwards, so nothing else can go wrong
along a chain of redirects.
-/

namespace MmsHttp

namespace Redirect

open Fault

/-- Two URLs with the same scheme, host and port, as `sameOrigin` compares them. -/
structure SameOrigin (a b : Url) : Prop where
  scheme : a.scheme = b.scheme
  host : a.readableHost = b.readableHost
  port : a.effectivePort = b.effectivePort

theorem exists_sameOrigin {a b : Url} {hostA hostB : String} (ha : a.readableHost = .ok hostA)
    (hb : b.readableHost = .ok hostB) :
    ∃ same, sameOrigin a b = .ok same ∧ (same = true ↔ SameOrigin a b) := by
  have hhost : a.readableHost = b.readableHost ↔ hostA = hostB := by simp [ha, hb]
  by_cases hscheme : a.scheme = b.scheme
  · refine ⟨hostA == hostB && a.effectivePort == b.effectivePort, ?_, ?_⟩
    · simp [sameOrigin, hscheme, ha, hb, bind, Except.bind, pure, Except.pure]
    · simp only [Bool.and_eq_true, beq_iff_eq]
      exact ⟨fun h => ⟨hscheme, hhost.mpr h.1, h.2⟩, fun h => ⟨hhost.mp h.host, h.port⟩⟩
  · refine ⟨false, ?_, ?_⟩
    · simp [sameOrigin, hscheme, pure, Except.pure]
    · simp only [Bool.false_eq_true, false_iff]
      exact fun h => hscheme h.scheme

theorem exists_isUpgrade {here next : Url} {hostA hostB : String}
    (hhere : here.readableHost = .ok hostA) (hnext : next.readableHost = .ok hostB) :
    ∃ upgrade, isUpgrade here next = .ok upgrade := by
  rw [isUpgrade, hhere, hnext]
  exact ⟨_, rfl⟩

private def keptHeaders (request : Outgoing) (method : String) (headers : List Header) :
    List Header :=
  let headers :=
    if method != request.method && method == "GET" then
      Headers.erase (Headers.erase headers "Content-Length") "Transfer-Encoding"
    else headers
  Headers.erase headers "Cookie"

private theorem has_host_keptHeaders (request : Outgoing) (method : String)
    (headers : List Header) (hhost : Headers.has headers "Host" = true) :
    Headers.has (keptHeaders request method headers) "Host" = true := by
  unfold keptHeaders
  apply Headers.has_erase _ "Host" "Cookie" (by decide)
  split
  · apply Headers.has_erase _ "Host" "Transfer-Encoding" (by decide)
    exact Headers.has_erase _ "Host" "Content-Length" (by decide) hhost
  · exact hhost

private theorem headers_of_sameOrigin {request : Outgoing} {next : Url} (method : String)
    (hsame : sameOrigin next request.url = .ok true) :
    headers request next method = .ok (keptHeaders request method request.headers) := by
  unfold headers
  rw [hsame]
  rfl

private theorem headers_of_otherOrigin {request : Outgoing} {next : Url} (method : String)
    (hother : sameOrigin next request.url = .ok false) :
    headers request next method =
      isUpgrade request.url next >>= fun upgrade =>
        Outgoing.hostValue next >>= fun host =>
          let headers :=
            if upgrade then request.headers else Headers.erase request.headers "Authorization"
          .ok (keptHeaders request method (Headers.set headers ("Host", host))) := by
  unfold headers
  rw [hother]
  rcases isUpgrade request.url next with fault | upgrade
  · rfl
  · cases upgrade <;> rfl

theorem readableHost_of_headers {request : Outgoing} {next : Url} {method : String}
    {made : List Header} (h : headers request next method = .ok made) :
    ∃ host, next.readableHost = .ok host := by
  obtain ⟨same, hsame, _⟩ := bind_eq_ok_iff.mp h
  cases same with
  | true =>
      unfold sameOrigin at hsame
      split at hsame
      · simp [pure, Except.pure] at hsame
      · obtain ⟨host, hhost, _⟩ := bind_eq_ok_iff.mp hsame
        exact ⟨host, hhost⟩
  | false =>
      rw [headers_of_otherOrigin method hsame] at h
      obtain ⟨upgrade, hupgrade, _⟩ := bind_eq_ok_iff.mp h
      obtain ⟨_, _, hupgrade⟩ := bind_eq_ok_iff.mp hupgrade
      obtain ⟨host, hhost, _⟩ := bind_eq_ok_iff.mp hupgrade
      exact ⟨host, hhost⟩

/-- Headers can be made for a place exactly when its host can be read and, unless it is
the origin of the request, written in ASCII. -/
theorem headers_isOk_iff {request : Outgoing} (hsound : request.Sound) (next : Url)
    (method : String) :
    (∃ made, headers request next method = .ok made) ↔
      (∃ host, next.readableHost = .ok host) ∧
        (SameOrigin next request.url ∨ Outgoing.HostFits next) := by
  obtain ⟨hostHere, hhere⟩ := hsound.readable
  constructor
  · rintro ⟨made, h⟩
    obtain ⟨host, hhost⟩ := readableHost_of_headers h
    refine ⟨⟨host, hhost⟩, ?_⟩
    obtain ⟨same, hsame, horigin⟩ := exists_sameOrigin hhost hhere
    cases same with
    | true => exact Or.inl (horigin.mp rfl)
    | false =>
        rw [headers_of_otherOrigin method hsame] at h
        obtain ⟨upgrade, _, h⟩ := bind_eq_ok_iff.mp h
        obtain ⟨value, hvalue, _⟩ := bind_eq_ok_iff.mp h
        exact Or.inr (Outgoing.hostValue_eq_ok_iff.mp hvalue).1
  · rintro ⟨⟨host, hhost⟩, hplace⟩
    obtain ⟨same, hsame, horigin⟩ := exists_sameOrigin hhost hhere
    obtain ⟨upgrade, hupgrade⟩ := exists_isUpgrade hhere hhost
    cases same with
    | true => exact ⟨_, headers_of_sameOrigin method hsame⟩
    | false =>
        rw [headers_of_otherOrigin method hsame]
        have hascii := hplace.resolve_left fun h => by simpa using horigin.mpr h
        have hvalue := Outgoing.hostValue_eq_ok_iff.mpr ⟨hascii, rfl⟩
        exact ⟨_, bind_eq_ok_iff.mpr ⟨upgrade, hupgrade, bind_eq_ok_iff.mpr ⟨_, hvalue, rfl⟩⟩⟩

theorem foreign_sameOrigin (a b : Url) : Foreign (sameOrigin a b) := by
  unfold sameOrigin
  split
  · exact Foreign.ok false
  · exact (foreign_readableHost a).bind fun _ _ =>
      (foreign_readableHost b).bind fun _ _ => Foreign.ok _

theorem foreign_isUpgrade (here next : Url) : Foreign (isUpgrade here next) :=
  (foreign_readableHost here).bind fun _ _ =>
    (foreign_readableHost next).bind fun _ _ => Foreign.ok _

theorem foreign_headers (request : Outgoing) (next : Url) (method : String) :
    Foreign (headers request next method) := by
  rcases hsame : sameOrigin next request.url with fault | same
  · unfold headers
    rw [hsame]
    exact Foreign.error (foreign_sameOrigin next request.url fault hsame)
  · cases same with
    | true =>
        rw [headers_of_sameOrigin method hsame]
        exact Foreign.ok _
    | false =>
        rw [headers_of_otherOrigin method hsame]
        exact (foreign_isUpgrade request.url next).bind fun _ _ =>
          (Outgoing.foreign_hostValue next).bind fun _ _ => Foreign.ok _

private theorem mem_keptHeaders {request : Outgoing} {method : String} {headers : List Header}
    {header : Header} (hmem : header ∈ keptHeaders request method headers) : header ∈ headers := by
  unfold keptHeaders at hmem
  have hkept := Headers.mem_of_mem_erase hmem
  split at hkept
  · exact Headers.mem_of_mem_erase (Headers.mem_of_mem_erase hkept)
  · exact hkept

theorem mem_headers {request : Outgoing} {next : Url} {method : String} {made : List Header}
    (h : headers request next method = .ok made) {header : Header} (hmem : header ∈ made) :
    header ∈ request.headers ∨ header.1 = "Host" := by
  obtain ⟨same, hsame, _⟩ := bind_eq_ok_iff.mp h
  cases same with
  | true =>
      rw [headers_of_sameOrigin method hsame] at h
      obtain rfl := Except.ok.inj h
      exact Or.inl (mem_keptHeaders hmem)
  | false =>
      rw [headers_of_otherOrigin method hsame] at h
      obtain ⟨upgrade, _, h⟩ := bind_eq_ok_iff.mp h
      obtain ⟨value, _, h⟩ := bind_eq_ok_iff.mp h
      obtain rfl := Except.ok.inj h
      rcases (Headers.mem_set_iff _ _ _).mp (mem_keptHeaders hmem) with rfl | ⟨hkept, _⟩
      · exact Or.inr rfl
      · split at hkept
        · exact Or.inl hkept
        · exact Or.inl (Headers.mem_of_mem_erase hkept)

theorem has_host_headers {request : Outgoing} {next : Url} {method : String}
    {made : List Header} (hhost : Headers.has request.headers "Host" = true)
    (h : headers request next method = .ok made) : Headers.has made "Host" = true := by
  obtain ⟨same, hsame, _⟩ := bind_eq_ok_iff.mp h
  cases same with
  | true =>
      rw [headers_of_sameOrigin method hsame] at h
      obtain rfl := Except.ok.inj h
      exact has_host_keptHeaders request method _ hhost
  | false =>
      rw [headers_of_otherOrigin method hsame] at h
      obtain ⟨upgrade, _, h⟩ := bind_eq_ok_iff.mp h
      obtain ⟨value, _, h⟩ := bind_eq_ok_iff.mp h
      obtain rfl := Except.ok.inj h
      exact has_host_keptHeaders request method _ (Headers.has_set_self _ "Host" value)

/-- There are no cookies to take along, or the URL is a place for them and they can go there
in a header. -/
def CookiesFit (present : Instant) (jar : Jar) (url : Url) : Prop :=
  jar.cookies = [] ∨ ∃ sent, Cookie.header? present jar url = .ok sent ∧
    ∀ value, sent = some value → value.toList.all Text.isAscii = true

theorem withCookies_isOk_iff (present : Instant) (jar : Jar) (url : Url)
    (headers : List Header) :
    (∃ made, withCookies present jar url headers = .ok made) ↔ CookiesFit present jar url := by
  unfold withCookies CookiesFit
  cases hjar : jar.cookies with
  | nil => simp
  | cons cookie rest =>
      simp only [List.isEmpty_cons, Bool.false_eq_true, if_false, reduceCtorEq, false_or]
      cases Cookie.header? present jar url with
      | error fault => simp [bind, Except.bind]
      | ok sent =>
          cases sent with
          | none => simp [bind, Except.bind, pure, Except.pure]
          | some value =>
              simp only [Except.ok.injEq, exists_eq_left', Option.some.injEq, forall_eq',
                ← Text.asciiComplaint_eq_none_iff]
              cases hvalue : Text.asciiComplaint value.toList with
              | none => simp [bind, Except.bind, hvalue, pure, Except.pure]
              | some complaint =>
                  simp [bind, Except.bind, hvalue, throw, throwThe, MonadExceptOf.throw]

theorem foreign_withCookies (present : Instant) (jar : Jar) (url : Url)
    (headers : List Header) : Foreign (withCookies present jar url headers) := by
  unfold withCookies
  split
  · exact Foreign.ok headers
  · apply (Cookie.foreign_header? present jar url).bind
    intro sent _
    split
    · exact Foreign.ok headers
    · split
      · exact Foreign.ok _
      · exact Foreign.error rfl

/-- Cookies are added to the headers, if there are any that go to the URL, in one header. -/
theorem withCookies_eq_ok {present : Instant} {jar : Jar} {url : Url}
    {headers made : List Header} (h : withCookies present jar url headers = .ok made) :
    made = headers ∨ ∃ value, made = Headers.set headers ("Cookie", value) := by
  unfold withCookies at h
  split at h
  · exact Or.inl (Except.ok.inj h).symm
  · obtain ⟨sent, _, h⟩ := bind_eq_ok_iff.mp h
    split at h
    · exact Or.inl (Except.ok.inj h).symm
    case h_2 value _ =>
      split at h
      · exact Or.inr ⟨value, (Except.ok.inj h).symm⟩
      · cases h

theorem has_host_withCookies {present : Instant} {jar : Jar} {url : Url}
    {headers made : List Header} (hhost : Headers.has headers "Host" = true)
    (h : withCookies present jar url headers = .ok made) : Headers.has made "Host" = true := by
  rcases withCookies_eq_ok h with rfl | ⟨value, rfl⟩
  · exact hhost
  · exact Headers.has_set headers _ "Host" hhost

/-- A location that a request can follow at an instant with the cookies so far. -/
def Followable (present : Instant) (request : Outgoing) (location : String) (jar : Jar) : Prop :=
  ∃ target, LeadsTo request.url location target ∧ (∃ host, target.readableHost = .ok host) ∧
    (SameOrigin target request.url ∨ Outgoing.HostFits target) ∧ CookiesFit present jar target

/-- The request with the headers for another place. One that has become a GET is completed
anew. -/
private def moved (request : Outgoing) (method : String) (target : Url)
    (headers : List Header) : Except Fault Outgoing :=
  if method != request.method && method == "GET" then
    Outgoing.completeHeaders method target headers [] >>= fun headers =>
      .ok { request with method, url := target, headers, body := [] }
  else .ok { request with method, url := target, headers }

private theorem next_eq (present : Instant) (request : Outgoing) (status : Nat)
    (location : String) (jar : Jar) :
    next present request status location jar =
      url request.url location >>= fun target =>
        headers request target (method status request.method) >>= fun made =>
          withCookies present jar target made >>= fun made =>
            moved request (method status request.method) target made := rfl

private theorem exists_moved (request : Outgoing) (method : String) (target : Url)
    {headers : List Header} (hhost : Headers.has headers "Host" = true) :
    ∃ next, moved request method target headers = .ok next := by
  unfold moved
  split
  · obtain ⟨made, hmade⟩ := Outgoing.exists_completeHeaders hhost method target []
    exact ⟨_, bind_eq_ok_iff.mpr ⟨made, hmade, rfl⟩⟩
  · exact ⟨_, rfl⟩

private theorem of_moved {request next : Outgoing} {method : String} {target : Url}
    {headers : List Header} (hhost : Headers.has headers "Host" = true)
    (h : moved request method target headers = .ok next) :
    next.url = target ∧ Headers.has next.headers "Host" = true := by
  unfold moved at h
  split at h
  · obtain ⟨made, hmade, h⟩ := bind_eq_ok_iff.mp h
    obtain rfl := Except.ok.inj h
    exact ⟨rfl, Outgoing.has_host_completeHeaders (Or.inl hhost) hmade⟩
  · obtain rfl := Except.ok.inj h
    exact ⟨rfl, hhost⟩

private theorem payload_of_moved {request next : Outgoing} {method : String} {target : Url}
    {headers : List Header} (h : moved request method target headers = .ok next) :
    next.method = method ∧
      next.body = if method ≠ request.method ∧ method = "GET" then [] else request.body := by
  unfold moved at h
  split at h
  case isTrue hfetches =>
    obtain ⟨made, _, h⟩ := bind_eq_ok_iff.mp h
    obtain rfl := Except.ok.inj h
    exact ⟨rfl, (if_pos (by simpa using hfetches)).symm⟩
  case isFalse hstays =>
    obtain rfl := Except.ok.inj h
    exact ⟨rfl, (if_neg (by simpa using hstays)).symm⟩

private theorem mem_of_moved {request next : Outgoing} {method : String} {target : Url}
    {headers : List Header} (h : moved request method target headers = .ok next)
    {header : Header} (hmem : header ∈ next.headers) :
    header ∈ headers ∨ header.1 ∈ ["Host", "Content-Length"] := by
  unfold moved at h
  split at h
  · obtain ⟨made, hmade, h⟩ := bind_eq_ok_iff.mp h
    obtain rfl := Except.ok.inj h
    exact Outgoing.mem_completeHeaders hmade hmem
  · obtain rfl := Except.ok.inj h
    exact Or.inl hmem

private theorem foreign_moved (request : Outgoing) (method : String) (target : Url)
    (headers : List Header) : Foreign (moved request method target headers) := by
  unfold moved
  split
  · exact (Outgoing.foreign_completeHeaders _ _ _ _).bind fun _ _ => Foreign.ok _
  · exact Foreign.ok _

theorem next_isOk_iff {request : Outgoing} (hsound : request.Sound) (present : Instant)
    (status : Nat) (location : String) (jar : Jar) :
    (∃ further, next present request status location jar = .ok further) ↔
      Followable present request location jar := by
  constructor
  · rintro ⟨further, h⟩
    rw [next_eq] at h
    obtain ⟨target, htarget, h⟩ := bind_eq_ok_iff.mp h
    obtain ⟨made, hmade, h⟩ := bind_eq_ok_iff.mp h
    obtain ⟨withJar, hjar, _⟩ := bind_eq_ok_iff.mp h
    obtain ⟨hreadable, hplace⟩ := (headers_isOk_iff hsound target _).mp ⟨made, hmade⟩
    exact ⟨target, url_eq_ok_iff.mp htarget, hreadable, hplace,
      (withCookies_isOk_iff present jar target made).mp ⟨withJar, hjar⟩⟩
  · rintro ⟨target, htarget, hreadable, hplace, hcookies⟩
    obtain ⟨made, hmade⟩ := (headers_isOk_iff hsound target (method status request.method)).mpr
      ⟨hreadable, hplace⟩
    obtain ⟨withJar, hjar⟩ := (withCookies_isOk_iff present jar target made).mpr hcookies
    -- Completing the headers anew can only fail for want of a host, and there is one.
    have hhost := has_host_withCookies (has_host_headers hsound.hasHost hmade) hjar
    obtain ⟨further, hmoved⟩ := exists_moved request (method status request.method) target hhost
    refine ⟨further, ?_⟩
    rw [next_eq, url_eq_ok_iff.mpr htarget]
    exact bind_eq_ok_iff.mpr ⟨target, rfl, bind_eq_ok_iff.mpr ⟨made, hmade,
      bind_eq_ok_iff.mpr ⟨withJar, hjar, hmoved⟩⟩⟩

theorem sound_next {present : Instant} {request further : Outgoing} {status : Nat}
    {location : String} {jar : Jar} (hsound : request.Sound)
    (h : next present request status location jar = .ok further) : further.Sound := by
  rw [next_eq] at h
  obtain ⟨target, _, h⟩ := bind_eq_ok_iff.mp h
  obtain ⟨made, hmade, h⟩ := bind_eq_ok_iff.mp h
  obtain ⟨withJar, hjar, hmoved⟩ := bind_eq_ok_iff.mp h
  have hhost := has_host_withCookies (has_host_headers hsound.hasHost hmade) hjar
  obtain ⟨hurl, hfurther⟩ := of_moved hhost hmoved
  refine ⟨?_, hfurther⟩
  rw [hurl]
  exact readableHost_of_headers hmade

/-- The next request has the method that the status asks for. It goes on with the body
unless it has become a GET. -/
theorem payload_of_next {present : Instant} {request further : Outgoing} {status : Nat}
    {location : String} {jar : Jar}
    (h : next present request status location jar = .ok further) :
    further.method = method status request.method ∧
      further.body =
        if method status request.method ≠ request.method ∧ method status request.method = "GET"
        then [] else request.body := by
  rw [next_eq] at h
  obtain ⟨target, _, h⟩ := bind_eq_ok_iff.mp h
  obtain ⟨made, _, h⟩ := bind_eq_ok_iff.mp h
  obtain ⟨withJar, _, hmoved⟩ := bind_eq_ok_iff.mp h
  exact payload_of_moved hmoved

/-- A header of the next request is one of the request before it, or it names the host, the
length of the body or the cookies. -/
theorem mem_headers_of_next {present : Instant} {request further : Outgoing} {status : Nat}
    {location : String} {jar : Jar}
    (h : next present request status location jar = .ok further) {header : Header}
    (hmem : header ∈ further.headers) :
    header ∈ request.headers ∨ header.1 ∈ ["Host", "Content-Length", "Cookie"] := by
  rw [next_eq] at h
  obtain ⟨target, _, h⟩ := bind_eq_ok_iff.mp h
  obtain ⟨made, hmade, h⟩ := bind_eq_ok_iff.mp h
  obtain ⟨withJar, hjar, hmoved⟩ := bind_eq_ok_iff.mp h
  rcases mem_of_moved hmoved hmem with hcarried | hname
  · have hkept : header ∈ made ∨ header.1 = "Cookie" := by
      rcases withCookies_eq_ok hjar with rfl | ⟨value, rfl⟩
      · exact Or.inl hcarried
      · rcases (Headers.mem_set_iff _ _ _).mp hcarried with rfl | ⟨hmade, _⟩
        · exact Or.inr rfl
        · exact Or.inl hmade
    rcases hkept with hheader | hname
    · rcases mem_headers hmade hheader with hgiven | hname
      · exact Or.inl hgiven
      · exact Or.inr (by simp [hname])
    · exact Or.inr (by simp [hname])
  · simp only [List.mem_cons, List.not_mem_nil, or_false] at hname
    rcases hname with hname | hname
    · exact Or.inr (by simp [hname])
    · exact Or.inr (by simp [hname])

theorem next_of_parse_error {present : Instant} {request : Outgoing} {status : Nat}
    {location : String} {jar : Jar} {e : Url.Error} (hparse : Url.parse location = .error e) :
    next present request status location jar = .error .remoteProtocol := by
  rw [next_eq, url_of_parse_error hparse]
  rfl

/-- Whatever stops a request for a location that is a URL is no failure of the exchange. -/
theorem foreign_next_of_parse_ok {present : Instant} {request : Outgoing} {status : Nat}
    {location : String} {jar : Jar} {named : Url} (hparse : Url.parse location = .ok named) :
    Foreign (next present request status location jar) := by
  rw [next_eq]
  apply (foreign_url_of_parse_ok hparse).bind
  intro target _
  apply (foreign_headers request target _).bind
  intro made _
  apply (foreign_withCookies present jar target made).bind
  intro withJar _
  exact foreign_moved request _ target withJar

end Redirect

end MmsHttp
