import MmsHttp.Exchange.Message
import MmsHttp.Url.Reference

namespace MmsHttp

namespace Redirect

/-- The method of the next request. After 303 and 302 it is always GET, after 301 a POST
becomes GET; the other methods stay. -/
def method (status : Nat) (method : String) : String :=
  if status == 303 && method != "HEAD" then "GET"
  else if status == 302 && method != "HEAD" then "GET"
  else if status == 301 && method == "POST" then "GET"
  else method

/-- A URL with the host of another one if it has none. -/
def inheritHost (here next : Url) : Except Fault Url := do
  if (← next.readableHost) == "" then Url.orFault (next.withHost (← here.readableHost))
  else pure next

/-- The URL that a location leads to from another one. A location that is no URL breaks
the protocol; one with a scheme but without a host gets the host, a relative one is
resolved, and the fragment carries over unless the location has its own. -/
def url (here : Url) (location : String) : Except Fault Url := do
  let next ←
    match Url.parse location with
    | .ok next => pure next
    | .error _ => throw .remoteProtocol
  let next ← if next.scheme == "" then pure next else inheritHost here next
  let next ← if next.isAbsolute then pure next else Url.resolve here next
  let fragment := here.plainFragment
  if fragment != "" && next.plainFragment == "" then Url.orFault (next.withFragment fragment)
  else pure next

def sameOrigin (a b : Url) : Except Fault Bool := do
  if a.scheme != b.scheme then pure false
  else
    let hostA ← a.readableHost
    let hostB ← b.readableHost
    pure (hostA == hostB && a.effectivePort == b.effectivePort)

/-- Whether a redirect only turns plain HTTP into HTTPS on the usual ports of a host. -/
def isUpgrade (here next : Url) : Except Fault Bool := do
  let hostA ← here.readableHost
  let hostB ← next.readableHost
  pure (hostA == hostB && here.scheme == "http" && here.effectivePort == some 80 &&
    next.scheme == "https" && next.effectivePort == some 443)

/-- The headers of the next request. Another origin gets no authorization, unless it is
only the secure form of this one, and its own host; a request that has become a GET has
no body to describe; cookies are chosen anew. -/
def headers (request : Outgoing) (next : Url) (method : String) :
    Except Fault (List Header) := do
  let headers ←
    if ← sameOrigin next request.url then pure request.headers
    else
      let headers ←
        if ← isUpgrade request.url next then pure request.headers
        else pure (Headers.erase request.headers "Authorization")
      pure (Headers.set headers ("Host", ← Outgoing.hostValue next))
  let headers :=
    if method != request.method && method == "GET" then
      Headers.erase (Headers.erase headers "Content-Length") "Transfer-Encoding"
    else headers
  pure (Headers.erase headers "Cookie")

/-- Adds the cookies for a URL. If there are any at all, the URL has to be a place for them,
and a header can only take ASCII. -/
def withCookies (present : Instant) (jar : Jar) (url : Url) (headers : List Header) :
    Except Fault (List Header) :=
  if jar.cookies.isEmpty then .ok headers
  else do
    match ← Cookie.header? present jar url with
    | none => pure headers
    | some value =>
      match Text.asciiComplaint value.toList with
      | none => pure (Headers.set headers ("Cookie", value))
      | some complaint => throw ⟨.outside "UnicodeEncodeError", complaint⟩

def next (present : Instant) (request : Outgoing) (status : Nat) (location : String)
    (jar : Jar) : Except Fault Outgoing := do
  let method := Redirect.method status request.method
  let url ← Redirect.url request.url location
  let headers ← Redirect.headers request url method
  let headers ← withCookies present jar url headers
  if method != request.method && method == "GET" then
    let headers ← Outgoing.completeHeaders method url headers []
    pure { request with method, url, headers, body := [] }
  else pure { request with method, url, headers }

end Redirect

end MmsHttp
