import MmsHttp.Exchange.Channel

namespace MmsHttp

structure Client where
  followsRedirects : Bool
  timeout : Binary64
  deriving DecidableEq, Repr

namespace Client

/-- What all clients of an executor have in common: the resolver and the TLS settings, by
name. -/
structure Means where
  resolver : String := "system"
  tls : String := "default"
  deriving DecidableEq, Repr

/-- Whether clients for a scheme use TLS; nothing for a scheme without clients. -/
def isSecure? (scheme : String) : Option Bool :=
  if scheme == "http" then some false else if scheme == "https" then some true else none

/-- The timeout in seconds; a number of milliseconds past the range of doubles has none. -/
def timeoutSeconds (millis : Int) : Except Fault Binary64 :=
  match Binary64.ofInt millis with
  | .infinite _ => .error .overflow
  | exact => .ok (exact.divideBy 1000)

def Means.route (means : Means) (proxy : Option Proxy) (secure : Bool) : Route :=
  ⟨proxy, means.resolver, if secure then some means.tls else none⟩

/-- Makes the client for a scheme over a channel, together with the records that the
channel leaves. The channel is acquired first. -/
def open? {σ : Type} (channel : Channel σ) (means : Means) (scheme : String)
    (proxy : Option Proxy) (timeoutMillis : Int) (world : σ) :
    Except Fault Client × List Event × σ :=
  match isSecure? scheme with
  | none => (.error (.badValue ("Invalid URL or unrecognized protocol " ++ scheme)), [], world)
  | some secure =>
    match channel.acquire (means.route proxy secure) world with
    | (.error fault, world) => (.error fault, [], world)
    | (.ok events, world) =>
      ((timeoutSeconds timeoutMillis).map fun timeout => ⟨secure, timeout⟩, events, world)

end Client

end MmsHttp
