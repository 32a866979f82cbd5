import MmsHttp.Cookie.Jar
import MmsHttp.Cookie.Offer
import MmsHttp.Cookie.Place
import MmsHttp.Headers

/-!
Cookies that a response sets, kept for the later requests of the same call. A cookie goes
back to the hosts, paths, ports and kinds of connection that it was set for, as long as it
has not ended.
-/

namespace MmsHttp.Cookie

open Text

/-- The path for a cookie that names none: the folder of the request. -/
def defaultPath (place : Place) (version : Option Int) : List Char :=
  let path :=
    match cutLast (· == '/') place.path with
    | (none, path) => path
    | (some folder, _) => if version == some 0 then folder else folder ++ ['/']
  if path.isEmpty then ['/'] else path

/-- The cookie of an offer, and whether it only removes an earlier one. -/
def ofOffer (now : Int) (place : Place) (offer : Offer) : Except Refusal (Cookie × Bool) := do
  let wishes := offer.wishes
  let version ←
    match wishes.version with
    | none => pure none
    | some text =>
      match integer? text with
      | some version => pure (some version)
      | none => throw .cookie
  let path :=
    match wishes.path with
    | some path => if path.isEmpty then defaultPath place version else comparablePath path
    | none => defaultPath place version
  let domain :=
    match wishes.domain with
    | some domain => if domain.head? == some '.' then domain else '.' :: domain
    | none => place.domain
  let port ←
    match wishes.port with
    | none => pure none
    | some (some ports) => pure (some (ports.filter (!isBlank ·)))
    | some none =>
      match place.port? with
      | .ok port => pure port
      | .error _ => throw .all
  let cookie : Cookie :=
    { name := String.ofList offer.name
      value := offer.value.map String.ofList
      version, domain, path, port
      hasDomain := wishes.domain.isSome
      hasPort := wishes.port.any (·.isSome)
      secure := wishes.secure.getD false
      expires := none }
  match wishes.ending with
  | none => pure (cookie, false)
  | some (.at time) => pure ({ cookie with expires := some time }, time ≤ now)
  | some .unclear => throw .all

/-- The cookies that offers remove, and those that they set. If one of them spoils all, what
went before it has been removed, but nothing is set. -/
def sort (now : Int) (place : Place) : List Offer → List Cookie × Option (List Cookie)
  | [] => ([], some [])
  | offer :: rest =>
    match ofOffer now place offer with
    | .error .cookie => sort now place rest
    | .error .all => ([], none)
    | .ok (cookie, removes) =>
      let (removed, set) := sort now place rest
      if removes then (cookie :: removed, set) else (removed, set.map (cookie :: ·))

def endsWith (tail cs : List Char) : Bool :=
  tail.reverse.isPrefixOf cs.reverse

/-- Whether a cookie may be set for its domain from a place. -/
def mayName (place : Place) (cookie : Cookie) : Bool :=
  let effective := place.domain
  let undotted := if cookie.domain.head? == some '.' then cookie.domain.tail else cookie.domain
  if !undotted.contains '.' && !endsWith ".local".toList effective then false
  else
    cookie.version != some 0 || endsWith cookie.domain effective ||
      endsWith (undotted ++ ".local".toList) effective || effective.head? == some '.' ||
      endsWith cookie.domain ('.' :: effective)

/-- Whether a port is among those that a cookie names. What is no number ends the search. -/
def namesPort (port : List Char) : List (List Char) → Bool
  | [] => false
  | own :: rest => (integer? own).isSome && (own == port || namesPort port rest)

/-- Whether a cookie is kept that was set from a place. -/
def accepts (place : Place) (cookie : Cookie) : Except Fault Bool :=
  if !cookie.version.any (· ≤ 0) || cookie.hasDomain && !mayName place cookie then .ok false
  else if cookie.hasPort then
    place.port.map fun port => namesPort port (splitBy (· == ',') (cookie.port.getD []))
  else .ok true

/-- The cookies that pass a test, up to the first one that cannot be tested. -/
def passing (test : Cookie → Except Fault Bool) : List Cookie → Except Fault (List Cookie)
  | [] => .ok []
  | cookie :: rest => do
    let passes ← test cookie
    let rest ← passing test rest
    pure (if passes then cookie :: rest else rest)

/-- What the headers of a response do to a jar: cookies that go, and then cookies that come. -/
structure Change where
  removed : List Cookie
  set : List Cookie
  deriving DecidableEq, Repr

/-- A cookie of the first version in an old header counts as one of version zero. -/
def plain (cookie : Cookie) : Cookie :=
  if cookie.version == some 1 then { cookie with version := some 0 } else cookie

/-- What a response does to the cookies. New headers count only next to old ones. -/
def change (present : Instant) (url : Url) (headers : List Header) : Except Fault Change := do
  let place ← placeOf url.text.toList
  let old := Headers.values headers "set-cookie"
  if old.isEmpty then pure ⟨[], []⟩
  else
    let sorted (offers : Option (List Offer)) : List Cookie × List Cookie :=
      let (removed, set) := sort present.seconds place (offers.getD [])
      (removed, set.getD [])
    let words := sorted (wordOffers? present (Headers.values headers "set-cookie2"))
    let pieces := sorted (plainOffers? present old)
    let set ← passing (accepts place) (words.2 ++ pieces.2.map plain)
    pure ⟨words.1 ++ pieces.1, set⟩

/-- The cookies after a change. -/
def Change.apply (change : Change) (jar : Jar) : Jar :=
  change.set.foldl Jar.put (change.removed.foldl Jar.remove jar)

/-- Whether a cookie goes to a place. Its ports are compared before its domain is compared
again. -/
def goesTo (now : Int) (place : Place) (cookie : Cookie) : Except Fault Bool :=
  let dotted (cs : List Char) : List Char := if cs.head? == some '.' then cs else '.' :: cs
  let domain := dotted cookie.domain
  let near := endsWith domain (dotted place.host) || endsWith domain (dotted place.domain)
  let below := place.path == cookie.path ||
    startsWith cookie.path place.path &&
      (cookie.path.getLast? == some '/' ||
        (place.path.drop cookie.path.length).head? == some '/')
  let safe := !cookie.secure || ["https".toList, "wss".toList].contains place.scheme
  let own := cookie.version != some 0 || endsWith domain ('.' :: place.domain)
  if !(near && below && safe) || cookie.expires.any (· ≤ now) then .ok false
  else
    match cookie.port with
    | none | some [] => .ok own
    | some ports =>
      place.port.map fun port => (splitBy (· == ',') ports).contains port && own

/-- The value of the header that takes cookies to a URL, longer paths first. -/
def header? (present : Instant) (jar : Jar) (url : Url) : Except Fault (Option String) := do
  let place ← placeOf url.text.toList
  let cookies ← passing (goesTo present.seconds place) jar.cookies
  let sorted := cookies.mergeSort fun a b => b.path.length ≤ a.path.length
  if sorted.isEmpty then pure none
  else
    pure (some (String.intercalate "; " (sorted.map fun cookie =>
      match cookie.value with
      | none => cookie.name
      | some value => cookie.name ++ "=" ++ value)))

end MmsHttp.Cookie
