import MmsHttp.Clock
import MmsHttp.Cookie.Date
import MmsHttp.Cookie.Words

namespace MmsHttp.Cookie

open Text

/-- When a cookie is to end: at a time, or at something that is no time. -/
inductive Ending where
  | at (seconds : Int)
  | unclear
  deriving DecidableEq, Repr

/-- What the attributes of a cookie ask for. -/
structure Wishes where
  version : Option (List Char) := none
  domain : Option (List Char) := none
  path : Option (List Char) := none
  port : Option (Option (List Char)) := none
  secure : Option Bool := none
  ending : Option Ending := none
  maxAge : Bool := false

/-- What an attribute that cannot be used spoils. -/
inductive Refusal where
  | cookie
  /-- All cookies in the headers of one kind. -/
  | all
  deriving DecidableEq, Repr

def required (value : Value) : Except Refusal (List Char) :=
  match value with
  | .text value => .ok value
  | _ => .error .cookie

/-- The end of a cookie with a maximal age. -/
def endOfAge (now : Int) (value : Value) : Except Refusal Ending :=
  match value with
  | .text value =>
    match integer? value with
    | some seconds => .ok (.at (now + seconds))
    | none => .error .cookie
  | .time seconds => .ok (.at (now + seconds))
  | .missing => .error .all

/-- Adds an attribute to the wishes. The first of a kind counts, but the last maximal
age, and a maximal age comes before a date. -/
def Wishes.add (now : Int) (wishes : Wishes) (wish : Attribute) : Except Refusal Wishes :=
  let name := lowered (String.ofList wish.1)
  let value := wish.2
  if name == "secure" then
    .ok
      (if wishes.secure.isSome then wishes
      else { wishes with secure := some (value != .text []) })
  else if name == "domain" then
    if wishes.domain.isSome then .ok wishes
    else (required value).map fun value => { wishes with domain := some (lower value) }
  else if name == "path" then
    if wishes.path.isSome then .ok wishes
    else (required value).map fun value => { wishes with path := some value }
  else if name == "version" then
    if wishes.version.isSome then .ok wishes
    else (required value).map fun value => { wishes with version := some value }
  else if name == "port" then
    .ok
      (if wishes.port.isSome then wishes
      else
        match value with
        | .text port => { wishes with port := some (some port) }
        | _ => { wishes with port := some none })
  else if name == "expires" then
    .ok
      (if wishes.ending.isSome || wishes.maxAge then wishes
      else
        match value with
        | .missing => wishes
        | .time seconds => { wishes with ending := some (.at seconds) }
        | .text _ => { wishes with ending := some .unclear })
  else if name == "max-age" then
    (endOfAge now value).map fun ending => { wishes with maxAge := true, ending := some ending }
  else .ok wishes

/-- A cookie as a header names it, with all that it asks for. -/
structure Offer where
  name : List Char
  value : Option (List Char)
  wishes : Wishes

def offer? (now : Int) (attributes : List Attribute) : Except Refusal Offer :=
  match attributes with
  | [] => .error .cookie
  | (name, value) :: rest =>
    (rest.foldlM (Wishes.add now) {}).map fun wishes =>
      ⟨name, (match value with | .text value => some value | _ => none), wishes⟩

/-- The offers of some headers; nothing if one of them spoils all. -/
def offers? (now : Int) : List (List Attribute) → Option (List Offer)
  | [] => some []
  | attributes :: rest =>
    match offer? now attributes with
    | .ok offer => (offers? now rest).map (offer :: ·)
    | .error .cookie => offers? now rest
    | .error .all => none

/-- An attribute of an old header with its value read: a version without its quotes, an
end as a time. Nothing if the end is a date that no calendar has. -/
def readAttribute? (year : Int) : Attribute → Option Attribute
  | (name, .text value) =>
    let kind := lowered (String.ofList name)
    if kind == "version" then some (name, .text (withoutQuotes value))
    else if kind == "expires" then
      match Date.read year (withoutQuotes value) with
      | .time seconds => some (name, .time seconds)
      | .unreadable => some (name, .missing)
      | .impossible => none
    else some (name, .text value)
  | other => some other

/-- The attributes of an old header; its version is zero unless it names one. -/
def readPieces? (year : Int) (header : String) : Option (List Attribute) :=
  match pieces header with
  | [] => some []
  | cookie :: rest => do
    let rest ← rest.mapM (readAttribute? year)
    let named := rest.any fun (name, _) => lowered (String.ofList name) == "version"
    pure (cookie :: rest ++ if named then [] else [("version".toList, .text ['0'])])

def plainOffers? (present : Instant) (headers : List String) : Option (List Offer) := do
  let read ← headers.mapM (readPieces? present.year)
  offers? present.seconds (read.filter (!·.isEmpty))

def wordOffers? (present : Instant) (headers : List String) : Option (List Offer) :=
  offers? present.seconds (headers.flatMap fun header => words [] header.toList)

end MmsHttp.Cookie
