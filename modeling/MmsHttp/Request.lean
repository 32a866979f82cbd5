import MmsHttp.Config
import MmsHttp.Event
import MmsHttp.ExtraHeader
import MmsHttp.Locale
import MmsHttp.Proxy
import MmsHttp.Text.Lowercase

/-!
Requests as they are assembled from a call and its configuration. The order of the
headers is fixed, so equal calls give equal requests; the carrier's extra headers come
last and take the place of earlier ones with the same name.
-/

namespace MmsHttp

/-- One transaction as the caller asks for it. -/
structure Transaction where
  method : String
  url : String
  payload : Option Bytes := none
  proxy : Option Proxy := none
  config : Config := {}

def Transaction.payloadSize (t : Transaction) : Nat :=
  (t.payload.getD []).length

structure Request where
  method : String
  url : String
  headers : List Header
  content : Option Bytes
  deriving DecidableEq, Repr

namespace Request

def methods : List String := ["GET", "POST"]

def accept : String := "*/*, application/vnd.wap.mms-message, application/vnd.wap.sic"

def contentType (withCharset : Bool) : String :=
  if withCharset then "application/vnd.wap.mms-message; charset=utf-8"
  else "application/vnd.wap.mms-message"

def header? (request : Request) (name : String) : Option String :=
  (request.headers.find? fun header => Text.sameName header.1 name).map (·.2)

/-- Puts a header last in place of all those with its name. -/
def putHeader (headers : List Header) (header : Header) : List Header :=
  headers.filter (fun earlier => !Text.sameName earlier.1 header.1) ++ [header]

def baseHeaders (t : Transaction) (locale : String) : List Header :=
  [("Accept", accept), ("Accept-Language", Locale.acceptLanguage locale),
    ("User-Agent", t.config.userAgent)] ++
  (match t.config.profileUrl with
    | none => []
    | some url => if url == "" then [] else [(t.config.profileHeader, url)]) ++
  (if t.method == "POST" then [("Content-Type", contentType t.config.charsetInContentType)]
    else [])

def assemble (t : Transaction) (locale : String) : Request :=
  { method := t.method
    url := t.url
    headers := (ExtraHeader.parse t.config.macros t.config.extraHeaders).foldl putHeader
      (baseHeaders t locale)
    content := if t.method == "POST" then t.payload else none }

def unknownMacro (bound : Fields) (name : String) : Event :=
  ⟨.warning, "HTTP: invalid macro " ++ name, bound⟩

def assemblyEvents (bound : Fields) (t : Transaction) : List Event :=
  (ExtraHeader.unknownIn t.config.macros t.config.extraHeaders).map (unknownMacro bound)

end Request

end MmsHttp
