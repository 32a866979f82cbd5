import MmsHttp.Config
import MmsHttp.Registry
import MmsHttp.Settings.Check
import MmsHttp.Settings.Source

namespace MmsHttp

structure Settings where
  userAgent : String
  profileHeader : String
  profileUrl : Option String
  timeoutMillis : Int
  charsetInContentType : Bool
  extraHeaders : String
  locale : Option String
  line1Number : String
  countryCallingCode : String
  nai : String
  naiSuffix : String
  extraMacros : List (String × String)
  proxyEnabled : Bool
  proxyHost : String
  proxyPort : Int
  poolLimits : PoolLimits

namespace Settings

/-- Why there are no settings: a source cannot be read, or values are wrong. -/
inductive Refusal where
  | fault (fault : Fault)
  | problems (problems : List Problem)

/-- The checked value of one setting, or its usual value if it is not given. The problems
found on the way are kept. -/
def take {α : Type} (find? : Key → Option (String × Json)) (name : String)
    (check : Json → Checked α) (usual : α) : StateM (List Problem) α := do
  match (keys.find? (·.name == name)).bind find? with
  | none => pure usual
  | some (place, value) =>
    match check value with
    | .ok checked => pure checked
    | .error word => modify (· ++ [⟨[place], word⟩]); pure usual

def takeTable (find? : Key → Option (String × Json)) :
    StateM (List Problem) (List (String × String)) := do
  match (keys.find? (·.name == tableName)).bind find? with
  | none => pure []
  | some (place, value) =>
    let (entries, problems) := checkTable place value
    modify (· ++ problems)
    pure entries

def takeAll (find? : Key → Option (String × Json)) : StateM (List Problem) Settings := do
  let config : Config := {}
  let userAgent ← take find? "user_agent" checkText config.userAgent
  let profileHeader ← take find? "ua_prof_tag_name" checkText config.profileHeader
  let profileUrl ← take find? "ua_prof_url" checkOptionalText none
  let timeoutMillis ← take find? "http_socket_timeout_ms" checkInteger config.timeoutMillis
  let charsetInContentType ← take find? "support_http_charset_header" checkChoice false
  let extraHeaders ← take find? "http_params" checkText ""
  let locale ← take find? "locale" checkOptionalText none
  let line1Number ← take find? "line1_number" checkText ""
  let countryCallingCode ← take find? "country_calling_code" checkText ""
  let nai ← take find? "nai" checkText ""
  let naiSuffix ← take find? "nai_suffix" checkText ""
  let extraMacros ← takeTable find?
  let proxyEnabled ← take find? "proxy_enabled" checkChoice false
  let proxyHost ← take find? "proxy_host" checkText ""
  let proxyPort ← take find? "proxy_port" checkInteger 80
  let maxConnections ← take find? "pool_max_connections" checkInteger
    PoolLimits.usual.maxConnections
  let keepaliveExpiry ← take find? "pool_keepalive_expiry_seconds" checkNumber (.ofInt 300)
  pure
    { userAgent, profileHeader, profileUrl, timeoutMillis, charsetInContentType, extraHeaders,
      locale, line1Number, countryCallingCode, nai, naiSuffix, extraMacros, proxyEnabled,
      proxyHost, proxyPort, poolLimits := ⟨maxConnections, some keepaliveExpiry⟩ }

def read (sources : Sources) : Except Refusal Settings :=
  match sources.values with
  | .error fault => .error (.fault fault)
  | .ok values =>
    let (settings, problems) := (takeAll (sources.find? values)).run []
    if problems.isEmpty then .ok settings else .error (.problems problems)

def carrier (settings : Settings) : Carrier :=
  { line1Number := settings.line1Number
    countryCallingCode := settings.countryCallingCode
    nai := settings.nai
    naiSuffix := settings.naiSuffix
    extra := settings.extraMacros }

def config (settings : Settings) : Config :=
  { userAgent := settings.userAgent
    profileHeader := settings.profileHeader
    profileUrl := settings.profileUrl.filter (· != "")
    timeoutMillis := settings.timeoutMillis
    charsetInContentType := settings.charsetInContentType
    extraHeaders := settings.extraHeaders
    macros := settings.carrier.lookup }

def proxy (settings : Settings) : Option Proxy :=
  Proxy.ofFlag settings.proxyEnabled settings.proxyHost settings.proxyPort

end Settings

end MmsHttp
