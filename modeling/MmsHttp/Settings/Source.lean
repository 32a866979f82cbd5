import MmsHttp.Fault
import MmsHttp.Json.Reader
import MmsHttp.Settings.EnvFile
import MmsHttp.Text.Lowercase

/-!
Where settings come from: the arguments of a caller, the environment of the process and
an environment file, in this order of precedence. A setting has a name of its own and the
name of its variable, which is looked for first; the case of variables does not count.
-/

namespace MmsHttp.Settings

open Text

/-- The two names of a setting. -/
structure Key where
  name : String
  /-- The name that its variable has. -/
  envName : String
  deriving DecidableEq, Repr

/-- The keys of all settings, in the order in which problems are reported. -/
def keys : List Key :=
  [⟨"user_agent", "MMS_USER_AGENT"⟩,
    ⟨"ua_prof_tag_name", "MMS_UA_PROF_TAG_NAME"⟩,
    ⟨"ua_prof_url", "MMS_UA_PROF_URL"⟩,
    ⟨"http_socket_timeout_ms", "MMS_HTTP_SOCKET_TIMEOUT_MS"⟩,
    ⟨"support_http_charset_header", "MMS_SUPPORT_HTTP_CHARSET_HEADER"⟩,
    ⟨"http_params", "MMS_HTTP_PARAMS"⟩,
    ⟨"locale", "MMS_LOCALE"⟩,
    ⟨"line1_number", "MMS_LINE1_NUMBER"⟩,
    ⟨"country_calling_code", "MMS_COUNTRY_CALLING_CODE"⟩,
    ⟨"nai", "MMS_NAI"⟩,
    ⟨"nai_suffix", "MMS_NAI_SUFFIX"⟩,
    ⟨"extra_macros", "MMS_EXTRA_MACROS"⟩,
    ⟨"proxy_enabled", "MMS_PROXY_ENABLED"⟩,
    ⟨"proxy_host", "MMS_PROXY_HOST"⟩,
    ⟨"proxy_port", "MMS_PROXY_PORT"⟩,
    ⟨"pool_max_connections", "MMS_POOL_MAX_CONNECTIONS"⟩,
    ⟨"pool_keepalive_expiry_seconds", "MMS_POOL_KEEPALIVE_EXPIRY_SECONDS"⟩]

/-- The setting whose variable holds a table. -/
def tableName : String := "extra_macros"

/-- Values by one of the two names of a setting. -/
abbrev Values := List (String × Json)

def valueOf? (values : Values) (name : String) : Option Json :=
  (values.find? (·.1 == name)).map (·.2)

/-- The text of a variable, whatever its case; of several the last one counts. -/
def textOf? (given : List EnvFile.Variable) (name : String) : Option String :=
  match given.reverse.find? fun entry => sameName entry.1 name with
  | some (_, value) => value
  | none => none

def unreadableTable (source : String) : Fault :=
  ⟨.outside "SettingsError",
    "error parsing value for field \"" ++ tableName ++ "\" from source \"" ++ source ++ "\""⟩

/-- What variables give for one setting: under which of its names, and the value. A table
is written as JSON, and `null` for one counts as nothing. -/
def found? (source : String) (given : List EnvFile.Variable) (key : Key) :
    Except Fault (Option (String × Json)) :=
  let found :=
    match textOf? given key.envName with
    | some text => some (key.envName, text)
    | none => (textOf? given key.name).map fun text => (key.name, text)
  match found with
  | none => .ok none
  | some (place, text) =>
    if key.name == tableName then
      match Json.read? text with
      | none => .error (unreadableTable source)
      | some .null => .ok none
      | some value => .ok (some (place, value))
    else .ok (some (place, .text text))

def ofVariables (source : String) (given : List EnvFile.Variable) : Except Fault Values :=
  (keys.mapM (found? source given)).map fun found => found.filterMap id

/-- What a caller gives, under the names of the variables. -/
def ofArguments (arguments : Values) : Values :=
  keys.filterMap fun key =>
    (valueOf? arguments key.envName <|> valueOf? arguments key.name).map fun value =>
      (key.envName, value)

/-- A value in place of another one. A table takes in what the other one has further. -/
def override (lower higher : Json) : Json :=
  match lower, higher with
  | .object lower, .object higher => .ofMembers (lower ++ higher)
  | _, higher => higher

def overrideAll (lower higher : Values) : Values :=
  higher.foldl
    (fun values (name, value) =>
      match valueOf? values name with
      | none => values ++ [(name, value)]
      | some earlier =>
        values.map fun entry => if entry.1 == name then (name, override earlier value) else entry)
    lower

structure Sources where
  arguments : Values
  environment : List (String × String)
  /-- The text of the environment file, if there is one. -/
  file : Option String

namespace Sources

def environmentVariables (sources : Sources) : List EnvFile.Variable :=
  sources.environment.map fun (name, value) => (name, some value)

def fileVariables (sources : Sources) : List EnvFile.Variable :=
  match sources.file with
  | none => []
  | some text => EnvFile.read sources.environment text

def values (sources : Sources) : Except Fault Values := do
  let environment ← ofVariables "EnvSettingsSource" sources.environmentVariables
  let file ← ofVariables "DotEnvSettingsSource" sources.fileVariables
  pure (overrideAll file (overrideAll environment (ofArguments sources.arguments)))

/-- The name under which a setting is given, and its value. A name that a caller uses is
kept. -/
def find? (sources : Sources) (values : Values) (key : Key) : Option (String × Json) :=
  let place (fallback : String) : String :=
    if (valueOf? sources.arguments key.envName).isNone &&
        (valueOf? sources.arguments key.name).isSome then
      key.name
    else fallback
  match valueOf? values key.envName with
  | some value => some (place key.envName, value)
  | none => (valueOf? values key.name).map fun value => (place key.name, value)

end Sources

end MmsHttp.Settings
