import SbomGate.Config.Cache
import SbomGate.Config.Verifier
import SbomGate.Net.SocketAddress
import SbomGate.Text.Blank
import SbomGate.Url.Parser
/-!
# SbomGate.Settings.Basic

The **settings** of a server, and the configurations that follow from them.

`validate` looks at every setting without building anything. Settings that pass
it have a cache configuration and a verifier configuration.
-/

namespace SbomGate

/-- The settings of a server. -/
structure Settings where
  /-- Where the server is reached, which tokens must name as their audience. -/
  apiUrl : String
  /-- How many seconds a key set is kept. -/
  cacheTtl : UInt64
  /-- How many seconds fetching a key set may take. -/
  fetchTimeout : UInt64
  /-- The filter of the log. -/
  logLevel : String
  /-- The address to listen on. -/
  bindAddress : Net.SocketAddress
  /-- The greatest length of a body. -/
  bodyLimit : UInt64
  /-- Where the database is; not used yet. -/
  databaseUrl : Option String
  deriving DecidableEq

/-- Why settings are refused. -/
inductive Settings.Fault
  /-- There is no URL. -/
  | emptyApiUrl
  /-- The URL is none. -/
  | badApiUrl (url : String) (flaw : Url.Flaw)
  /-- No body would be short enough. -/
  | zeroBodyLimit
  /-- A configuration refuses a value. -/
  | config (f : Config.Fault)
  deriving DecidableEq

namespace Settings

/-- The message of a fault, without what is behind it. -/
def Fault.message : Fault → String
  | emptyApiUrl => "PG_ATLAS_API_URL must not be empty"
  | badApiUrl url _ => "PG_ATLAS_API_URL is not a valid URL: " ++ url
  | zeroBodyLimit => "PG_ATLAS_MAX_BODY_BYTES must be greater than zero"
  | config f => f.message

/-- The fault behind a fault, in words. -/
def Fault.cause? : Fault → Option String
  | badApiUrl _ flaw => some flaw.message
  | emptyApiUrl | zeroBodyLimit | config _ => none

/-- The configuration of the key cache. -/
def cacheConfig (s : Settings) : Except Fault Config.Cache :=
  (Config.Cache.make (.ofSeconds s.cacheTtl) Config.Cache.defaultCapacity
    (.ofSeconds s.fetchTimeout)).mapError .config

/-- The configuration of the verifier; the URL is compared as it is written. -/
def verifierConfig (s : Settings) : Except Fault Config.Verifier :=
  (Config.Verifier.make s.apiUrl Config.githubIssuer Config.githubKeySetUrl).mapError .config

/-- Checks the settings one after the other, up to the first fault. -/
def validate (s : Settings) : Except Fault Unit := do
  if Text.blank s.apiUrl then throw .emptyApiUrl
  let _ ← (Url.parse s.apiUrl).mapError (.badApiUrl s.apiUrl)
  if s.bodyLimit = 0 then throw .zeroBodyLimit
  let _ ← s.cacheConfig

end Settings

end SbomGate
