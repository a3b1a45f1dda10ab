/-!
# SbomGate.CommandLine.Option

The **options** of the command line. Each has one word from which its name, its
placeholder and its environment variable are made.
-/

namespace SbomGate.CommandLine

/-- An option, which takes a value. -/
inductive Key
  /-- The URL of the server. -/
  | apiUrl
  /-- How long a key set is kept. -/
  | cacheTtl
  /-- How long fetching a key set may take. -/
  | fetchTimeout
  /-- The filter of the log. -/
  | logLevel
  /-- The address to listen on. -/
  | bindAddress
  /-- The greatest length of a body. -/
  | bodyLimit
  /-- Where the database is. -/
  | databaseUrl
  deriving DecidableEq, Repr

/-- All options, in the order of the help. -/
def Key.all : List Key :=
  [.apiUrl, .cacheTtl, .fetchTimeout, .logLevel, .bindAddress, .bodyLimit, .databaseUrl]

namespace Key

/-- What stands for the value of an option. -/
def placeholder : Key → String
  | apiUrl => "API_URL"
  | cacheTtl => "JWKS_CACHE_TTL_SECONDS"
  | fetchTimeout => "JWKS_FETCH_TIMEOUT_SECONDS"
  | logLevel => "LOG_LEVEL"
  | bindAddress => "BIND_ADDR"
  | bodyLimit => "MAX_BODY_BYTES"
  | databaseUrl => "DATABASE_URL"

/-- The name of an option, without its dashes. -/
def name (k : Key) : String :=
  String.ofList (k.placeholder.toList.map fun c => if c = '_' then '-' else c.toLower)

/-- The variable that holds the value of an option that is not given. -/
def envName (k : Key) : String := "PG_ATLAS_" ++ k.placeholder

/-- What the help says of an option. -/
def purpose : Key → String
  | apiUrl => "Canonical deployment URL; OIDC tokens must carry it as their audience"
  | cacheTtl => "Lifetime of a cached JWKS, in seconds"
  | fetchTimeout => "Upper bound on a single JWKS fetch, in seconds"
  | logLevel => "Log filter used when `RUST_LOG` is unset"
  | bindAddress => "Address to listen on"
  | bodyLimit => "Maximum accepted request body size, in bytes"
  | databaseUrl => "Database connection string. Accepted but not used yet"

/-- The text of the value that an option has if it is not given. -/
def default? : Key → Option String
  | cacheTtl => some "3600"
  | fetchTimeout => some "10"
  | logLevel => some "info"
  | bindAddress => some "0.0.0.0:8000"
  | bodyLimit => some "10485760"
  | apiUrl | databaseUrl => none

/-- Whether the value of the variable is kept from the help. -/
def isSecret : Key → Bool
  | databaseUrl => true
  | _ => false

end Key

/-- What can be given on the command line. -/
inductive Parameter
  /-- An option. -/
  | option (k : Key)
  /-- The wish for help. -/
  | help
  /-- The wish for the version. -/
  | version
  deriving DecidableEq, Repr

namespace Parameter

/-- All parameters, in the order of the help. -/
def all : List Parameter := Key.all.map option ++ [help, version]

/-- The name of a parameter, without its dashes. -/
def name : Parameter → String
  | option k => k.name
  | help => "help"
  | version => "version"

/-- A parameter as messages show it. -/
def label : Parameter → String
  | option k => "--" ++ k.name ++ " <" ++ k.placeholder ++ ">"
  | help => "--help"
  | version => "--version"

/-- The parameter of a name, which is written without its dashes. -/
def ofName? (name : String) : Option Parameter := all.find? (·.name = name)

/-- The parameter of a single letter. -/
def ofLetter? (c : Char) : Option Parameter :=
  if c = 'h' then some help else if c = 'V' then some version else none

/-- The one parameter that has to be given. -/
def required : Parameter := option .apiUrl

end Parameter

end SbomGate.CommandLine
