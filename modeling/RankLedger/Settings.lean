import RankLedger.Net.SocketAddress
import RankLedger.Region

set_option autoImplicit false

/-! # Settings

Every setting has a name under which it is looked up and a value it has otherwise. A wrong number or
truth value counts as none; a wrong address, log format or list of servers is a failure. -/

namespace RankLedger

/-- How the log is written. -/
inductive LogFormat where
  | text | json
  deriving DecidableEq, Repr, Inhabited

namespace LogFormat

/-- The name of a format. -/
def name : LogFormat → String
  | .text => "text"
  | .json => "json"

/-- The format that a person names. -/
def parse (s : String) : Except Failure LogFormat :=
  match Text.lowerAscii (Text.trim s) with
  | "text" | "pretty" => .ok .text
  | "json" => .ok .json
  | other => .error ⟨.configuration, "unknown log format: " ++ other⟩

end LogFormat

/-- The settings of one region. -/
structure RegionSettings where
  region : Region
  /-- Where its calendars are. -/
  calendarDirectory : String
  /-- Where its store is. -/
  databaseUrl : String
  deriving DecidableEq, Repr, Inhabited

/-- All settings. -/
structure Settings where
  listenAddress : SocketAddress
  apiEnabled : Bool
  endpoint : String
  token : Option String
  /-- How long the feed may take, in seconds. -/
  feedTimeout : Nat
  /-- How many seconds lie between ticks. -/
  tickInterval : Nat
  maxConnections : Nat
  /-- How many seconds an answer is kept. -/
  cacheLifetime : Nat
  logFormat : LogFormat
  /-- The regions looked after, in their order in the settings. -/
  regions : List RegionSettings
  deriving DecidableEq, Repr, Inhabited

namespace Settings

/-- Settings by name. -/
abbrev Lookup : Type := String → Option String

/-- The names that are looked up. -/
def names : List String :=
  ["LISTEN_ADDR", "API_ENABLED", "SEKAI_API_ENDPOINT", "SEKAI_API_TOKEN", "UPSTREAM_TIMEOUT_SECS",
    "TRACKER_INTERVAL_SECS", "DATABASE_MAX_CONNECTIONS", "RESPONSE_CACHE_TTL_SECS", "LOG_FORMAT",
    "TRACKER_SERVERS"]
    ++ Region.all.flatMap fun r => ["MASTER_DATA_DIR_" ++ r.suffix, "DATABASE_URL_" ++ r.suffix]

/-! ## Single values -/

/-- A number below `2 ^ bits`, or what it is otherwise. -/
def number (lookup : Lookup) (name : String) (bits otherwise : Nat) : Nat :=
  ((lookup name).bind fun s => Text.unsigned? bits (Text.trim s)).getD otherwise

/-- A truth value, or what it is otherwise. -/
def truth (lookup : Lookup) (name : String) (otherwise : Bool) : Bool :=
  match (lookup name).map fun s => Text.lowerAscii (Text.trim s) with
  | some "true" | some "1" => true
  | some "false" | some "0" => false
  | _ => otherwise

/-- Where to listen. -/
def readAddress (lookup : Lookup) : Except Failure SocketAddress :=
  match SocketAddress.ofText? ((lookup "LISTEN_ADDR").getD "0.0.0.0:8080") with
  | some a => .ok a
  | none => .error ⟨.configuration, "invalid LISTEN_ADDR: invalid socket address syntax"⟩

/-- How to write the log. -/
def readLogFormat (lookup : Lookup) : Except Failure LogFormat :=
  match lookup "LOG_FORMAT" with
  | some s => LogFormat.parse s
  | none => .ok .text

/-! ## Regions -/

/-- The settings of a region. -/
def ofRegion (lookup : Lookup) (r : Region) : RegionSettings where
  region := r
  calendarDirectory := (lookup ("MASTER_DATA_DIR_" ++ r.suffix)).getD ("./data/master/" ++ r.name)
  databaseUrl :=
    (lookup ("DATABASE_URL_" ++ r.suffix)).getD
      ("sqlite://./data/" ++ r.name ++ "_event.db?mode=rwc")

/-- The names in a list of servers. -/
def serverNames (s : String) : List String :=
  ((Text.splitAt ',' s).map Text.trim).filter (!·.isEmpty)

/-- The region of a name, which must be new. -/
def addRegion (lookup : Lookup) (found : List RegionSettings) (name : String) :
    Except Failure (List RegionSettings) :=
  match Region.parse name with
  | .error _ => .error ⟨.configuration, "unknown server in TRACKER_SERVERS: " ++ name⟩
  | .ok r =>
      if found.any (·.region = r) then
        .error ⟨.configuration, "server listed twice in TRACKER_SERVERS: " ++ r.name⟩
      else .ok (found ++ [ofRegion lookup r])

/-- The regions in a list of servers: at least one, and none twice. -/
def regionsOf (lookup : Lookup) (list : String) : Except Failure (List RegionSettings) := do
  let regions ← (serverNames list).foldlM (addRegion lookup) []
  if regions.isEmpty then
    .error ⟨.configuration, "TRACKER_SERVERS must name at least one server"⟩
  else .ok regions

/-! ## All settings -/

/-- The settings under their names. -/
def ofLookup (lookup : Lookup) : Except Failure Settings := do
  let listenAddress ← readAddress lookup
  let logFormat ← readLogFormat lookup
  let regions ← regionsOf lookup ((lookup "TRACKER_SERVERS").getD "jp")
  .ok {
    listenAddress := listenAddress
    apiEnabled := truth lookup "API_ENABLED" true
    endpoint := (lookup "SEKAI_API_ENDPOINT").getD "http://127.0.0.1:9000/api"
    token := (lookup "SEKAI_API_TOKEN").filter (!Text.allBlank ·)
    feedTimeout := number lookup "UPSTREAM_TIMEOUT_SECS" 64 20
    tickInterval := max 1 (number lookup "TRACKER_INTERVAL_SECS" 64 60)
    maxConnections := number lookup "DATABASE_MAX_CONNECTIONS" 32 5
    cacheLifetime := max 1 (number lookup "RESPONSE_CACHE_TTL_SECS" 64 60)
    logFormat := logFormat
    regions := regions }

end Settings

end RankLedger
