import RankLedger.Api.Endpoint
import RankLedger.Region

set_option autoImplicit false

/-! # The description of the API

What is published about the API: its endpoints, the groups they are in, and the shapes of the bodies
of requests and answers. -/

namespace RankLedger.Api.Document

/-- The title. -/
def title : String := "sekai-event-tracker"

/-- The groups of endpoints. -/
def tags : List String := ["System", "Rankings", "WorldBloom", "Lines"]

/-- The shape of a body. -/
inductive Shape where
  /-- Members, with those that are always there marked. -/
  | record (fields : List (String × Bool))
  /-- One of some words. -/
  | choice (words : List String)
  deriving DecidableEq, Repr, Inhabited

/-- Members that are always there. -/
def always (names : List String) : List (String × Bool) := names.map (·, true)

/-- Members that may be missing. -/
def sometimes (names : List String) : List (String × Bool) := names.map (·, false)

/-- The shapes by name. -/
def schemas : List (String × Shape) :=
  [("ErrorBody", .record (always ["code", "message"] ++ sometimes ["details"])),
    ("ErrorResponse", .record (always ["error"])),
    ("HealthResponse", .record (always ["status", "timestamp", "version", "servers"])),
    ("IdentityDto", .record (always ["user_id", "name"] ++ sometimes ["cheerful_team_id"])),
    ("LatestRankingResponse", .record (sometimes ["rank_data", "user_data"])),
    ("RankingLineDto", .record (always ["rank", "score", "user_id", "timestamp"])),
    ("RankingRecordDto",
      .record (always ["timestamp", "user_id", "score", "rank"]
        ++ sometimes ["recorded_at", "character_id"])),
    ("RankingTraceResponse", .record (always ["rank_data"] ++ sometimes ["user_data"])),
    ("ScoreGrowthDto",
      .record (always ["rank", "timestamp_earlier", "score_earlier", "timestamp_latest",
        "score_latest", "growth"])),
    ("ServerRegion", .choice (Region.all.map (·.name)))]

/-- The shape of a name. -/
def schema? (name : String) : Option Shape := (schemas.find? (·.1 = name)).map (·.2)

/-- The endpoint with a path template. -/
def endpoint? (template : String) : Option Endpoint := Endpoint.all.find? (·.template = template)

end RankLedger.Api.Document
