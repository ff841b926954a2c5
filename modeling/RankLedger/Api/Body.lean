import RankLedger.Json.Value
import RankLedger.Region
import RankLedger.Store.Rows
import RankLedger.Time

set_option autoImplicit false

/-! # Bodies of answers

The JSON objects that answers are made of. A member whose value is unknown is left out, but for the
date of a row, which is `null` where the calendar does not reach. -/

namespace RankLedger.Api

open Json (Value)

/-- A member that is there only with a value. -/
def member? {α : Type} (key : String) (value : α → Value) (a : Option α) : List (String × Value) :=
  (a.map fun a => (key, value a)).toList

/-- A row. -/
def rowBody (r : RankRow) : Value :=
  .object ([("timestamp", .int r.timestamp),
    ("recorded_at", .ofOption ((Utc.render? r.timestamp).map .text)),
    ("user_id", .text r.userId), ("score", .int r.score), ("rank", .int r.rank)]
      ++ member? "character_id" .int r.character)

/-- Who a player was last seen as. -/
def identityBody (i : Identity) : Value :=
  .object ([("user_id", .text i.userId), ("name", .text i.name)]
    ++ member? "cheerful_team_id" .int i.team)

/-- The latest row and its player. -/
def latestBody (row : Option RankRow) (player : Option Identity) : Value :=
  .object (member? "rank_data" rowBody row ++ member? "user_data" identityBody player)

/-- All rows and their player. -/
def historyBody (rows : List RankRow) (player : Option Identity) : Value :=
  .object (("rank_data", .array (rows.map rowBody)) :: member? "user_data" identityBody player)

/-- The score at a place. -/
def lineBody (l : Line) : Value :=
  .object [("rank", .int l.rank), ("score", .int l.score), ("user_id", .text l.userId),
    ("timestamp", .int l.timestamp)]

/-- How the score at a place has grown. -/
def growthBody (g : Growth) : Value :=
  .object [("rank", .int g.rank), ("timestamp_earlier", .int g.timestampEarlier),
    ("score_earlier", .int g.scoreEarlier), ("timestamp_latest", .int g.timestampLatest),
    ("score_latest", .int g.scoreLatest), ("growth", .int g.growth)]

/-- A failure. -/
def failureBody (f : Failure) : Value :=
  .object [("error", .object [("code", .int f.kind.code), ("message", .text f.message)])]

/-- The version of the service. -/
def version : String := "0.1.0"

/-- The state of the service. -/
def healthBody (now : Instant) (regions : List Region) : Value :=
  .object [("status", .text "healthy"),
    ("timestamp", .text (Utc.renderPrecise now.seconds now.nanos)),
    ("version", .text version), ("servers", .array (regions.map (.text ·.name)))]

end RankLedger.Api
