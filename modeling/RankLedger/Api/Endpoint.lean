import RankLedger.Ranking.Board
import RankLedger.Text.Basic

set_option autoImplicit false

/-! # Endpoints

The addresses of the query API. A path is made of fixed words and parameters; a parameter stands for
one piece between slashes, which may be empty unless it is the last. -/

namespace RankLedger.Api

/-- The parameters of paths. -/
inductive Param where
  | server | event | user | rank | character | interval
  deriving DecidableEq, Repr, Inhabited

namespace Param

/-- The name of a parameter. -/
def name : Param → String
  | .server => "server"
  | .event => "event_id"
  | .user => "user_id"
  | .rank => "rank"
  | .character => "character_id"
  | .interval => "interval"

/-- Whether a parameter is a number. -/
def isInteger : Param → Bool
  | .server | .user => false
  | .event | .rank | .character | .interval => true

end Param

/-- A piece of a path. -/
inductive Segment where
  | word (w : String)
  | param (p : Param)
  deriving DecidableEq, Repr, Inhabited

/-- What an endpoint tells. -/
inductive Topic where
  | health | latest | history | identity | lines | growth
  deriving DecidableEq, Repr, Inhabited

/-- An address of the API and what is said about it. -/
structure Endpoint where
  name : String
  topic : Topic
  tag : String
  summary : String
  path : List Segment
  /-- What the statuses of its answers mean. -/
  answers : List (Nat × String)
  deriving DecidableEq, Repr, Inhabited

namespace Endpoint

/-- The parameters of an endpoint, in order. -/
def params (e : Endpoint) : List Param :=
  e.path.filterMap fun
    | .word _ => none
    | .param p => some p

/-- The path with its parameters in braces. -/
def template (e : Endpoint) : String :=
  String.join (e.path.map fun
    | .word w => "/" ++ w
    | .param p => "/\x7b" ++ p.name ++ "\x7d")

/-- What is said about a parameter. -/
def describe (e : Endpoint) : Param → String
  | .server => "Server region"
  | .event => "Event id"
  | .user => "Upstream user id"
  | .rank =>
      if e.params.contains .character then "Chapter leaderboard position"
      else "Leaderboard position"
  | .character => "Chapter character"
  | .interval => "Window length in seconds"

/-- The pieces that stand for the parameters of a path. -/
def matchPieces : List Segment → List String → Option (List (Param × String))
  | [], [] => some []
  | .word w :: path, piece :: pieces => if w = piece then matchPieces path pieces else none
  | [.param p], [piece] => if piece.isEmpty then none else some [(p, piece)]
  | .param p :: path, piece :: pieces => (matchPieces path pieces).map ((p, piece) :: ·)
  | _, _ => none

/-- The pieces of a request's path that stand for the parameters. -/
def match? (e : Endpoint) (path : String) : Option (List (Param × String)) :=
  match Text.splitAt '/' path with
  | "" :: pieces => matchPieces e.path pieces
  | _ => none

/-! ## The endpoints -/

/-- The start of the paths of an event. -/
def eventPath (rest : List Segment) : List Segment :=
  .word "event" :: .param .server :: .param .event :: rest

/-- The path of something about a chapter. -/
def chapterPath (word : String) (rest : List Segment) : List Segment :=
  eventPath (.word word :: .word "character" :: .param .character :: rest)

/-- The end of a path that names a player. -/
def byUser : List Segment := [.word "user", .param .user]

/-- The end of a path that names a place. -/
def byRank : List Segment := [.word "rank", .param .rank]

/-- The end of a path that names a time span. -/
def byInterval : List Segment := [.word "interval", .param .interval]

/-- What the statuses of answers about an event mean. -/
def eventAnswers (success : String) : List (Nat × String) :=
  [(200, success), (400, "Unknown server"), (404, "Nothing recorded")]

/-- What the statuses of answers about growth mean. -/
def growthAnswers : List (Nat × String) :=
  [(200, "Milestone growth"), (400, "Unknown server or bad interval"), (404, "Nothing recorded")]

/-- All endpoints. -/
def all : List Endpoint :=
  [⟨"health_handler", .health, "System", "Health check", [.word "health"],
      [(200, "Service is healthy")]⟩,
    ⟨"latest_by_user", .latest, "Rankings", "Latest ranking of a user",
      eventPath (.word "latest-ranking" :: byUser), eventAnswers "Latest ranking"⟩,
    ⟨"latest_by_rank", .latest, "Rankings", "Latest ranking at a rank",
      eventPath (.word "latest-ranking" :: byRank), eventAnswers "Latest ranking"⟩,
    ⟨"trace_by_user", .history, "Rankings", "Ranking history of a user",
      eventPath (.word "trace-ranking" :: byUser), eventAnswers "Ranking history"⟩,
    ⟨"trace_by_rank", .history, "Rankings", "Ranking history at a rank",
      eventPath (.word "trace-ranking" :: byRank), eventAnswers "Ranking history"⟩,
    ⟨"latest_chapter_by_user", .latest, "WorldBloom", "Latest chapter ranking of a user",
      chapterPath "latest-world-bloom-ranking" byUser, eventAnswers "Latest chapter ranking"⟩,
    ⟨"latest_chapter_by_rank", .latest, "WorldBloom", "Latest chapter ranking at a rank",
      chapterPath "latest-world-bloom-ranking" byRank, eventAnswers "Latest chapter ranking"⟩,
    ⟨"trace_chapter_by_user", .history, "WorldBloom", "Chapter ranking history of a user",
      chapterPath "trace-world-bloom-ranking" byUser, eventAnswers "Chapter ranking history"⟩,
    ⟨"trace_chapter_by_rank", .history, "WorldBloom", "Chapter ranking history at a rank",
      chapterPath "trace-world-bloom-ranking" byRank, eventAnswers "Chapter ranking history"⟩,
    ⟨"user_data", .identity, "Rankings", "Identity of a user",
      eventPath [.word "user-data", .param .user],
      [(200, "User identity"), (400, "Unknown server"), (404, "User not seen")]⟩,
    ⟨"ranking_lines", .lines, "Lines", "Ranking lines", eventPath [.word "ranking-lines"],
      eventAnswers "Milestone scores"⟩,
    ⟨"ranking_score_growth", .growth, "Lines", "Score growth",
      eventPath (.word "ranking-score-growth" :: byInterval), growthAnswers⟩,
    ⟨"chapter_ranking_lines", .lines, "WorldBloom", "Chapter ranking lines",
      chapterPath "world-bloom-ranking-lines" [], eventAnswers "Milestone scores"⟩,
    ⟨"chapter_score_growth", .growth, "WorldBloom", "Chapter score growth",
      chapterPath "world-bloom-ranking-score-growth" byInterval, growthAnswers⟩]

/-- The endpoint at a path, and the pieces that stand for its parameters. -/
def find? (path : String) : Option (Endpoint × List (Param × String)) :=
  all.findSome? fun e => (e.match? path).map (e, ·)

end Endpoint

end RankLedger.Api
