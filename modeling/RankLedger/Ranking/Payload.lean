import RankLedger.Json.Read
import RankLedger.Ranking.Board

set_option autoImplicit false

/-! # Payloads of the ranking feed

The feed sends each view as a JSON record in which every field may be absent. An item becomes a
standing if it has a user, a place, a score and a name; a chapter's block becomes a board if it has
a character and is not marked as aggregated. -/

namespace RankLedger

open Json (Reader)

/-- An item of a leaderboard. -/
structure Item where
  userId : Option Nat
  name : Option String
  rank : Option Int
  score : Option Int
  team : Option Int
  deriving DecidableEq, Repr, Inhabited

/-- A chapter's block. -/
structure ChapterBlock where
  character : Option Int
  aggregated : Option Bool
  items : List Item
  deriving DecidableEq, Repr, Inhabited

/-- The payload of one view. -/
structure Payload where
  items : List Item
  blocks : List ChapterBlock
  deriving DecidableEq, Repr, Inhabited

/-! ## Reading -/

/-- The names of fields by view. -/
structure PayloadNames where
  items : String
  blocks : String
  blockItems : String

/-- The names of the fields of a view. -/
def View.names : View → PayloadNames
  | .top => ⟨"rankings", "userWorldBloomChapterRankings", "rankings"⟩
  | .border => ⟨"borderRankings", "userWorldBloomChapterRankingBorders", "borderRankings"⟩

namespace Payload

/-- The block that tells a player's team. -/
def readTeam : Reader (Option Int) := fun t =>
  match Reader.fields ["cheerfulCarnivalTeamId"] t with
  | some [team] => Reader.field Reader.int64 team
  | _ => none

/-- An item of a leaderboard. -/
def readItem : Reader Item := fun t =>
  match Reader.fields ["userId", "name", "rank", "score", "userCheerfulCarnival"] t with
  | some [userId, name, rank, score, team] => do
      let userId ← Reader.field Reader.uint64 userId
      let name ← Reader.field Reader.text name
      let rank ← Reader.field Reader.int64 rank
      let score ← Reader.field Reader.int64 score
      let team ← Reader.field readTeam team
      some ⟨userId, name, rank, score, team.join⟩
  | _ => none

/-- A list that may be absent. -/
def readItems : Option Json.Tree → Option (List Item) := fun t =>
  (Reader.field (Reader.list readItem) t).map (·.getD [])

/-- A chapter's block. -/
def readBlock (v : View) : Reader ChapterBlock := fun t =>
  match Reader.fields ["gameCharacterId", "isWorldBloomChapterAggregate", v.names.blockItems] t with
  | some [character, aggregated, items] => do
      let character ← Reader.field Reader.int64 character
      let aggregated ← Reader.field Reader.bool aggregated
      let items ← readItems items
      some ⟨character, aggregated, items⟩
  | _ => none

/-- The payload of a view. -/
def read (v : View) : Reader Payload := fun t =>
  match Reader.fields [v.names.items, v.names.blocks] t with
  | some [items, blocks] => do
      let items ← readItems items
      let blocks ← Reader.field (Reader.list (readBlock v)) blocks
      some ⟨items, blocks.getD []⟩
  | _ => none

/-- The payload of a view from the bytes of a JSON text. -/
def ofBytes? (v : View) (b : Bytes) : Option Payload := (Json.Tree.ofBytes? b).bind (read v)

end Payload

/-! ## What a payload shows -/

/-- The standing of an item that has all it takes. -/
def Item.standing? (character : Option Int) (item : Item) : Option Standing := do
  some {
    userId := toString (← item.userId)
    rank := ← item.rank
    score := ← item.score
    name := ← item.name
    team := item.team
    character := character }

/-- The board of a chapter's block that has a character and is not marked as aggregated. -/
def ChapterBlock.board? (block : ChapterBlock) : Option ChapterBoard :=
  if block.aggregated = some true then none
  else block.character.map fun c => ⟨c, block.items.filterMap (Item.standing? (some c))⟩

/-- The boards that a payload shows. -/
def Payload.board (p : Payload) : Board :=
  ⟨p.items.filterMap (Item.standing? none), p.blocks.filterMap ChapterBlock.board?⟩

end RankLedger
