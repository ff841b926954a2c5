import RankLedger.Api.Body
import RankLedger.Api.Endpoint
import RankLedger.Store.ReadPlan
import RankLedger.Text.Bytes
import RankLedger.Text.Numeral

set_option autoImplicit false

/-! # Questions

What a request asks about an event, and the plan of reads that answers it. Every plan first makes
sure that the event is there. -/

namespace RankLedger.Api

open Json (Value)

/-! ## Arguments -/

/-- The values of a path's parameters. -/
structure Arguments where
  server : String := ""
  eventId : Int := 0
  user : Option String := none
  rank : Option Int := none
  character : Option Int := none
  interval : Int := 0
  deriving DecidableEq, Repr, Inhabited

namespace Arguments

/-- Take in the value of a textual parameter. -/
def putText (a : Arguments) (value : String) : Param → Arguments
  | .server => { a with server := value }
  | .user => { a with user := some value }
  | _ => a

/-- Take in the value of a numeric parameter. -/
def putInteger (a : Arguments) (value : Int) : Param → Arguments
  | .event => { a with eventId := value }
  | .rank => { a with rank := some value }
  | .character => { a with character := some value }
  | .interval => { a with interval := value }
  | _ => a

/-- What is wrong with the pieces of a path. -/
inductive Flaw where
  /-- The bytes of a piece are no text. -/
  | notText (p : Param)
  /-- A piece is no number. -/
  | notInteger (position : Nat) (piece : String)
  deriving DecidableEq, Repr

/-- How a flaw is shown. -/
def Flaw.message : Flaw → String
  | .notText p => "Invalid URL: Invalid UTF-8 in \x60" ++ p.name ++ "\x60"
  | .notInteger position piece =>
      "Invalid URL: Cannot parse value at index " ++ toString position ++ " with value \x60"
        ++ piece
        ++ "\x60 to a \x60i64\x60"

/-- Take the percent escapes out of a piece. -/
def decodePiece (piece : Param × String) : Except Flaw (Param × String) :=
  match (Bytes.percentDecode (Bytes.ofText piece.2)).text? with
  | some s => .ok (piece.1, s)
  | none => .error (.notText piece.1)

/-- Take in the pieces from a position on. -/
def takeIn (a : Arguments) (position : Nat) : List (Param × String) → Except Flaw Arguments
  | [] => .ok a
  | (p, piece) :: pieces =>
      if p.isInteger then
        match Text.signed? piece with
        | some n => takeIn (a.putInteger n p) (position + 1) pieces
        | none => .error (.notInteger position piece)
      else takeIn (a.putText piece p) (position + 1) pieces

/-- The values that the pieces of a path stand for. Escapes are taken out of all pieces before any
number is read. -/
def ofPieces (pieces : List (Param × String)) : Except Flaw Arguments := do
  let decoded ← pieces.mapM decodePiece
  takeIn {} 0 decoded

/-- The rows that a path speaks of. -/
def filter (a : Arguments) : RowFilter where
  user := a.user
  rank := a.rank
  character := a.character

end Arguments

/-! ## Plans -/

open ReadPlan (fail)

/-- Make sure that an event is there. -/
def requireEvent (region : Region) (eventId : Int) : ReadPlan Unit := do
  if ← ReadPlan.readExists eventId then pure ()
  else fail .notFound ("event " ++ toString eventId ++ " has no records on " ++ region.name)

/-- Who a player was last seen as; nobody without a name to look for. -/
def readPlayer (eventId : Int) : Option String → ReadPlan (Option Identity)
  | some user => ReadPlan.readIdentity eventId user
  | none => pure none

/-- The latest row that a filter admits, and its player. -/
def latest (region : Region) (eventId : Int) (f : RowFilter) : ReadPlan Value := do
  requireEvent region eventId
  let row ← ReadPlan.readLatest eventId f
  let player ← readPlayer eventId (f.user <|> row.map (·.userId))
  if row.isNone && player.isNone then fail .notFound "no matching ranking"
  else pure (latestBody row player)

/-- All rows that a filter admits, and the player asked for. -/
def history (region : Region) (eventId : Int) (f : RowFilter) : ReadPlan Value := do
  requireEvent region eventId
  let rows ← ReadPlan.readHistory eventId f
  let player ← readPlayer eventId f.user
  if rows.isEmpty && player.isNone then fail .notFound "no matching ranking"
  else pure (historyBody rows player)

/-- Who a player was last seen as. -/
def identity (region : Region) (eventId : Int) (user : String) : ReadPlan Value := do
  requireEvent region eventId
  match ← ReadPlan.readIdentity eventId user with
  | some i => pure (identityBody i)
  | none => fail .notFound ("user " ++ user)

/-- The places reported for a board. -/
def ranksFor (character : Option Int) : List Int :=
  if character.isSome then chapterLines else mainLines

/-- The latest scores at the reported places. -/
def lines (region : Region) (eventId : Int) (character : Option Int) : ReadPlan Value := do
  requireEvent region eventId
  let lines ← ReadPlan.lines eventId character (ranksFor character)
  if lines.isEmpty then fail .notFound "no ranking lines recorded"
  else pure (.array (lines.map lineBody))

/-- How the scores at the reported places have grown in the last seconds. -/
def growth (region : Region) (eventId : Int) (character : Option Int) (interval now : Int) :
    ReadPlan Value :=
  if interval ≤ 0 then
    fail .invalidRequest ("interval must be positive, got " ++ toString interval)
  else do
    requireEvent region eventId
    let growths ← ReadPlan.growth eventId character (Word.saturate (now - interval))
      (ranksFor character)
    if growths.isEmpty then
      fail .notFound ("no score growth in the last " ++ toString interval ++ "s")
    else pure (.array (growths.map growthBody))

/-- The plan that answers what a path asks about an event in a second. -/
def plan (topic : Topic) (region : Region) (a : Arguments) (now : Int) : ReadPlan Value :=
  match topic with
  | .latest => latest region a.eventId a.filter
  | .history => history region a.eventId a.filter
  | .identity => identity region a.eventId (a.user.getD "")
  | .lines => lines region a.eventId a.character
  | .growth => growth region a.eventId a.character a.interval now
  | .health => pure .null

end RankLedger.Api
