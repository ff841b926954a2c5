import RankLedger.FirstOffer
import RankLedger.Ranking.Board

set_option autoImplicit false

/-! # Rows

What is stored: the place and score of a player in one cycle, stamped with its second, and the name
and team that a player was last seen with. A `Batch` is all that one cycle writes. -/

namespace RankLedger

/-- The place and score of a player in one cycle. -/
structure RankRow where
  /-- Seconds since 1970. -/
  timestamp : Int
  userId : String
  score : Int
  rank : Int
  /-- The chapter, in rows of chapters. -/
  character : Option Int
  deriving DecidableEq, Repr, Inhabited

/-- The name and team that a player was last seen with. -/
structure Identity where
  userId : String
  name : String
  team : Option Int
  deriving DecidableEq, Repr, Inhabited

/-! ## Rows of standings -/

namespace Standing

/-- The row of a standing on the main board. -/
def mainRow (timestamp : Int) (s : Standing) : RankRow :=
  ⟨timestamp, s.userId, s.score, s.rank, none⟩

/-- The row of a standing on a chapter's board. -/
def chapterRow (timestamp : Int) (s : Standing) : RankRow :=
  ⟨timestamp, s.userId, s.score, s.rank, s.character⟩

/-- Who holds the standing. -/
def identity (s : Standing) : Identity := ⟨s.userId, s.name, s.team⟩

end Standing

/-- All that one cycle writes. -/
structure Batch where
  rankings : List RankRow := []
  chapters : List RankRow := []
  identities : List Identity := []
  deriving DecidableEq, Repr, Inhabited

namespace Batch

/-- The rows of standings, of which the first of each player counts on the main board, and the first
of each player and character on the chapters' boards; standings without a character have no place
there. -/
def project (timestamp : Int) (main chapter : List Standing) : Batch :=
  let chapter := chapter.filter (·.character.isSome)
  { rankings := (firstBy (·.userId) main).map (Standing.mainRow timestamp)
    chapters :=
      (firstBy (fun s => (s.userId, s.character)) chapter).map (Standing.chapterRow timestamp)
    identities := (firstBy (·.userId) (main ++ chapter)).map Standing.identity }

/-- Whether there are no rows to write. -/
def isEmpty (b : Batch) : Bool := b.rankings.isEmpty && b.chapters.isEmpty

end Batch

/-! ## Reading rows -/

/-- Which rows to read. -/
structure RowFilter where
  user : Option String := none
  rank : Option Int := none
  /-- Read the chapter of a character instead of the main board. -/
  character : Option Int := none
  /-- Leave out what is older. -/
  since : Option Int := none
  deriving DecidableEq, Repr, Inhabited

namespace RowFilter

/-- Whether a row is asked for. -/
def admits (f : RowFilter) (r : RankRow) : Bool :=
  f.user.all (· = r.userId) && f.rank.all (· = r.rank)
    && (f.character.isNone || f.character = r.character) && f.since.all (· ≤ r.timestamp)

/-- The rows that are asked for, by ascending timestamp. In which order rows of one timestamp come
is open; here it is that in which they were stored. -/
def history (f : RowFilter) (rows : List RankRow) : List RankRow :=
  (rows.filter f.admits).mergeSort (fun a b => a.timestamp ≤ b.timestamp)

/-- The later of two rows; of two with one timestamp the second, as it would come last. -/
def later (best : Option RankRow) (r : RankRow) : Option RankRow :=
  match best with
  | some b => if b.timestamp ≤ r.timestamp then some r else some b
  | none => some r

/-- A row with the greatest timestamp of those that are asked for. Which of several it is, is open;
here it is the one stored last. -/
def latest? (f : RowFilter) (rows : List RankRow) : Option RankRow :=
  (rows.filter f.admits).foldl later none

end RowFilter

/-- The score at a place. -/
structure Line where
  rank : Int
  score : Int
  userId : String
  timestamp : Int
  deriving DecidableEq, Repr, Inhabited

/-- How a score at a place has grown. -/
structure Growth where
  rank : Int
  timestampEarlier : Int
  scoreEarlier : Int
  timestampLatest : Int
  scoreLatest : Int
  growth : Int
  deriving DecidableEq, Repr, Inhabited

end RankLedger
