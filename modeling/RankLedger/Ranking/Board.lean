set_option autoImplicit false

/-! # Leaderboards

What one look at a leaderboard shows: the standings of players on the main board, and a board for
each chapter. Two views are looked at, the best hundred and the border, which starts with the place
where the first one ends. -/

namespace RankLedger

/-- The place of a player on a leaderboard. -/
structure Standing where
  userId : String
  rank : Int
  score : Int
  name : String
  /-- The team the player stands for. -/
  team : Option Int := none
  /-- The chapter, on a chapter's board. -/
  character : Option Int := none
  deriving DecidableEq, Repr, Inhabited

/-- The board of one chapter. -/
structure ChapterBoard where
  character : Int
  standings : List Standing
  deriving DecidableEq, Repr, Inhabited

/-- One view of the leaderboards of an event. -/
structure Board where
  standings : List Standing := []
  chapters : List ChapterBoard := []
  deriving DecidableEq, Repr, Inhabited

/-- The standings of the first board of a character; none without one. -/
def Board.chapter (b : Board) (character : Int) : List Standing :=
  match b.chapters.find? (·.character = character) with
  | some c => c.standings
  | none => []

/-- The two views of a leaderboard. -/
inductive View where
  /-- The best hundred. -/
  | top
  /-- Chosen places below them. -/
  | border
  deriving DecidableEq, Repr, Inhabited

/-- The last place of the top view, which the border view repeats. -/
def boundaryRank : Int := 100

/-- The places reported for the main board. -/
def mainLines : List Int :=
  [10, 20, 30, 40, 50, 100, 200, 300, 400, 500, 1000, 1500, 2000, 2500, 3000, 4000, 5000, 10000,
    20000, 30000, 40000, 50000, 100000, 200000, 300000]

/-- The places reported for a chapter's board. -/
def chapterLines : List Int :=
  [10, 20, 30, 40, 50, 100, 200, 300, 400, 500, 1000, 2000, 3000, 4000, 5000, 7000, 10000, 20000,
    30000, 40000, 50000, 70000, 100000]

end RankLedger
