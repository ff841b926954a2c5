import RankLedger.Event.Kind
import RankLedger.Event.Phase
import RankLedger.Json.Value
import RankLedger.Region

set_option autoImplicit false

/-! # Snapshots

The live event of a region as one instant shows it. -/

namespace RankLedger

/-- A chapter and its phase. -/
structure ChapterPhase where
  character : Int
  phase : Phase
  deriving DecidableEq, Repr, Inhabited

/-- The live event of a region at one instant. -/
structure Snapshot where
  region : Region
  eventId : Int
  kind : EventKind
  phase : Phase
  /-- The name of the bundle of pictures that goes with the event. -/
  assetBundle : String
  /-- Whole seconds until scores freeze, while the event is ongoing. -/
  remaining : Option Int
  /-- The same in words. -/
  remainingLabel : Option String
  chapters : List ChapterPhase
  /-- The calendar entry. -/
  detail : Json.Value
  deriving Repr, Inhabited

/-- The chapter of a character. -/
def Snapshot.chapter? (s : Snapshot) (character : Int) : Option ChapterPhase :=
  s.chapters.find? (·.character = character)

end RankLedger
