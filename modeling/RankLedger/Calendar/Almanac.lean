import RankLedger.Calendar.DigestCache
import RankLedger.Calendar.Entry
import RankLedger.Event.RemainingLabel

set_option autoImplicit false

/-! # The almanac of a region

What the calendar files of a region say about an instant. The files are looked at on each question;
the chapter calendar only for an event that has chapters. -/

namespace RankLedger

/-- The calendar files of a region; either may be missing. -/
structure CalendarFiles where
  events : Option Bytes := none
  chapters : Option Bytes := none
  deriving DecidableEq, Repr, Inhabited

/-- What is held of the calendars of a region. -/
structure Almanac where
  region : Region
  events : DigestCache := { name := "events.json" }
  chapters : DigestCache := { name := "worldBlooms.json" }
  deriving Repr, Inhabited

namespace Almanac

/-- An almanac that holds nothing yet. -/
def fresh (region : Region) : Almanac := { region := region }

/-- The chapters of an event at an instant. -/
def chaptersAt (a : Almanac) (files : CalendarFiles) (eventId now : Int) :
    Except Failure (List ChapterPhase) × Almanac :=
  let (entries, chapters) := a.chapters.load files.chapters
  (entries.map (chapterPhases eventId now), { a with chapters := chapters })

/-- The snapshot of a live entry. -/
def snapshot (a : Almanac) (e : LiveEntry) (now : Int) (remaining : Option Int)
    (chapters : List ChapterPhase) : Snapshot where
  region := a.region
  eventId := e.event.id
  kind := e.kind
  phase := e.phase now
  assetBundle := e.event.assetBundle
  remaining := remaining
  remainingLabel := remaining.map (RemainingLabel.render a.region true)
  chapters := chapters
  detail := e.detail

/-- The live event at an instant, if there is one. -/
def current (a : Almanac) (files : CalendarFiles) (now : Int) :
    Except Halt (Option Snapshot) × Almanac :=
  let (entries, events) := a.events.load files.events
  let a := { a with events := events }
  match entries.map (LiveEntry.first? now) with
  | .error f => (.error f, a)
  | .ok none => (.ok none, a)
  | .ok (some e) =>
      match e.remaining now with
      | .error h => (.error h, a)
      | .ok remaining =>
          if e.kind.hasChapters then
            let (chapters, a) := a.chaptersAt files e.event.id now
            (Halt.lift (chapters.map fun cs => some (a.snapshot e now remaining cs)), a)
          else (.ok (some (a.snapshot e now remaining [])), a)

end Almanac

end RankLedger
