import RankLedger.Calendar.Almanac
import RankLedger.Tracking.Tracker

set_option autoImplicit false

/-! # Daemons

A daemon looks after one region. Each cycle it asks the almanac for the live event, follows that
event if it is newer than the one followed so far, and writes, finalizes or waits as the phase
demands. -/

namespace RankLedger

/-- Why a cycle had nothing to do. -/
inductive SkipReason where
  /-- The live event is not the one followed. -/
  | eventMismatch (tracked detected : Int)
  /-- The last rows of the event are written. -/
  | eventEnded
  /-- Scores are frozen, and the results are not out yet. -/
  | aggregating
  | notStarted
  deriving DecidableEq, Repr, Inhabited

/-- How a cycle of a region ends. -/
inductive CycleOutcome where
  | noLiveEvent
  | masterDataUnavailable
  | skipped (reason : SkipReason)
  | recorded (summary : RecordSummary)
  /-- The last rows of the event are written. -/
  | eventFinalized (summary : RecordSummary)
  /-- The last rows of a chapter are written. -/
  | chapterFinalized (character : Int) (summary : RecordSummary)
  /-- An earlier cycle of the region was still running. -/
  | busy
  | failed (why : Halt)
  deriving DecidableEq, Repr, Inhabited

/-- What is known about a region from cycle to cycle. -/
structure Daemon where
  almanac : Almanac
  tracker : Option Tracker := none
  deriving Inhabited

namespace Daemon

/-- A daemon that follows no event yet. -/
def idle (region : Region) : Daemon := { almanac := .fresh region }

/-- The region looked after. -/
def region (d : Daemon) : Region := d.almanac.region

/-- Follow the event of a snapshot if it is newer than the one followed; its tables are made first.
The tracker that is replaced is stopped and handed back. -/
def ensure (d : Daemon) (store : Store) (s : Snapshot) :
    Except Failure (Option Tracker) × Daemon × Store :=
  if d.tracker.any (s.eventId ≤ ·.eventId) then (.ok none, d, store)
  else
    match store.provision s.eventId s.kind with
    | (.error f, store) => (.error f, d, store)
    | (.ok (), store) =>
        (.ok (d.tracker.map (·.stop.2)), { d with tracker := some (.ofSnapshot s) }, store)

/-- How a cycle of a region went. -/
structure Cycle where
  outcome : CycleOutcome
  daemon : Daemon
  sink : Sink
  /-- The looks taken at the feed. -/
  fetches : List Fetch

/-- The end of a cycle that never looked at the feed. -/
def Cycle.quiet (outcome : CycleOutcome) (d : Daemon) (sink : Sink) : Cycle :=
  ⟨outcome, d, sink, []⟩

/-- Run a cycle of a tracker; when it goes well, settle what its rows mean for the tracker. -/
def settle (d : Daemon) (t : Tracker) (feed : Feed) (sink : Sink) (s : Snapshot) (scope : Scope)
    (now : Int) (mark : Tracker → Tracker) (outcome : RecordSummary → CycleOutcome) : Cycle :=
  let r := t.record feed sink s scope now
  match r.outcome with
  | .ok summary => ⟨outcome summary, { d with tracker := some (mark r.tracker) }, r.sink, r.fetches⟩
  | .error f => ⟨.failed f, { d with tracker := some r.tracker }, r.sink, r.fetches⟩

/-- What a tracker does about a snapshot. -/
def advance (d : Daemon) (t : Tracker) (feed : Feed) (sink : Sink) (s : Snapshot) (now : Int) :
    Cycle :=
  if s.eventId ≠ t.eventId then .quiet (.skipped (.eventMismatch t.eventId s.eventId)) d sink
  else if t.isEnded then .quiet (.skipped .eventEnded) d sink
  else
    match s.phase with
    | .notStarted => .quiet (.skipped .notStarted) d sink
    | .aggregating => .quiet (.skipped .aggregating) d sink
    | .ended => d.settle t feed sink s .full now .markEnded .eventFinalized
    | .ongoing =>
        match if t.kind.hasChapters then t.chapterToFinalize s else none with
        | some character =>
            d.settle t feed sink s (.chapterFinal character) now (·.markChapterEnded character)
              (.chapterFinalized character)
        | none => d.settle t feed sink s .full now id .recorded

/-- What a daemon does about a snapshot. -/
def attend (d : Daemon) (feed : Feed) (sink : Sink) (s : Snapshot) (now : Int) : Cycle :=
  match d.ensure sink.store s with
  | (.error f, d, store) => .quiet (.failed f) d { sink with store := store }
  | (.ok _, d, store) =>
      let sink := { sink with store := store }
      match d.tracker with
      | some t => d.advance t feed sink s now
      | none => .quiet (.failed (Failure.mk .internal "no tracker installed")) d sink

/-- Run a cycle. -/
def runCycle (d : Daemon) (files : CalendarFiles) (feed : Feed) (sink : Sink) (now : Int) : Cycle :=
  let (found, almanac) := d.almanac.current files now
  let d := { d with almanac := almanac }
  match found with
  | .ok (some s) => d.attend feed sink s now
  | .ok none => .quiet .noLiveEvent d sink
  | .error (.failure _) => .quiet .masterDataUnavailable d sink
  | .error .overflow => .quiet (.failed .overflow) d sink

end Daemon

end RankLedger
