import RankLedger.Event.Snapshot
import RankLedger.Json.Value
import RankLedger.ResponseCache
import RankLedger.Store.Basic
import RankLedger.Tracking.Border

set_option autoImplicit false

/-! # Trackers

A tracker follows one event. A cycle fetches both views, works out what to write (`Tracker.plan`),
writes it in one go, and only then commits the digests of the borders and drops the answers kept
about the region. When a fetch or the writing fails, nothing has changed. -/

namespace RankLedger

/-! ## What a cycle works with -/

/-- A look at a view of an event's leaderboards. -/
structure Fetch where
  region : Region
  eventId : Int
  view : View
  deriving DecidableEq, Repr, Inhabited

/-- The ranking feed at one time. -/
abbrev Feed : Type := Fetch → Except Failure Board

/-- Where cycles write, and the answers that their writing makes stale. -/
structure Sink where
  store : Store
  cache : ResponseCache Json.Value
  deriving Inhabited

/-- What a cycle is to write. -/
inductive Scope where
  /-- The main board, and the chapter whose turn it is. -/
  | full
  /-- The last rows of a chapter, and nothing else. -/
  | chapterFinal (character : Int)
  deriving DecidableEq, Repr, Inhabited

/-- What a cycle offered to its store, in which a row of the same key may have been before. -/
structure RecordSummary where
  /-- The second of the cycle. -/
  recordedAt : Int
  /-- The rows offered to the main board. -/
  rankings : Nat
  /-- The rows offered to the chapters' board. -/
  chapters : Nat
  /-- The chapter whose turn it was. -/
  character : Option Int
  deriving DecidableEq, Repr, Inhabited

/-! ## The tracker -/

/-- What is known of the event being followed. -/
structure Tracker where
  region : Region
  eventId : Int
  kind : EventKind
  /-- The last rows of the event are written. -/
  isEnded : Bool := false
  /-- The chapters whose last rows are written. -/
  endedChapters : List Int := []
  borders : BorderLedger := {}
  isStopped : Bool := false
  deriving DecidableEq, Repr, Inhabited

namespace Tracker

/-- A tracker for the event of a snapshot. -/
def ofSnapshot (s : Snapshot) : Tracker where
  region := s.region
  eventId := s.eventId
  kind := s.kind

/-- Whether the last rows of a chapter are written. -/
def isChapterEnded (t : Tracker) (character : Int) : Bool := t.endedChapters.contains character

/-- The last rows of the event are written. -/
def markEnded (t : Tracker) : Tracker := { t with isEnded := true }

/-- The last rows of a chapter are written. -/
def markChapterEnded (t : Tracker) (character : Int) : Tracker :=
  { t with endedChapters := offer id t.endedChapters character }

/-- Stop. Tells whether the tracker was not stopped before. -/
def stop (t : Tracker) : Bool × Tracker := (!t.isStopped, { t with isStopped := true })

/-! ## Choosing a chapter -/

/-- Whether a chapter still takes rows in a full cycle. -/
def isOpenChapter (t : Tracker) (c : ChapterPhase) : Bool :=
  match c.phase with
  | .ongoing => true
  | .ended => !t.isChapterEnded c.character
  | .notStarted | .aggregating => false

/-- Whether a chapter has ended and lacks its last rows. -/
def awaitsFinal (t : Tracker) (c : ChapterPhase) : Bool :=
  c.phase = .ended && !t.isChapterEnded c.character

/-- The chapter that a full cycle writes: the first that still takes rows. -/
def chapterToRecord (t : Tracker) (s : Snapshot) : Option Int :=
  (s.chapters.find? t.isOpenChapter).map (·.character)

/-- The chapter whose last rows are due: the first that has ended without them. -/
def chapterToFinalize (t : Tracker) (s : Snapshot) : Option Int :=
  (s.chapters.find? t.awaitsFinal).map (·.character)

/-- The chapter whose turn it is in a cycle. -/
def chapterOf (t : Tracker) (s : Snapshot) (scope : Scope) : Option Int :=
  if t.kind.hasChapters then
    match scope with
    | .full => t.chapterToRecord s
    | .chapterFinal character => some character
  else none

/-! ## A cycle -/

/-- What a cycle is about to write, and the digests to commit afterwards. -/
structure Plan where
  /-- The second of the cycle. -/
  second : Int
  batch : Batch
  staged : List StagedBorder
  character : Option Int
  deriving DecidableEq, Repr, Inhabited

/-- The merge of the main boards. -/
def mainMerge (t : Tracker) (top border : Board) : Scope → Merge
  | .full =>
      t.borders.stage top.standings border.standings (Border.mainKey t.region t.eventId)
  | .chapterFinal _ => ⟨[], none⟩

/-- The merge of the boards of a chapter. -/
def chapterMerge (t : Tracker) (top border : Board) : Option Int → Merge
  | some character =>
      t.borders.stage (top.chapter character) (border.chapter character)
        (Border.chapterKey t.region t.eventId character)
  | none => ⟨[], none⟩

/-- Work out what a cycle writes. -/
def plan (t : Tracker) (s : Snapshot) (scope : Scope) (now : Int) (top border : Board) : Plan :=
  let character := t.chapterOf s scope
  let main := t.mainMerge top border scope
  let chapter := t.chapterMerge top border character
  { second := now.fdiv 1000
    batch := Batch.project (now.fdiv 1000) main.standings chapter.standings
    staged := main.staged.toList ++ chapter.staged.toList
    character := character }

/-- How a cycle went. -/
structure Recording where
  outcome : Except Failure RecordSummary
  tracker : Tracker
  sink : Sink
  /-- The looks taken at the feed. -/
  fetches : List Fetch

/-- Write what a plan says, and commit what it staged. -/
def carryOut (t : Tracker) (p : Plan) (sink : Sink) :
    Except Failure RecordSummary × Tracker × Sink :=
  match sink.store.record t.eventId p.batch with
  | (.ok written, store) =>
      (.ok ⟨p.second, written.rankings, written.chapters, p.character⟩,
        { t with borders := t.borders.commitAll p.staged },
        ⟨store, (sink.cache.invalidate t.region.name).2⟩)
  | (.error f, store) => (.error f, t, { sink with store := store })

/-- Run a cycle. -/
def record (t : Tracker) (feed : Feed) (sink : Sink) (s : Snapshot) (scope : Scope) (now : Int) :
    Recording :=
  let topFetch : Fetch := ⟨t.region, t.eventId, .top⟩
  let borderFetch : Fetch := ⟨t.region, t.eventId, .border⟩
  match feed topFetch with
  | .error f => ⟨.error f, t, sink, [topFetch]⟩
  | .ok top =>
      match feed borderFetch with
      | .error f => ⟨.error f, t, sink, [topFetch, borderFetch]⟩
      | .ok border =>
          let (outcome, tracker, sink) := t.carryOut (t.plan s scope now top border) sink
          ⟨outcome, tracker, sink, [topFetch, borderFetch]⟩

end Tracker

end RankLedger
