import RankLedger.Event.Snapshot

set_option autoImplicit false

/-! # Calendar entries

A region's calendars are two lists: one of events, one of the chapters of events. Entries that are
not as expected are passed over. -/

namespace RankLedger

open Json (Value)

/-- An entry of the event calendar. -/
structure CalendarEvent where
  id : Int
  kindName : String
  window : EventWindow
  assetBundle : String
  deriving DecidableEq, Repr, Inhabited

/-- The event that a calendar entry describes. -/
def CalendarEvent.ofValue? (v : Value) : Option CalendarEvent :=
  match v.record? [["id"], ["eventType"], ["startAt"], ["aggregateAt"], ["closedAt"],
    ["assetbundleName"]] with
  | some [id, kindName, start, aggregate, closed, assetBundle] => do
      let id ← id.int64?
      let kindName ← kindName.text?
      let start ← start.int64?
      let aggregate ← aggregate.int64?
      let closed ← closed.int64?
      let assetBundle ← assetBundle.text?
      some ⟨id, kindName, ⟨start, aggregate, closed⟩, assetBundle⟩
  | _ => none

/-- An entry of the chapter calendar. -/
structure CalendarChapter where
  eventId : Int
  character : Int
  window : ChapterWindow
  deriving DecidableEq, Repr, Inhabited

/-- The chapter that a calendar entry describes. -/
def CalendarChapter.ofValue? (v : Value) : Option CalendarChapter :=
  match v.record? [["eventId"], ["gameCharacterId", "characterId"], ["chapterStartAt"],
    ["aggregateAt"], ["chapterEndAt"]] with
  | some [eventId, character, start, aggregate, finish] => do
      let eventId ← eventId.int64?
      let character ← character.int64?
      let start ← start.int64?
      let aggregate ← aggregate.int64?
      let finish ← finish.int64?
      some ⟨eventId, character, ⟨start, aggregate, finish⟩⟩
  | _ => none

/-! ## The live event -/

/-- A calendar entry that is live and of a known kind. -/
structure LiveEntry where
  event : CalendarEvent
  kind : EventKind
  /-- The entry as it stands in the calendar. -/
  detail : Value
  deriving Repr, Inhabited

namespace LiveEntry

/-- The entry, if it is live at an instant and of a known kind. -/
def ofValue? (now : Int) (v : Value) : Option LiveEntry := do
  let event ← CalendarEvent.ofValue? v
  if event.window.isLive now then
    let kind ← EventKind.ofName? event.kindName
    some ⟨event, kind, v⟩
  else none

/-- The first live entry of a calendar. -/
def first? (now : Int) (entries : List Value) : Option LiveEntry := entries.findSome? (ofValue? now)

/-- The phase at an instant. -/
def phase (e : LiveEntry) (now : Int) : Phase := e.event.window.phaseAt now

/-- Whole seconds until scores freeze, while the event is ongoing. -/
def remaining (e : LiveEntry) (now : Int) : Except Halt (Option Int) :=
  if e.phase now = .ongoing then
    match Word.sub? e.event.window.aggregate now with
    | some left => .ok (some (left.tdiv 1000))
    | none => .error .overflow
  else .ok none

end LiveEntry

/-! ## The chapters of an event -/

/-- Put a chapter at its place in ascending order of characters, over an earlier one of its
character. -/
def ChapterPhase.place (c : ChapterPhase) : List ChapterPhase → List ChapterPhase
  | [] => [c]
  | d :: ds =>
      if c.character < d.character then c :: d :: ds
      else if c.character = d.character then c :: ds
      else d :: place c ds

/-- The chapters of an event at an instant, by character, each with the phase of its last entry. -/
def chapterPhases (eventId now : Int) (entries : List Value) : List ChapterPhase :=
  let chapters := (entries.filterMap CalendarChapter.ofValue?).filter (·.eventId = eventId)
  chapters.foldl (fun ds c => ChapterPhase.place ⟨c.character, c.window.phaseAt now⟩ ds) []

end RankLedger
