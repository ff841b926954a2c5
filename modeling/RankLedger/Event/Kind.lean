import RankLedger.Failure

set_option autoImplicit false

/-! # Kinds of events

A calendar names the kind of each event; only one of them has a leaderboard per chapter besides the
main one. -/

namespace RankLedger

/-- The kinds of events. -/
inductive EventKind where
  /-- One leaderboard. -/
  | marathon
  /-- One leaderboard of players who each stand for a team. -/
  | cheerfulCarnival
  /-- A main leaderboard, and one for each chapter. -/
  | worldBloom
  deriving DecidableEq, Repr, Inhabited

namespace EventKind

/-- All kinds. -/
def all : List EventKind := [.marathon, .cheerfulCarnival, .worldBloom]

/-- The name of a kind in calendars and answers. -/
def name : EventKind → String
  | .marathon => "marathon"
  | .cheerfulCarnival => "cheerful_carnival"
  | .worldBloom => "world_bloom"

/-- Whether events of this kind have chapters. -/
def hasChapters : EventKind → Bool
  | .worldBloom => true
  | _ => false

/-- The kind with exactly this name. -/
def ofName? (s : String) : Option EventKind := all.find? (·.name = s)

/-- The kind with exactly this name, or the failure of a calendar that uses an unknown one. -/
def parse (s : String) : Except Failure EventKind :=
  match ofName? s with
  | some kind => .ok kind
  | none => .error ⟨.masterData, "unknown event type: " ++ s⟩

theorem ofName?_name (kind : EventKind) : ofName? kind.name = some kind := by
  cases kind <;> decide

end EventKind

end RankLedger
