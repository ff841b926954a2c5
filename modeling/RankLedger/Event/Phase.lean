import RankLedger.Word

set_option autoImplicit false

/-! # Phases of events and chapters

An event passes through four phases in one direction. Its window of three times (in thousandths of a
second since 1970) gives the phase of each instant, and tells how long the event counts as live: a
while beyond its close, so that its final result is still picked up. A chapter has a window of its
own, without that grace. -/

namespace RankLedger

/-! ## Phases -/

/-- The phases in their order. -/
inductive Phase where
  | notStarted
  | ongoing
  | aggregating
  | ended
  deriving DecidableEq, Repr, Inhabited

namespace Phase

/-- All phases in their order. -/
def all : List Phase := [.notStarted, .ongoing, .aggregating, .ended]

/-- The name of a phase. -/
def name : Phase → String
  | .notStarted => "not_started"
  | .ongoing => "ongoing"
  | .aggregating => "aggregating"
  | .ended => "ended"

/-- The place in the order. -/
def index : Phase → Nat
  | .notStarted => 0
  | .ongoing => 1
  | .aggregating => 2
  | .ended => 3

instance : LE Phase := ⟨fun a b => a.index ≤ b.index⟩

instance (a b : Phase) : Decidable (a ≤ b) := inferInstanceAs (Decidable (a.index ≤ b.index))

theorem le_iff {a b : Phase} : a ≤ b ↔ a.index ≤ b.index := Iff.rfl

/-- The phase with exactly this name. -/
def ofName? (s : String) : Option Phase := all.find? (·.name = s)

theorem ofName?_name (phase : Phase) : ofName? phase.name = some phase := by
  cases phase <;> decide

end Phase

/-! ## Windows -/

/-- How long results settle, and how long a closed event stays live. -/
def grace : Int := 600000

/-- The times of an event. -/
structure EventWindow where
  /-- When it starts. -/
  start : Int
  /-- When scores freeze. -/
  aggregate : Int
  /-- When it closes. -/
  closed : Int
  deriving DecidableEq, Repr, Inhabited

namespace EventWindow

/-- The end of live time: the grace after the close, or the end of time. -/
def liveEnd (w : EventWindow) : Int := Word.saturate (w.closed + grace)

/-- Whether the event counts as live. -/
def isLive (w : EventWindow) (now : Int) : Bool := w.start ≤ now && now < w.liveEnd

/-- When the results have settled: the grace after the freeze, but no later than the close. -/
def settled (w : EventWindow) : Int := min (Word.saturate (w.aggregate + grace)) w.closed

/-- The phase at an instant. -/
def phaseAt (w : EventWindow) (now : Int) : Phase :=
  if now < w.start then .notStarted
  else if now < w.aggregate then .ongoing
  else if now < w.settled then .aggregating
  else .ended

end EventWindow

/-- The times of a chapter. -/
structure ChapterWindow where
  /-- When it starts. -/
  start : Int
  /-- When scores freeze. -/
  aggregate : Int
  /-- When it ends. -/
  finish : Int
  deriving DecidableEq, Repr, Inhabited

/-- The phase at an instant: the latest of the times that have come decides. -/
def ChapterWindow.phaseAt (w : ChapterWindow) (now : Int) : Phase :=
  if w.finish ≤ now then .ended
  else if w.aggregate ≤ now then .aggregating
  else if w.start ≤ now then .ongoing
  else .notStarted

end RankLedger
